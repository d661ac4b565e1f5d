import Dialogue.Json.Value

/-!
How much the machine takes. Lists and objects are read and written by calls inside one another, so
how deep they may go depends on the stack that is left; the store has a bound of its own. The
program is written over any such limits.
-/

namespace Dialogue

class Limits where
  /-- The deepest nesting of a text that is read as JSON. -/
  read : Nat
  read_pos : 0 < read
  /-- The deepest nesting of a value that is written as JSON. -/
  write : Nat
  /-- The greatest height of a value whose plain text is told. -/
  tell : Nat
  /-- The values that the store takes, each in the form in which it is stored. -/
  stores : Json → Bool

namespace Limits

abbrev usual : Limits where
  read := 990
  read_pos := by decide
  write := 989
  tell := 990
  stores v := v.height < 254

end Limits

namespace Json

inductive Pass where
  | reading (isObject : Bool)
  | writing
  | telling
deriving DecidableEq

def Pass.tooDeep : Pass → String
  | reading isObject =>
    "maximum recursion depth exceeded while decoding a JSON " ++
      (if isObject then "object" else "array") ++ " from a unicode string"
  | writing => "maximum recursion depth exceeded while encoding a JSON object"
  | telling => "maximum recursion depth exceeded while getting the repr of an object"

end Json

end Dialogue
