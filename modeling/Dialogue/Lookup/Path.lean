import Dialogue.Limits
import Dialogue.Text.Blank
import Dialogue.Text.Digit
import Dialogue.Text.Quoted

/-!
Dotted paths into a value. A segment is a key of an object or an index of a list, written with
digits of any script; where nothing is found the result is null.
-/

namespace Dialogue.Lookup

open Text

inductive PathError where
  | noNumber (segment : List Char)
  | tooManyDigits (count : Nat)
  | tooDeep (pass : Json.Pass)
deriving DecidableEq

def PathError.message : PathError → String
  | noNumber segment =>
    "invalid literal for int() with base 10: " ++ String.ofList ((quoted segment).take 200)
  | tooManyDigits count => Text.tooManyDigits count
  | tooDeep pass => pass.tooDeep

def segments (path : String) : List (List Char) := pieces (· = '.') path.toList

def index (segment : List Char) : Except PathError Nat :=
  let count := (segment.takeWhile fun c => (decimalValue c).isSome).length
  if digitLimit < count then .error (.tooManyDigits count)
  else match decimalFrom 0 segment with
    | some n => .ok n
    | none => .error (.noNumber segment)

def member (segment : List Char) : Json → Except PathError Json
  | .object fs => .ok ((Fields.get? fs (String.ofList segment)).getD .null)
  | .list items =>
    if allDigits segment then (index segment).map fun i => items[i]?.getD .null
    else .ok .null
  | _ => .ok .null

def follow : List (List Char) → Json → Except PathError Json
  | [], v => .ok v
  | s :: rest, v => do
    let next ← member s v
    if next.isNull then return .null else follow rest next

def valueAt (v : Json) (path : String) : Except PathError Json := follow (segments path) v

end Dialogue.Lookup
