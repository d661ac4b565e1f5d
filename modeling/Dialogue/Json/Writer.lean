import Dialogue.Decimal.Notation
import Dialogue.Json.Value
import Dialogue.Text.Digit

/-!
Writing JSON text. The text is ASCII: every character outside the range from the space to the tilde
is an escape. A style fixes the separators; the indented form puts every item on a line of its own.
-/

namespace Dialogue.Json

open Dialogue.Text

def unitEscape (c : Char) : List Char :=
  let n := c.toNat
  if n < 0x10000 then '\\' :: 'u' :: hex 4 n
  else
    '\\' :: 'u' :: hex 4 (0xD800 + (n - 0x10000) / 1024) ++
      '\\' :: 'u' :: hex 4 (0xDC00 + (n - 0x10000) % 1024)

def escaped (c : Char) : List Char :=
  if c = '"' then ['\\', '"']
  else if c = '\\' then ['\\', '\\']
  else if c = '\n' then ['\\', 'n']
  else if c = '\r' then ['\\', 'r']
  else if c = '\t' then ['\\', 't']
  else if c = '\x0c' then ['\\', 'f']
  else if c = '\x08' then ['\\', 'b']
  else if ' ' ≤ c && c ≤ '~' then [c]
  else unitEscape c

def stringText (s : String) : String :=
  String.ofList ('"' :: s.toList.flatMap escaped ++ ['"'])

def realText (x : Float) : String := Decimal.text ⟨"NaN", "Infinity"⟩ x

structure Style where
  comma : String
  colon : String
  real : Float → String

def spaced : Style := ⟨", ", ": ", realText⟩

def compact : Style := ⟨",", ":", realText⟩

mutual

def write (style : Style) : Json → String
  | null => "null"
  | bool b => if b then "true" else "false"
  | whole n => toString n
  | real x => style.real x
  | text s => stringText s
  | list items => "[" ++ style.comma.intercalate (writeItems style items) ++ "]"
  | object fs => "\x7b" ++ style.comma.intercalate (writeFields style fs) ++ "\x7d"

def writeItems (style : Style) : List Json → List String
  | [] => []
  | v :: rest => write style v :: writeItems style rest

def writeFields (style : Style) : List (String × Json) → List String
  | [] => []
  | (k, v) :: rest => (stringText k ++ style.colon ++ write style v) :: writeFields style rest

end

def block (depth : Nat) (opening closing : String) (parts : List String) : String :=
  let margin := String.ofList (List.replicate (2 * depth) ' ')
  opening ++ "\n" ++ (",\n".intercalate (parts.map fun p => margin ++ "  " ++ p)) ++ "\n" ++ margin ++
    closing

mutual

def indentedAt : Nat → Json → String
  | _, list [] => "[]"
  | _, object [] => "\x7b\x7d"
  | depth, list (v :: vs) => block depth "[" "]" (indentedItems (depth + 1) (v :: vs))
  | depth, object (f :: fs) => block depth "\x7b" "\x7d" (indentedFields (depth + 1) (f :: fs))
  | _, v => write spaced v

def indentedItems : Nat → List Json → List String
  | _, [] => []
  | depth, v :: rest => indentedAt depth v :: indentedItems depth rest

def indentedFields : Nat → List (String × Json) → List String
  | _, [] => []
  | depth, (k, v) :: rest => (stringText k ++ ": " ++ indentedAt depth v) :: indentedFields depth rest

end

def indented (v : Json) : String := indentedAt 0 v

end Dialogue.Json
