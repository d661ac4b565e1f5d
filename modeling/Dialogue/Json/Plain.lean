import Dialogue.Decimal.Notation
import Dialogue.Json.Value
import Dialogue.Text.Quoted

/-!
Plain text of a value, as it appears in sentences: a string stands for itself at the top and is
quoted inside lists and objects.
-/

namespace Dialogue.Json

open Dialogue.Text

def plainReal (x : Float) : String := Decimal.text ⟨"nan", "inf"⟩ x

mutual

def literal : Json → String
  | null => "None"
  | bool b => if b then "True" else "False"
  | whole n => toString n
  | real x => plainReal x
  | text s => quotedText s
  | list items => "[" ++ ", ".intercalate (literals items) ++ "]"
  | object fs => "\x7b" ++ ", ".intercalate (entries fs) ++ "\x7d"

def literals : List Json → List String
  | [] => []
  | v :: rest => literal v :: literals rest

def entries : List (String × Json) → List String
  | [] => []
  | (k, v) :: rest => (quotedText k ++ ": " ++ literal v) :: entries rest

end

def plain : Json → String
  | text s => s
  | v => literal v

def kindName : Json → String
  | null => "NoneType"
  | bool _ => "bool"
  | whole _ => "int"
  | real _ => "float"
  | text _ => "str"
  | list _ => "list"
  | object _ => "dict"

end Dialogue.Json
