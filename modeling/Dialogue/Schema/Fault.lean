import Dialogue.Json.Value

/-!
Faults of structured data. A fault says where it stands, as a path of keys and indexes from the
outermost value, and what is wrong there; the wording follows from the cause alone.
-/

namespace Dialogue.Schema

inductive Key where
  | name (s : String)
  | index (n : Nat)
deriving DecidableEq

def Key.text : Key → String
  | name s => s
  | index n => toString n

inductive Cause where
  | missing
  | notText
  | notList
  | notDictionary
  | notRecord (kind : String)
  | noAttributes
  | tagMissing
  | tagUnknown (tag : String) (known : List String)
  | notAmong (options : List String)
  | notNumber
  | unreadableNumber
  | notBoolean
  | unreadableBoolean
  | notInteger
  | notFinite
  | fractional
  | unreadableInteger
  | tooShort
  | tooLong
  | brokenBody
deriving DecidableEq

namespace Cause

def code : Cause → String
  | missing => "missing"
  | notText => "string_type"
  | notList => "list_type"
  | notDictionary => "dict_type"
  | notRecord _ => "model_type"
  | noAttributes => "model_attributes_type"
  | tagMissing => "union_tag_not_found"
  | tagUnknown _ _ => "union_tag_invalid"
  | notAmong _ => "literal_error"
  | notNumber => "float_type"
  | unreadableNumber => "float_parsing"
  | notBoolean => "bool_type"
  | unreadableBoolean => "bool_parsing"
  | notInteger => "int_type"
  | notFinite => "finite_number"
  | fractional => "int_from_float"
  | unreadableInteger => "int_parsing"
  | tooShort => "string_too_short"
  | tooLong => "string_too_long"
  | brokenBody => "json_invalid"

def quote (s : String) : String := "'" ++ s ++ "'"

def alternatives : List String → String
  | [] => ""
  | [a] => quote a
  | [a, b] => quote a ++ " or " ++ quote b
  | a :: rest => quote a ++ ", " ++ alternatives rest

def message : Cause → String
  | missing => "Field required"
  | notText => "Input should be a valid string"
  | notList => "Input should be a valid list"
  | notDictionary => "Input should be a valid dictionary"
  | notRecord kind => "Input should be a valid dictionary or instance of " ++ kind
  | noAttributes => "Input should be a valid dictionary or object to extract fields from"
  | tagMissing => "Unable to extract tag using discriminator 'type'"
  | tagUnknown tag known =>
    "Input tag " ++ quote tag ++ " found using 'type' does not match any of the expected tags: " ++
      ", ".intercalate (known.map quote)
  | notAmong options => "Input should be " ++ alternatives options
  | notNumber => "Input should be a valid number"
  | unreadableNumber => "Input should be a valid number, unable to parse string as a number"
  | notBoolean => "Input should be a valid boolean"
  | unreadableBoolean => "Input should be a valid boolean, unable to interpret input"
  | notInteger => "Input should be a valid integer"
  | notFinite => "Input should be a finite number"
  | fractional => "Input should be a valid integer, got a number with a fractional part"
  | unreadableInteger => "Input should be a valid integer, unable to parse string as an integer"
  | tooShort => "String should have at least 1 character"
  | tooLong => "String should have at most 4000 characters"
  | brokenBody => "JSON decode error"

end Cause

structure Fault where
  path : List Key
  cause : Cause
deriving DecidableEq

def Fault.under (key : Key) (f : Fault) : Fault := { f with path := key :: f.path }

def Key.toJson : Key → Json
  | name s => .text s
  | index n => .whole n

def Fault.toJson (f : Fault) : Json :=
  .object [("loc", .list (f.path.map Key.toJson)), ("type", .text f.cause.code),
    ("msg", .text f.cause.message)]

def report (fs : List Fault) : Json := .list (fs.map Fault.toJson)

end Dialogue.Schema
