import Dialogue.Json.Plain
import Dialogue.Schema.Record

/-!
Events of a live call. An event comes flat, with its fields beside its type, or wrapped, with them
under `data`; both shapes mean the same.
-/

namespace Dialogue.Call

open Schema

inductive Role where
  | assistant
  | user
  | system
deriving DecidableEq

def Role.name : Role → String
  | assistant => "assistant"
  | user => "user"
  | system => "system"

inductive Event where
  | callStart (payload : Fields)
  | speechStart
  | speechEnd
  | message (role : Role) (transcript : String)
  | callEnd
  | failure (payload : Json)

namespace Event

def typeName : Event → String
  | callStart _ => "call-start"
  | speechStart => "speech-start"
  | speechEnd => "speech-end"
  | message _ _ => "message"
  | callEnd => "call-end"
  | failure _ => "error"

def filled : Option Json → Option String
  | some (.text s) => if s.isEmpty then none else some s
  | _ => none

def phone (payload : Fields) : Option String :=
  filled ((payload.get? "customer").bind (·.get? "number"))

def handle (payload : Fields) : Option String :=
  (filled ((payload.get? "monitor").bind (·.get? "controlUrl"))).or
    (filled (payload.get? "controlUrl"))

def dictionary : Decoder Fields
  | .object fs => .ok fs
  | _ => .fail .notDictionary

def role : Decoder Role
  | .text "assistant" => .ok .assistant
  | .text "user" => .ok .user
  | .text "system" => .ok .system
  | _ => .fail (.notAmong ["assistant", "user", "system"])

def forms : List (String × (Fields → Checked Event)) := [
  ("call-start", fun fs => callStart <$> optional (.plain "payload") [] dictionary fs),
  ("speech-start", fun _ => .ok speechStart),
  ("speech-end", fun _ => .ok speechEnd),
  ("message", fun fs => message <$> optional (.plain "role") .assistant role fs <*>
    optional (.plain "transcript") "" text fs),
  ("call-end", fun _ => .ok callEnd),
  ("error", fun fs => failure <$> optional (.plain "payload") .null .ok fs)]

def ofFlat : Fields → Checked Event := tagged forms Json.plain

def payloadOf (kind : String) (fs : Fields) : Json :=
  match (fs.get? "payload").getD ((fs.get? "data").getD .null) with
  | .null => if kind = "call-start" then .object [] else .null
  | v => v

def flatten (fs : Fields) : Fields :=
  match fs.get? "type", fs.get? "data" with
  | some (.text "call-start"), _ =>
    [("type", .text "call-start"), ("payload", payloadOf "call-start" fs)]
  | some (.text "error"), _ => [("type", .text "error"), ("payload", payloadOf "error" fs)]
  | some (.text "message"), some (.object data) =>
    ("type", .text "message") :: data.filter fun f => f.1 = "role" || f.1 = "transcript"
  | _, _ => fs.without ["data"]

def ofFields (fs : Fields) : Checked Event := ofFlat (flatten fs)

def toFields : Event → Fields
  | callStart payload => [("type", .text "call-start"), ("payload", .object payload)]
  | message role transcript =>
    [("type", .text "message"), ("role", .text role.name), ("transcript", .text transcript)]
  | failure payload => [("type", .text "error"), ("payload", payload)]
  | e => [("type", .text e.typeName)]

end Event

inductive EventError where
  | notObject (kind : String)
  | faults (fs : List Fault)

def EventError.message : EventError → String
  | notObject kind => "'" ++ kind ++ "' object has no attribute 'get'"
  | faults _ => ""

def Event.ofJson : Json → Except EventError Event
  | .object fs => match ofFields fs with
    | .ok e => .ok e
    | .bad faults => .error (.faults faults)
  | v => .error (.notObject v.kindName)

end Dialogue.Call
