import Dialogue.Json.Plain

/-!
One question to a chat model, observed from outside. The reply's content is a text or a list of
parts; every attempt is observed from its start to its end, whatever comes of it.
-/

namespace Dialogue.Chat

inductive Observation where
  | start (operation model input : String)
  | ask (system user : String)
  | update (fields : Fields)
  | finish

inductive ChatError where
  | raised (message : String)
  | partNotText (kind : String)
  | usageNotObject (kind : String)

namespace ChatError

def name : ChatError → String
  | raised _ => "RuntimeError"
  | partNotText _ => "TypeError"
  | usageNotObject _ => "AttributeError"

def message : ChatError → String
  | raised message => message
  | partNotText kind => "can only concatenate str (not \"" ++ kind ++ "\") to str"
  | usageNotObject kind => "'" ++ kind ++ "' object has no attribute 'get'"

end ChatError

def modelName (className : String) (attributes : Fields) : String :=
  let named := ["model_name", "model", "_model_name"].findSome? fun key =>
    ((attributes.get? key).bind Json.text?).filter (! ·.isEmpty)
  named.getD className

def partText : Json → Except ChatError String
  | .object fs => match Fields.get? fs "text" with
    | some (.text s) => .ok s
    | some v => .error (.partNotText v.kindName)
    | none => .ok (Json.object fs).plain
  | v => .ok v.plain

def contentText : Json → Except ChatError String
  | .list parts => do return String.join (← parts.mapM partText)
  | v => .ok (if v.counts then v.plain else "")

def usageCounts : Json → Except ChatError Json
  | .object fs =>
    .ok (.object (["input_tokens", "output_tokens", "total_tokens"].map fun key =>
      (key, (Fields.get? fs key).getD (.whole 0))))
  | v => .error (.usageNotObject v.kindName)

def readResult (result : Fields) : Except ChatError (String × Fields) := do
  let text ← contentText ((result.get? "content").getD (.text ""))
  let usage := (result.get? "usage_metadata").getD .null
  let counted ← if usage.counts then usageCounts usage else .ok .null
  return (text, [("output", .text text), ("usage", counted)])

def failureFields (e : ChatError) : Fields :=
  [("output", .text ("ERROR: " ++ e.message)),
    ("metadata", .object [("error", .text e.message), ("error_type", .text e.name)])]

abbrev Outcome := Except String Fields

def complete (model operation : String) (outcome : Outcome) (system user : String) :
    List Observation × Except ChatError String :=
  let read := match outcome with
    | .ok result => readResult result
    | .error message => .error (.raised message)
  let (fields, text) := match read with
    | .ok (text, fields) => (fields, .ok text)
    | .error e => (failureFields e, .error e)
  ([.start operation model user, .ask system user, .update fields, .finish], text)

end Dialogue.Chat
