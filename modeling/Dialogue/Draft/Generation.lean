import Dialogue.Draft.Prompt
import Dialogue.Draft.Reply
import Dialogue.Flow.Validation
import Dialogue.Intent.Resolver

/-!
Asking a language model for a flow. A draft is kept only if it is sound; an unsound one comes back
with its errors, so that it can be looked at.
-/

namespace Dialogue.Draft

structure Generation where
  success : Bool
  draft : Option Draft
  failure : Option String
  errors : List String

def Generation.failed (message : String) (errors : List String := []) : Generation :=
  ⟨false, none, some message, errors⟩

structure Attempt where
  asked : List (String × String)
  outcome : Except Json.ReadError Generation

def invalid : String := "Invalid flow structure"

def faultText (f : Schema.Fault) : String :=
  ".".intercalate (f.path.map Schema.Key.text) ++ ": " ++ f.cause.message

def ofDraft (d : Draft) : Generation :=
  if d.flow.isSound then ⟨true, some d, none, []⟩ else ⟨false, some d, some invalid, d.flow.errors⟩

def ofAnswer [Limits] (raw : String) : Except Json.ReadError Generation :=
  match ofReply raw with
  | .ok d => .ok (ofDraft d)
  | .error (.unreadable (.malformed _)) =>
    .ok (.failed "Failed to parse AI response. Please try again.")
  | .error (.unreadable e) => .error e
  | .error (.misshapen errors) => .ok (.failed invalid (errors.map (·.message)))
  | .error (.faulty faults) => .ok (.failed invalid (faults.map faultText))

def generate [Limits] (backend : Option Backend) (description : String) : Attempt :=
  let wish := Text.within Text.strip description
  if wish.isEmpty then ⟨[], .ok (.failed "Describe the agent to generate a flow")⟩
  else match backend with
    | none => ⟨[], .ok (.failed "No language model configured; set OPENAI_API_KEY")⟩
    | some ask =>
      ⟨[(systemPrompt, request wish)], match ask systemPrompt (request wish) with
        | .failure message => .ok (.failed ("Failed to generate flow: " ++ message))
        | .reply text => ofAnswer (text.getD "")⟩

end Dialogue.Draft
