import Dialogue.Json.Plain
import Dialogue.Json.Reader
import Dialogue.Text.Fence

/-!
What a language model claims in its reply: the intent it names and how sure it is. A reply need not
be JSON; any other text is taken as the intent itself.
-/

namespace Dialogue.Intent

structure Claim where
  intent : Option String
  confidence : Option Float

inductive ReplyError where
  | hugeConfidence
  | tooDeep (pass : Json.Pass)
deriving DecidableEq

def ReplyError.message : ReplyError → String
  | hugeConfidence => "int too large to convert to float"
  | tooDeep pass => pass.tooDeep

def nonEmpty (s : String) : Option String := if s.isEmpty then none else some s

def confidence? : Option Json → Except ReplyError (Option Float)
  | some (.whole n) => match Decimal.ofInt? n with
    | some x => .ok (some (Share.clamp x))
    | none => .error .hugeConfidence
  | some (.real x) => .ok (some (Share.clamp x))
  | _ => .ok none

def intent? : Option Json → Option String
  | none | some .null => none
  | some v => some v.plain

def claimOf [Limits] : Json → Except ReplyError Claim
  | .text s => .ok ⟨nonEmpty s, none⟩
  | .object fs => do
    let confidence ← confidence? (Fields.get? fs "confidence")
    let intent := Fields.get? fs "intent"
    if (intent.getD .null).height ≤ Limits.tell then return ⟨intent? intent, confidence⟩
    else throw (.tooDeep .telling)
  | _ => .ok ⟨none, none⟩

def readReply [Limits] (raw : String) : Except ReplyError Claim :=
  let body := Text.within Text.stripFences raw
  match Json.read body with
  | .ok v => claimOf v
  | .error (.tooDeep pass) => .error (.tooDeep pass)
  | .error _ => .ok ⟨nonEmpty body, none⟩

end Dialogue.Intent
