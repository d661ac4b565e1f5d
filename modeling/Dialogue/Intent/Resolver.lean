import Dialogue.Intent.Match
import Dialogue.Intent.Reply

/-!
Resolving an utterance to one of a branch's choices in three tiers: a local match, a language model
whose claim is matched locally again, and the local match once more where there is no model or it
fails. Whatever the model says, the intent is one of the candidates.
-/

namespace Dialogue

inductive Completion where
  | reply (text : Option String)
  | failure (message : String)

abbrev Backend := String → String → Completion

namespace Intent

structure Verdict where
  intent : Option String
  confidence : Float
  reasoning : String

structure Resolution where
  asked : List (String × String)
  outcome : Except ReplyError Verdict

def classificationPrompt (candidates : List String) : String :=
  let numbered := candidates.zipIdx.map fun (c, i) => toString (i + 1) ++ ". \"" ++ c ++ "\""
  "You are an intent classifier. Match user speech to one of these options:\n\n" ++
  "OPTIONS:\n" ++ "\n".intercalate numbered ++ "\n\n" ++
  "RULES:\n" ++
  "- Return the EXACT option text if matched (copy character-for-character)\n" ++
  "- \"margarita\" -> \"Margarita Pizza\" (partial word match is valid)\n" ++
  "- \"pepperoni\" -> \"Pepperoni Pizza\" (partial word match is valid)\n" ++
  "- If no match possible, return \"NONE\"\n\n" ++
  "RESPOND WITH JSON ONLY:\n" ++
  "\x7b\"intent\": \"EXACT OPTION TEXT OR NONE\", \"confidence\": 0.9\x7d"

def question (utterance : String) : String := "User said: \"" ++ utterance ++ "\""

def fallback (utterance : String) (candidates : List String) : Verdict :=
  match bestMatch utterance candidates with
  | some o => ⟨some o, 0.75, "Keyword match (fallback)"⟩
  | none => ⟨none, 0.0, "No match found (fallback)"⟩

def deniesAll (intent : String) : Bool :=
  Text.upper (Text.strip intent.toList) == ['N', 'O', 'N', 'E']

def orZero : Option Float → Float
  | some x => if x == 0.0 then 0.0 else x
  | none => 0.0

def verdictOf (candidates : List String) (claim : Claim) : Verdict :=
  match claim.intent with
  | none => ⟨none, orZero claim.confidence, "No match (LLM)"⟩
  | some named =>
    if deniesAll named then ⟨none, orZero claim.confidence, "No match (LLM)"⟩
    else match bestMatch named candidates with
      | some o => ⟨some o, claim.confidence.getD 0.9, "LLM classification"⟩
      | none =>
        ⟨none, 0.0, "LLM returned \"" ++ named ++ "\" but no match in available intents"⟩

def resolve [Limits] (backend : Option Backend) (utterance : String) (candidates : List String) :
    Resolution :=
  match bestMatch utterance candidates with
  | some o => ⟨[], .ok ⟨some o, 0.85, "Quick keyword match"⟩⟩
  | none =>
    match backend with
    | none => ⟨[], .ok (fallback utterance candidates)⟩
    | some ask =>
      let system := classificationPrompt candidates
      let user := question utterance
      ⟨[(system, user)], match ask system user with
        | .failure _ => .ok (fallback utterance candidates)
        | .reply raw => (readReply (raw.getD "")).map (verdictOf candidates)⟩

end Intent

end Dialogue
