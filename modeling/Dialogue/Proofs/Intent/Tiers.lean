import Dialogue.Proofs.Intent.Confidence

/-! Where the intent of a verdict comes from. A local match goes before all else; after it only the
local match of what a model claims counts, so that an intent is always one of the candidates. -/

namespace Dialogue.Intent

open Text

variable {utterance raw named o : String} {candidates : List String} {claim : Claim} {v : Json}

def named? (body : String) : Except Json.ReadError Json → Option String
  | .ok (.object fs) => intent? (Fields.get? fs "intent")
  | .ok (.text s) => nonEmpty s
  | .ok _ => none
  | .error _ => nonEmpty body

lemma nonEmpty_eq_some {s : String} : nonEmpty s = some named ↔ s ≠ "" ∧ s = named := by
  unfold nonEmpty
  split_ifs with empty <;> simp_all

lemma intent?_eq_some {w? : Option Json} :
    intent? w? = some named ↔ ∃ w, w? = some w ∧ w ≠ .null ∧ w.plain = named := by
  cases w? with
  | none => simp [intent?]
  | some w => cases w <;> simp [intent?]

lemma verdictOf_intent : (verdictOf candidates claim).intent = some o ↔
    ∃ named, claim.intent = some named ∧ deniesAll named = false ∧
      bestMatch named candidates = some o := by
  unfold verdictOf
  split
  · next none => simp [none]
  · next named some =>
    split_ifs with denies
    · simp [some, denies]
    · split
      · next p found => simp [some, denies, found]
      · next unfound => simp [some, denies, unfound]

section

variable [Limits]

/-- The intent that a reply claims: an object the plain text of its intent, a string itself, any other
value none; a text that is no value claims itself. -/
inductive Claims (raw : String) : String → Prop
  | object {fs : Fields} {w : Json} : replied raw = .ok (.object fs) →
      Fields.get? fs "intent" = some w → w ≠ .null → Claims raw w.plain
  | text {s : String} : replied raw = .ok (.text s) → s ≠ "" → Claims raw s
  | bare {e : Json.ReadError} : replied raw = .error e → within stripFences raw ≠ "" →
      Claims raw (within stripFences raw)

lemma intent_of_claimOf (h : claimOf v = .ok claim) (body : String) :
    claim.intent = named? body (.ok v) := by
  match v with
  | .object fs =>
    cases hc : confidence? (Fields.get? fs "confidence") with
    | error e => simp [claimOf, hc, bind, Except.bind] at h
    | ok k =>
      simp only [claimOf, hc, bind, Except.bind] at h
      split_ifs at h
      obtain rfl := Except.ok.inj h
      rfl
  | .text _ | .null | .bool _ | .whole _ | .real _ | .list _ =>
    obtain rfl := Except.ok.inj h
    rfl

lemma readReply_eq_ok : readReply raw = .ok claim ↔
    (∃ v, replied raw = .ok v ∧ claimOf v = .ok claim) ∨
    ∃ e, replied raw = .error e ∧ (∀ pass, e ≠ .tooDeep pass) ∧
      claim = ⟨nonEmpty (within stripFences raw), none⟩ := by
  -- By name only: to prove the equation of `readReply`, its text would be read.
  delta readReply replied
  dsimp only
  generalize within stripFences raw = body
  cases Json.read body with
  | ok v => simp
  | error e => cases e <;> simp [eq_comm]

lemma intent_of_readReply (h : readReply raw = .ok claim) :
    claim.intent = named? (within stripFences raw) (replied raw) := by
  obtain ⟨v, reads, claims⟩ | ⟨e, reads, -, rfl⟩ := readReply_eq_ok.mp h
  · rw [reads]
    exact intent_of_claimOf claims _
  · rw [reads]
    simp only [named?]

lemma claims_iff :
    Claims raw named ↔ named? (within stripFences raw) (replied raw) = some named := by
  constructor
  · intro h
    cases h with
    | object reads names given =>
      rw [reads]
      exact intent?_eq_some.mpr ⟨_, names, given, rfl⟩
    | text reads filled =>
      rw [reads]
      exact nonEmpty_eq_some.mpr ⟨filled, rfl⟩
    | bare reads filled =>
      rw [reads]
      exact nonEmpty_eq_some.mpr ⟨filled, rfl⟩
  · intro h
    cases reads : replied raw with
    | error e =>
      rw [reads] at h
      obtain ⟨filled, rfl⟩ := nonEmpty_eq_some.mp h
      exact .bare reads filled
    | ok v =>
      rw [reads] at h
      cases v with
      | object fs =>
        obtain ⟨w, names, given, rfl⟩ := intent?_eq_some.mp h
        exact .object reads names given
      | text s =>
        obtain ⟨filled, rfl⟩ := nonEmpty_eq_some.mp h
        exact .text reads filled
      | null | bool | whole | real | list => cases h

variable {backend : Option Backend} {ask : Backend} {verdict : Verdict} {said : Option String}

lemma resolve_of_matched (backend : Option Backend) (h : bestMatch utterance candidates = some o) :
    resolve backend utterance candidates = ⟨[], .ok ⟨some o, 0.85, "Quick keyword match"⟩⟩ := by
  simp only [resolve, h]

lemma asked_of_unmatched (backend : Option Backend)
    (unmatched : bestMatch utterance candidates = none) :
    (resolve backend utterance candidates).asked =
      (backend.map fun _ => (classificationPrompt candidates, question utterance)).toList := by
  cases backend <;> simp only [resolve, unmatched] <;> rfl

lemma outcome_of_reply (unmatched : bestMatch utterance candidates = none)
    (reply : ask (classificationPrompt candidates) (question utterance) = .reply said) :
    (resolve (some ask) utterance candidates).outcome =
      (readReply (said.getD "")).map (verdictOf candidates) := by
  simp only [resolve, unmatched, reply]

lemma intent_of_reply
    (h : (readReply raw).map (verdictOf candidates) = .ok verdict) :
    verdict.intent = some o ↔ ∃ named, Claims raw named ∧ deniesAll named = false ∧
      bestMatch named candidates = some o := by
  cases reads : readReply raw with
  | error e =>
    rw [reads] at h
    cases h
  | ok claim =>
    rw [reads] at h
    obtain rfl := Except.ok.inj h
    simp only [verdictOf_intent, intent_of_readReply reads, claims_iff]

lemma intent_of_unmatched (unmatched : bestMatch utterance candidates = none)
    (h : (resolve backend utterance candidates).outcome = .ok verdict) :
    verdict.intent = some o ↔ ∃ ask said named, backend = some ask ∧
      ask (classificationPrompt candidates) (question utterance) = .reply said ∧
      Claims (said.getD "") named ∧ deniesAll named = false ∧
      bestMatch named candidates = some o := by
  have fallen : (fallback utterance candidates).intent ≠ some o := by simp [fallback, unmatched]
  cases backend with
  | none =>
    simp only [resolve, unmatched, Except.ok.injEq] at h
    rw [← h]
    refine iff_of_false fallen ?_
    rintro ⟨_, _, _, ⟨⟩, -⟩
  | some ask =>
    cases answer : ask (classificationPrompt candidates) (question utterance) with
    | failure message =>
      simp only [resolve, unmatched, answer, Except.ok.injEq] at h
      rw [← h]
      refine iff_of_false fallen ?_
      rintro ⟨_, said, _, ⟨⟩, reply, -⟩
      rw [answer] at reply
      cases reply
    | reply said =>
      rw [outcome_of_reply unmatched answer] at h
      rw [intent_of_reply h]
      constructor
      · rintro ⟨named, claims⟩
        exact ⟨ask, said, named, rfl, answer, claims⟩
      · rintro ⟨_, _, named, ⟨⟩, reply, claims⟩
        cases answer.symm.trans reply
        exact ⟨named, claims⟩

/-- An intent is one of the candidates. A local match is the intent, and no model is asked. After
none a model that there is is asked once, and the intent is the local match of what its reply
claims. -/
theorem resolve_keeps_tiers (backend : Option Backend) (utterance : String)
    (candidates : List String) :
    (∀ v o, (resolve backend utterance candidates).outcome = .ok v → v.intent = some o →
      o ∈ candidates) ∧
    (∀ o, bestMatch utterance candidates = some o →
      (resolve backend utterance candidates).asked = [] ∧
      ∃ v, (resolve backend utterance candidates).outcome = .ok v ∧ v.intent = some o) ∧
    (bestMatch utterance candidates = none →
      (resolve backend utterance candidates).asked =
        (backend.map fun _ => (classificationPrompt candidates, question utterance)).toList ∧
      ∀ v o, (resolve backend utterance candidates).outcome = .ok v →
        (v.intent = some o ↔ ∃ ask said named, backend = some ask ∧
          ask (classificationPrompt candidates) (question utterance) = .reply said ∧
          Claims (said.getD "") named ∧ deniesAll named = false ∧
          bestMatch named candidates = some o)) := by
  refine ⟨fun v o outcome intent => ?_, fun o matched => ?_, fun unmatched =>
    ⟨asked_of_unmatched backend unmatched, fun v o => intent_of_unmatched unmatched⟩⟩
  · cases tier : bestMatch utterance candidates with
    | some p =>
      rw [resolve_of_matched backend tier] at outcome
      obtain rfl := Except.ok.inj outcome
      obtain rfl := Option.some.inj intent
      exact bestMatch_mem tier
    | none =>
      obtain ⟨_, _, _, _, _, _, _, matched⟩ := (intent_of_unmatched tier outcome).mp intent
      exact bestMatch_mem matched
  · rw [resolve_of_matched backend matched]
    exact ⟨rfl, _, rfl, rfl⟩

end

def fencedClaim : List Char :=
  "\x60\x60\x60json\n\x7b\"intent\": \"the Pepperoni one\"\x7d\n\x60\x60\x60".toList

theorem fenced_claim_is_matched : letI := Limits.usual
    ∃ v, (chosen fencedClaim).outcome = .ok v ∧ v.intent = some "Pepperoni Pizza" := by
  let _ := Limits.usual
  have unmatched : bestMatch "something else" ["Margherita Pizza", "Pepperoni Pizza"] = none := by
    decide +kernel
  have reads : replied (String.ofList fencedClaim) =
      .ok (.object [("intent", .text "the Pepperoni one")]) := by cbv
  have claims : Claims (String.ofList fencedClaim) "the Pepperoni one" := .object reads rfl (by simp)
  obtain ⟨v, outcome⟩ : ∃ v, (chosen fencedClaim).outcome = .ok v := by
    rcases readReply_cases [] (String.ofList fencedClaim) with ⟨unusable, -⟩ | ⟨-, claim, read, -⟩
    · rw [reads] at unusable
      cases unusable
    · refine ⟨verdictOf ["Margherita Pizza", "Pepperoni Pizza"] claim, ?_⟩
      rw [chosen, outcome_of_reply unmatched rfl, Option.getD_some, read]
      rfl
  refine ⟨v, outcome, ?_⟩
  exact (((resolve_keeps_tiers _ _ _).2.2 unmatched).2 v _ outcome).mpr
    ⟨_, _, _, rfl, rfl, claims, by decide +kernel, by decide +kernel⟩

end Dialogue.Intent
