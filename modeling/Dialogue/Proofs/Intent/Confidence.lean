import Dialogue.Intent.Resolver
import Dialogue.Proofs.Decimal.Order
import Dialogue.Proofs.Decimal.Range

/-!
How sure a verdict is. Wherever the resolver sets a confidence itself, it is a share from zero to
one. One that a model claims is clamped, which fails for a whole number beyond every double and does
nothing to a value that is no number. An intent may be too deep to be told.
-/

namespace Dialogue.Intent

open Share Decimal

def beyond : Option Json → Bool
  | some (.whole n) => overflow ≤ n.natAbs
  | _ => false

def noNumber : Option Json → Bool
  | some (.real x) => x.isNaN
  | _ => false

def invents (candidates : List String) (claimed : Option String) : Bool :=
  claimed.any fun named => !deniesAll named && (bestMatch named candidates).isNone

def untellable [Limits] (w? : Option Json) : Bool := Limits.tell < (w?.getD .null).height

def unusable [Limits] : Except Json.ReadError Json → Bool
  | .ok v => beyond (v.get? "confidence") || untellable (v.get? "intent")
  | .error (.tooDeep _) => true
  | .error _ => false

def unsure (candidates : List String) : Except Json.ReadError Json → Bool
  | .ok v => noNumber (v.get? "confidence") && !invents candidates (intent? (v.get? "intent"))
  | .error _ => false

theorem isShare_fixed : IsShare 0.75 ∧ IsShare 0.85 ∧ IsShare 0.9 := by decide

theorem isShare_fallback (utterance : String) (candidates : List String) :
    IsShare (fallback utterance candidates).confidence := by
  simp only [fallback]
  split
  · exact isShare_fixed.1
  · exact isShare_zero

theorem isShare_orZero {c : Option Float} (h : ∀ x, c = some x → IsShare x) :
    IsShare (orZero c) := by
  cases c with
  | none => exact isShare_zero
  | some x =>
    simp only [orZero]
    split
    · exact isShare_zero
    · exact h x rfl

theorem isShare_verdictOf {candidates : List String} {claim : Claim}
    (h : ∀ x, claim.confidence = some x → IsShare x) :
    IsShare (verdictOf candidates claim).confidence := by
  simp only [verdictOf]
  split
  · exact isShare_orZero h
  · split
    · exact isShare_orZero h
    · split
      · cases hc : claim.confidence with
        | none => exact isShare_fixed.2.2
        | some x => exact h x hc
      · exact isShare_zero

theorem verdictOf_invented {candidates : List String} {claim : Claim}
    (h : invents candidates claim.intent = true) :
    (verdictOf candidates claim).confidence = 0.0 := by
  cases hn : claim.intent with
  | none => simp [invents, hn] at h
  | some named =>
    simp only [invents, hn, Option.any_some, Bool.and_eq_true, Bool.not_eq_true',
      Option.isNone_iff_eq_none] at h
    simp [verdictOf, hn, h]

theorem verdictOf_of_isNaN {candidates : List String} {claim : Claim} {x : Float}
    (hc : claim.confidence = some x) (hx : x.isNaN = true)
    (h : invents candidates claim.intent = false) :
    (verdictOf candidates claim).confidence = x := by
  have hz : orZero (some x) = x :=
    if_neg fun hb => Bool.false_ne_true ((numbers_of_beq hb).1.symm.trans hx)
  simp only [verdictOf, hc]
  split
  · exact hz
  · next named hn =>
    split
    · exact hz
    · next hd =>
      simp only [invents, hn, Option.any_some, hd, Bool.not_false, Bool.true_and,
        Option.isNone_eq_false_iff, Option.isSome_iff_exists] at h
      obtain ⟨o, ho⟩ := h
      simp [ho]

def Weighed (c : Option Json) (k : Option Float) : Prop :=
  if noNumber c then ∃ x, k = some x ∧ x.isNaN = true else ∀ x, k = some x → IsShare x

theorem weighed_none {c : Option Json} (h : noNumber c = false) : Weighed c none := by
  rw [Weighed, h]
  exact fun _ h => nomatch h

theorem weighed_clamp {c : Option Json} {x : Float} (h : noNumber c = x.isNaN) :
    Weighed c (some (clamp x)) := by
  rw [Weighed, h]
  split
  · next hx => exact ⟨clamp x, rfl, by rwa [clamp_of_isNaN hx]⟩
  · next hx =>
    rintro _ ⟨⟩
    exact isShare_clamp (Bool.not_eq_true _ ▸ hx)

theorem confidence?_cases (c : Option Json) :
    (beyond c = true ∧ confidence? c = .error .hugeConfidence) ∨
      (beyond c = false ∧ ∃ k, confidence? c = .ok k ∧ Weighed c k) := by
  match c with
  | some (.whole n) =>
    cases hn : ofInt? n with
    | none =>
      have : overflow ≤ n.natAbs := (ofInt?_eq_none_iff n).1 hn
      exact .inl ⟨by simpa [beyond], by simp only [confidence?, hn]⟩
    | some x =>
      have : ¬ overflow ≤ n.natAbs := fun h => by simp [(ofInt?_eq_none_iff n).2 h] at hn
      exact .inr ⟨by simpa [beyond] using this, some (clamp x), by simp only [confidence?, hn],
        weighed_clamp (isNaN_of_ofInt? hn).symm⟩
  | some (.real x) => exact .inr ⟨rfl, some (clamp x), rfl, weighed_clamp rfl⟩
  | none | some .null | some (.bool _) | some (.text _) | some (.list _) | some (.object _) =>
    exact .inr ⟨rfl, none, rfl, weighed_none rfl⟩

theorem claimOf_cases [Limits] (v : Json) :
    ((beyond (v.get? "confidence") || untellable (v.get? "intent")) = true ∧
      ∃ e, claimOf v = .error e) ∨
    ((beyond (v.get? "confidence") || untellable (v.get? "intent")) = false ∧
      ∃ claim, claimOf v = .ok claim ∧
        (noNumber (v.get? "confidence") = true → claim.intent = intent? (v.get? "intent")) ∧
        Weighed (v.get? "confidence") claim.confidence) := by
  match v with
  | .object fs =>
    rw [show Json.get? (.object fs) = Fields.get? fs from rfl]
    rcases confidence?_cases (Fields.get? fs "confidence") with ⟨hb, hc⟩ | ⟨hb, k, hc, hk⟩
    · exact .inl ⟨by rw [hb, Bool.true_or], _, by simp only [claimOf, hc]; rfl⟩
    · rw [hb, Bool.false_or, untellable, decide_eq_true_eq, decide_eq_false_iff_not, not_lt]
      by_cases low : ((Fields.get? fs "intent").getD .null).height ≤ Limits.tell
      · refine .inr ⟨low, ⟨intent? (Fields.get? fs "intent"), k⟩, ?_, fun _ => rfl, hk⟩
        simp only [claimOf, hc, bind, Except.bind, if_pos low]
        rfl
      · refine .inl ⟨not_le.mp low, .tooDeep .telling, ?_⟩
        simp only [claimOf, hc, bind, Except.bind, if_neg low]
        rfl
  | .null | .bool _ | .whole _ | .real _ | .list _ | .text _ =>
    exact .inr ⟨rfl, _, rfl, (nomatch ·), weighed_none rfl⟩

def replied [Limits] (raw : String) : Except Json.ReadError Json :=
  Json.read (Text.within Text.stripFences raw)

theorem isShare_verdictOf_iff {candidates : List String} {v : Json} {claim : Claim}
    (hi : noNumber (v.get? "confidence") = true → claim.intent = intent? (v.get? "intent"))
    (hk : Weighed (v.get? "confidence") claim.confidence) :
    IsShare (verdictOf candidates claim).confidence ↔ unsure candidates (.ok v) = false := by
  rw [Weighed] at hk
  split at hk
  · next hn =>
    obtain ⟨x, hx, nan⟩ := hk
    simp only [unsure, hn, ← hi hn, Bool.true_and, Bool.not_eq_false']
    cases hv : invents candidates claim.intent with
    | true => exact iff_of_true (verdictOf_invented hv ▸ isShare_zero) rfl
    | false =>
      rw [verdictOf_of_isNaN hx nan hv]
      refine iff_of_false (fun h => ?_) Bool.false_ne_true
      exact Bool.false_ne_true ((numbers_of_le h.1).2.symm.trans nan)
  · next hn => exact iff_of_true (isShare_verdictOf hk) (by simp [unsure, hn])

section

variable [Limits]

theorem readReply_cases (candidates : List String) (raw : String) :
    (unusable (replied raw) = true ∧ ∃ e, readReply raw = .error e) ∨
    (unusable (replied raw) = false ∧ ∃ claim, readReply raw = .ok claim ∧
      (IsShare (verdictOf candidates claim).confidence ↔
        unsure candidates (replied raw) = false)) := by
  -- By name only: to prove the equation of `readReply`, its text would be read.
  delta readReply replied
  dsimp only
  cases Json.read (Text.within Text.stripFences raw) with
  | ok v =>
    rcases claimOf_cases v with ⟨hb, e, hc⟩ | ⟨hb, claim, hc, hi, hk⟩
    · exact .inl ⟨hb, e, hc⟩
    · exact .inr ⟨hb, claim, hc, isShare_verdictOf_iff hi hk⟩
  | error e =>
    cases e with
    | tooDeep => exact .inl ⟨rfl, _, rfl⟩
    | malformed | tooManyDigits =>
      exact .inr ⟨rfl, _, rfl, iff_of_true (isShare_verdictOf fun _ h => nomatch h) rfl⟩

theorem isShare_outcome_iff (candidates : List String) (raw : String) :
    (∃ v, (readReply raw).map (verdictOf candidates) = .ok v ∧ IsShare v.confidence) ↔
      unusable (replied raw) = false ∧ unsure candidates (replied raw) = false := by
  rcases readReply_cases candidates raw with ⟨hu, e, he⟩ | ⟨hu, claim, hc, h⟩
  · rw [he, hu]
    exact iff_of_false (fun ⟨_, h, _⟩ => nomatch h) (fun h => nomatch h.1)
  · rw [hc, hu, ← h]
    constructor
    · rintro ⟨_, ⟨⟩, hv⟩
      exact ⟨rfl, hv⟩
    · exact fun hv => ⟨_, rfl, hv.2⟩

/-- A resolver comes to a verdict with a share as its confidence for every utterance, all candidates
and whatever the model does, unless the model is asked and its reply is unusable or unsure. -/
theorem verdict_is_share_iff (backend : Option Backend) (utterance : String)
    (candidates : List String) :
    (∃ v, (resolve backend utterance candidates).outcome = .ok v ∧ IsShare v.confidence) ↔
      ∀ ask raw, bestMatch utterance candidates = none → backend = some ask →
        ask (classificationPrompt candidates) (question utterance) = .reply raw →
        unusable (replied (raw.getD "")) = false ∧
          unsure candidates (replied (raw.getD "")) = false := by
  unfold resolve
  cases bestMatch utterance candidates with
  | some o => exact iff_of_true ⟨_, rfl, isShare_fixed.2.1⟩ (fun _ _ h => nomatch h)
  | none =>
    have fallen := isShare_fallback utterance candidates
    cases backend with
    | none => exact iff_of_true ⟨_, rfl, fallen⟩ (fun _ _ _ h => nomatch h)
    | some ask =>
      cases ha : ask (classificationPrompt candidates) (question utterance) with
      | failure message =>
        refine iff_of_true ⟨_, by simp only [ha], fallen⟩ ?_
        rintro _ raw - ⟨⟩ h
        simp [ha] at h
      | reply raw =>
        simp only [ha, isShare_outcome_iff]
        constructor
        · rintro h _ raw - ⟨⟩ hr
          simp_all
        · exact fun h => h ask raw trivial rfl ha

def chosen (reply : List Char) : Resolution :=
  resolve (some fun _ _ => .reply (some (String.ofList reply))) "something else"
    ["Margherita Pizza", "Pepperoni Pizza"]

end

theorem confidence_of_five_is_share : letI := Limits.usual
    ∃ v, (chosen "\x7b\"intent\": \"Pepperoni\", \"confidence\": 5\x7d".toList).outcome = .ok v ∧
      IsShare v.confidence := by
  let _ := Limits.usual
  refine (verdict_is_share_iff _ _ _).2 ?_
  rintro _ _ - ⟨⟩ ⟨⟩
  constructor <;> decide +kernel

def boast : List Char :=
  "\x7b\"intent\": \"Hawaiian\", \"confidence\": 1".toList ++ List.replicate 309 '0' ++ ['\x7d']

theorem boast_leaves_no_verdict : letI := Limits.usual
    ∃ e, (chosen boast).outcome = .error e := by
  let _ := Limits.usual
  have unmatched : bestMatch "something else" ["Margherita Pizza", "Pepperoni Pizza"] = none := by
    decide +kernel
  have bare : Text.stripFences boast = boast := by decide +kernel
  have huge : unusable (replied (String.ofList boast)) = true := by
    rw [replied, Text.within, String.toList_ofList, bare, Json.read, String.toList_ofList]
    decide +kernel
  rcases readReply_cases [] (String.ofList boast) with ⟨-, e, he⟩ | ⟨hu, -⟩
  · refine ⟨e, ?_⟩
    simp only [chosen, resolve, unmatched, Option.getD_some, he]
    rfl
  · exact absurd huge (by simp [hu])

end Dialogue.Intent
