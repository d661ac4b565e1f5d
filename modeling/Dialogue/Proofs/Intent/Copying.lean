import Dialogue.Proofs.Intent.Tiers
import Dialogue.Proofs.Json.Reading
import Dialogue.Proofs.Json.Writing
import Dialogue.Proofs.Text.Fencing

/-! A model that copies an option. The copy is matched with the option itself, whatever its text is,
as long as no other differs from it in case alone; only the word that denies every option is never
taken for one. -/

namespace Dialogue.Intent

open Text

variable {utterance raw c : String} {candidates : List String} {ask : Backend}

def Distinct (candidates : List String) : Prop :=
  candidates.Pairwise fun a b => lower a.toList ≠ lower b.toList

def Trimmed (s : String) : Prop := s.toList ≠ [] ∧ strip s.toList = s.toList

instance (candidates : List String) : Decidable (Distinct candidates) :=
  inferInstanceAs (Decidable (List.Pairwise _ _))

instance (s : String) : Decidable (Trimmed s) := inferInstanceAs (Decidable (_ ∧ _))

lemma wanted_of_trimmed (h : Trimmed c) : wanted c = lower c.toList := by
  rw [wanted, strip_lower, h.2]

lemma find?_equals (distinct : Distinct candidates) (offered : c ∈ candidates) :
    candidates.find? (equals (lower c.toList)) = some c := by
  obtain ⟨before, after, rfl⟩ := List.append_of_mem offered
  -- Whatever matches before the option would differ from it in case alone.
  have other : before.find? (equals (lower c.toList)) = none := by
    rw [List.find?_eq_none]
    intro o earlier
    have apart := (List.pairwise_append.mp distinct).2.2 o earlier c List.mem_cons_self
    simpa [equals] using apart
  rw [List.find?_append, other, Option.none_or]
  exact List.find?_cons_of_pos (by simp [equals])

lemma bestMatch_self (distinct : Distinct candidates) (trimmed : Trimmed c)
    (offered : c ∈ candidates) : bestMatch c candidates = some c := by
  have filled : (lower c.toList).isEmpty = false := by
    simpa using lower_ne_nil trimmed.1
  rw [bestMatch, wanted_of_trimmed trimmed]
  simp only [filled, rules, List.findSome?_cons, find?_equals distinct offered]
  rfl

section

variable [Limits]

def Copies (c raw : String) : Prop :=
  ∃ t : String, Json.read t = .ok (.object [("intent", .text c)]) ∧ strip t.toList = t.toList ∧
    Fenced t.toList raw.toList

lemma replied_of_copies (h : Copies c raw) :
    replied raw = .ok (.object [("intent", .text c)]) := by
  obtain ⟨t, reads, trimmed, fenced⟩ := h
  have edged : Edged t.toList := trimmed ▸ Json.edged_of_read reads
  rw [replied, within, stripFences_of_fenced edged fenced, String.ofList_toList, reads]

lemma outcome_of_copies (distinct : Distinct candidates) (trimmed : Trimmed c)
    (offered : c ∈ candidates) (h : Copies c raw) :
    ∃ v, (readReply raw).map (verdictOf candidates) = .ok v ∧
      v.intent = if deniesAll c then none else some c := by
  refine ⟨verdictOf candidates ⟨some c, none⟩, ?_, ?_⟩
  · rw [readReply_eq_ok.mpr (.inl ⟨_, replied_of_copies h, rfl⟩)]
    rfl
  · cases denies : deniesAll c <;> simp [verdictOf, denies, bestMatch_self distinct trimmed offered]

def claimText (c : String) : String := Json.write Json.spaced (.object [("intent", .text c)])

lemma copies_claimText (h : Fenced (claimText c).toList raw.toList) : Copies c raw := by
  refine ⟨claimText c, Json.read_written_field "intent" c, ?_, h⟩
  have last : (claimText c).toList =
      '\x7b' :: '"' :: ("intent".toList.flatMap Json.escaped ++
        '"' :: ':' :: ' ' :: '"' :: (c.toList.flatMap Json.escaped ++ ['"'])) ++ ['\x7d'] := by
    simp [claimText, Json.write_field, Json.fieldText]
  exact strip_eq_self (Json.write_field "intent" c) (by decide) last (by decide)

lemma copies_bare (c : String) : Copies c (claimText c) :=
  copies_claimText (by simpa using Fenced.bare margin_nil margin_nil)

/-- The intent is the option that the reply copies, unless that is the word for none of them. -/
theorem copied_option_is_obeyed (distinct : Distinct candidates)
    (trimmed : ∀ o ∈ candidates, Trimmed o) (offered : c ∈ candidates)
    (unmatched : bestMatch utterance candidates = none)
    (copies : ∃ raw, Copies c raw ∧
      ask (classificationPrompt candidates) (question utterance) = .reply (some raw)) :
    ∃ v, (resolve (some ask) utterance candidates).outcome = .ok v ∧
      v.intent = if deniesAll c then none else some c := by
  obtain ⟨raw, copied, reply⟩ := copies
  rw [outcome_of_reply unmatched reply, Option.getD_some]
  exact outcome_of_copies distinct (trimmed c offered) offered copied

end

theorem copied_fence_is_obeyed : letI := Limits.usual
    ∃ v, (resolve (some fun _ _ => .reply (some (String.ofList
        (fence ++ ['j', 's', 'o', 'n', '\n'] ++ (claimText "\x60\x60\x60").toList ++
          ['\n'] ++ fence)))) "something else" ["Large", "\x60\x60\x60"]).outcome = .ok v ∧
      v.intent = some "\x60\x60\x60" := by
  let _ := Limits.usual
  have fenced : Fenced (claimText "\x60\x60\x60").toList
      (fence ++ ['j', 's', 'o', 'n', '\n'] ++ (claimText "\x60\x60\x60").toList ++
        ['\n'] ++ fence) := by
    simpa using Fenced.fence (t := (claimText "\x60\x60\x60").toList) margin_nil (.inr rfl)
      margin_lineFeed nofun margin_lineFeed margin_nil
  have copies : Copies "\x60\x60\x60" (String.ofList _) :=
    copies_claimText (by rwa [String.toList_ofList])
  exact copied_option_is_obeyed (by decide +kernel) (by decide +kernel)
    (by decide) (by decide +kernel) ⟨_, copies, rfl⟩

section

variable [Limits]

def Disobeyed (utterance : String) (candidates : List String) (raw c : String) : Prop :=
  Distinct candidates ∧ (∀ o ∈ candidates, Trimmed o) ∧ c ∈ candidates ∧
    bestMatch utterance candidates = none ∧
    ∃ v, (resolve (some fun _ _ => .reply (some raw)) utterance candidates).outcome = .ok v ∧
      v.intent ≠ some c

lemma disobeyed_none :
    Disobeyed "I'm fine thanks" ["Extra cheese", "None"] (claimText "None") "None" := by
  have distinct : Distinct ["Extra cheese", "None"] := by decide +kernel
  have trimmed : ∀ o ∈ ["Extra cheese", "None"], Trimmed o := by decide +kernel
  have offered : "None" ∈ ["Extra cheese", "None"] := by decide
  have unmatched : bestMatch "I'm fine thanks" ["Extra cheese", "None"] = none := by decide +kernel
  have denies : deniesAll "None" = true := by decide +kernel
  refine ⟨distinct, trimmed, offered, unmatched, ?_⟩
  rw [outcome_of_reply unmatched rfl, Option.getD_some]
  obtain ⟨v, outcome, intent⟩ := outcome_of_copies distinct (trimmed _ offered) offered
    (copies_bare "None")
  exact ⟨v, outcome, by simp [intent, denies]⟩

def markedOtherwise : String := String.ofList
  (fence ++ "javascript\n".toList ++ (claimText "Tea").toList ++ ['\n'] ++ fence)

lemma disobeyed_markedOtherwise :
    Disobeyed "something else" ["Java", "Tea"] markedOtherwise "Tea" := by
  have unmatched : bestMatch "something else" ["Java", "Tea"] = none := by decide +kernel
  have reads : replied markedOtherwise = .error (.malformed 0) := by cbv
  have claims : Claims markedOtherwise (within stripFences markedOtherwise) :=
    .bare reads (by decide +kernel)
  have read := readReply_eq_ok.mpr (.inr ⟨_, reads, (fun _ same => by cases same), rfl⟩)
  obtain ⟨v, outcome⟩ : ∃ v, (resolve (some fun _ _ => .reply (some markedOtherwise))
      "something else" ["Java", "Tea"]).outcome = .ok v := by
    rw [outcome_of_reply unmatched rfl, Option.getD_some, read]
    exact ⟨verdictOf ["Java", "Tea"] _, rfl⟩
  have intent : v.intent = some "Java" := (intent_of_unmatched unmatched outcome).mpr
    ⟨_, _, _, rfl, rfl, claims, by decide +kernel, by decide +kernel⟩
  exact ⟨by decide +kernel, by decide +kernel, by decide, unmatched, v, outcome, by simp [intent]⟩

end

theorem copied_option_is_not_obeyed : letI := Limits.usual
    (Copies "None" (claimText "None") ∧
      Disobeyed "I'm fine thanks" ["Extra cheese", "None"] (claimText "None") "None") ∧
    Disobeyed "something else" ["Java", "Tea"] (String.ofList
      (fence ++ "javascript\n".toList ++ (claimText "Tea").toList ++ ['\n'] ++ fence)) "Tea" :=
  let _ := Limits.usual
  ⟨⟨copies_bare "None", disobeyed_none⟩, disobeyed_markedOtherwise⟩

end Dialogue.Intent
