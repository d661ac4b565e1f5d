import Dialogue.Intent.Match
import Dialogue.Proofs.Text.Trimming

/-! Which option a match picks: the first one under the strictest rule that any option satisfies.
Words are described by what stands around them and the rules by the texts that they compare, so
nothing in a rule here says how it is tried. -/

namespace Dialogue

namespace Text

variable {p : Char → Bool} {w cs : List Char}

def IsPiece (p : Char → Bool) (w cs : List Char) : Prop :=
  ∃ before after, cs = before ++ w ++ after ∧ (∀ c ∈ w, p c = false) ∧
    (∀ c ∈ before.getLast?, p c = true) ∧ ∀ c ∈ after.head?, p c = true

def IsWord (w cs : List Char) : Prop := w ≠ [] ∧ IsPiece isBlank w cs

lemma IsPiece.mem_pieces (h : IsPiece p w cs) : w ∈ pieces p cs := by
  obtain ⟨before, after, rfl, clear, left, right⟩ := h
  have behind : w ∈ pieces p (w ++ after) := by
    cases after with
    | nil => simp [pieces_of_none clear]
    | cons y rest => simp [pieces_append (right y rfl), pieces_of_none clear]
  rcases List.eq_nil_or_concat before with rfl | ⟨front, x, rfl⟩
  · exact behind
  · have edge : p x = true := left x (by simp)
    rw [List.append_assoc, List.concat_eq_append, List.append_assoc, List.singleton_append,
      pieces_append edge]
    exact List.mem_append_right _ behind

-- The first piece ends at the first `p`; any other is a piece of what follows it.
lemma isPiece_of_mem_pieces {cs : List Char} (h : w ∈ pieces p cs) : IsPiece p w cs := by
  cases first : cs.find? p with
  | none =>
    have clear : ∀ c ∈ cs, p c = false := by simpa using first
    obtain rfl : w = cs := by simpa [pieces_of_none clear] using h
    exact ⟨[], [], by simp, clear, by simp, by simp⟩
  | some x =>
    obtain ⟨edge, v, rest, rfl, ahead⟩ := List.find?_eq_some_iff_append.mp first
    have clear : ∀ c ∈ v, p c = false := by simpa using ahead
    rw [pieces_append edge, pieces_of_none clear, List.singleton_append, List.mem_cons] at h
    rcases h with rfl | later
    · exact ⟨[], x :: rest, by simp, clear, by simp, by simpa using edge⟩
    · obtain ⟨before, after, split, inside, left, right⟩ := isPiece_of_mem_pieces later
      refine ⟨v ++ x :: before, after, by simp [split], inside, ?_, right⟩
      rcases List.eq_nil_or_concat before with rfl | ⟨front, y, rfl⟩
      · simpa using edge
      · simpa [List.getLast?_cons] using left
termination_by cs.length
decreasing_by simp_all; omega

lemma mem_pieces_iff : w ∈ pieces p cs ↔ IsPiece p w cs :=
  ⟨isPiece_of_mem_pieces, IsPiece.mem_pieces⟩

lemma mem_words_iff : w ∈ words cs ↔ IsWord w cs := by
  simp [words, IsWord, mem_pieces_iff, and_comm]

end Text

namespace Intent

open Text

variable {said o : String} {options : List String}

inductive Rule
  | equality
  | containment
  | sharedWord

namespace Rule

def rank : Rule → Nat
  | equality => 1
  | containment => 2
  | sharedWord => 3

/-- What was said is compared without the blanks around it, an option as it stands; the case of
either does not count. -/
def Matches (said option : String) : Rule → Prop
  | equality => lower option.toList = wanted said
  | containment => option ≠ "" ∧
      (lower option.toList <:+: wanted said ∨ wanted said <:+: lower option.toList)
  | sharedWord => ∃ a b, IsWord a (wanted said) ∧ IsWord b (lower option.toList) ∧
      3 ≤ a.length ∧ 3 ≤ b.length ∧ (a <:+: b ∨ b <:+: a)

def test : Rule → List Char → String → Bool
  | equality => equals
  | containment => contains
  | sharedWord => sharesWord

def inOrder : List Rule := [equality, containment, sharedWord]

lemma rules_eq : rules = inOrder.map test := rfl

lemma mem_inOrder (rule : Rule) : rule ∈ inOrder := by
  cases rule <;> simp [inOrder]

lemma inOrder_sorted : inOrder.Pairwise fun r s => r.rank < s.rank := by
  simp [inOrder, rank]

lemma mem_ahead_iff {ahead behind : List Rule} {rule s : Rule}
    (split : inOrder = ahead ++ rule :: behind) : s ∈ ahead ↔ s.rank < rule.rank := by
  have sorted := split ▸ inOrder_sorted
  obtain ⟨-, later, earlier⟩ := List.pairwise_append.mp sorted
  refine ⟨fun before => earlier s before rule (by simp), fun stricter => ?_⟩
  have member := split ▸ mem_inOrder s
  rcases List.mem_append.mp member with before | after
  · exact before
  · rcases List.mem_cons.mp after with rfl | after
    · exact absurd stricter (lt_irrefl _)
    · have laxer : rule.rank < s.rank := List.rel_of_pairwise_cons later after
      omega

end Rule

lemma overlap_iff {a b : List Char} : overlap a b = true ↔ a <:+: b ∨ b <:+: a := by
  simp [overlap, occursIn_iff_infix]

lemma mem_tokens_iff {w cs : List Char} : w ∈ tokens cs ↔ IsWord w cs ∧ 3 ≤ w.length := by
  simp [tokens, mem_words_iff]

lemma test_iff {rule : Rule} : rule.test (wanted said) o = true ↔ rule.Matches said o := by
  cases rule with
  | equality => simp [Rule.test, Rule.Matches, equals]
  | containment => simp [Rule.test, Rule.Matches, contains, overlap_iff]
  | sharedWord =>
    simp only [Rule.test, Rule.Matches, sharesWord, List.any_eq_true, overlap_iff, mem_tokens_iff]
    constructor
    · rintro ⟨a, ⟨ha, la⟩, b, ⟨hb, lb⟩, common⟩
      exact ⟨a, b, ha, hb, la, lb, common⟩
    · rintro ⟨a, b, ha, hb, la, lb, common⟩
      exact ⟨a, ⟨ha, la⟩, b, ⟨hb, lb⟩, common⟩

lemma wanted_eq_nil_iff : wanted said = [] ↔ isBlankText said = true := by
  rw [wanted, strip_lower]
  constructor
  · intro empty
    by_contra filled
    exact lower_ne_nil (strip_ne_nil (by simpa [isBlankText] using filled)) empty
  · intro blank
    have gone : stripLeft said.toList = [] :=
      List.dropWhile_eq_nil_iff.mpr (List.all_eq_true.mp blank)
    rw [strip, gone]
    rfl

lemma bestMatch_of_blank (blank : isBlankText said = true) : bestMatch said options = none := by
  simp [bestMatch, wanted_eq_nil_iff.mpr blank]

lemma bestMatch_of_filled (filled : isBlankText said = false) :
    bestMatch said options =
      Rule.inOrder.findSome? fun rule => options.find? (rule.test (wanted said)) := by
  have words : wanted said ≠ [] := fun empty => by simp [wanted_eq_nil_iff.mp empty] at filled
  simp [bestMatch, words, Rule.rules_eq, List.findSome?_map, Function.comp_def]

/-- The option at `i` matches what was said under `rule`: none does under a stricter one, and none
before `i` does under this one. -/
structure Picks (said : String) (options : List String) (rule : Rule) (i : Nat) (o : String) :
    Prop where
  here : options[i]? = some o
  fits : rule.Matches said o
  stricter : ∀ s : Rule, s.rank < rule.rank → ∀ p ∈ options, ¬ s.Matches said p
  earlier : ∀ j < i, ∀ p ∈ options[j]?, ¬ rule.Matches said p

lemma find?_test_eq_none_iff {rule : Rule} :
    options.find? (rule.test (wanted said)) = none ↔ ∀ p ∈ options, ¬ rule.Matches said p := by
  simp only [List.find?_eq_none, test_iff]

lemma find?_test_eq_some_iff {rule : Rule} :
    options.find? (rule.test (wanted said)) = some o ↔
      ∃ i : Nat, options[i]? = some o ∧ rule.Matches said o ∧
        ∀ j < i, ∀ p ∈ options[j]?, ¬ rule.Matches said p := by
  rw [List.find?_eq_some_iff_getElem]
  constructor
  · rintro ⟨fits, i, inside, here, earlier⟩
    refine ⟨i, List.getElem?_eq_some_iff.mpr ⟨inside, here⟩, test_iff.mp fits, ?_⟩
    intro j before p at_j
    obtain ⟨_, rfl⟩ := List.getElem?_eq_some_iff.mp at_j
    have missed := earlier j before
    exact fun matched => by simp [test_iff.mpr matched] at missed
  · rintro ⟨i, here, fits, earlier⟩
    obtain ⟨inside, at_i⟩ := List.getElem?_eq_some_iff.mp here
    refine ⟨test_iff.mpr fits, i, inside, at_i, fun j before => ?_⟩
    have missed := earlier j before options[j] (by simp)
    simpa using fun matched => missed (test_iff.mp matched)

lemma bestMatch_eq_none_iff (filled : isBlankText said = false) :
    bestMatch said options = none ↔ ∀ rule : Rule, ∀ p ∈ options, ¬ rule.Matches said p := by
  rw [bestMatch_of_filled filled, List.findSome?_eq_none_iff]
  simp only [find?_test_eq_none_iff, Rule.mem_inOrder, true_imp_iff]

lemma bestMatch_eq_some_iff (filled : isBlankText said = false) :
    bestMatch said options = some o ↔ ∃ rule i, Picks said options rule i o := by
  rw [bestMatch_of_filled filled, List.findSome?_eq_some_iff]
  constructor
  · rintro ⟨ahead, rule, behind, split, found, missed⟩
    obtain ⟨i, here, fits, earlier⟩ := find?_test_eq_some_iff.mp found
    refine ⟨rule, i, here, fits, fun s stricter => ?_, earlier⟩
    exact find?_test_eq_none_iff.mp (missed s ((Rule.mem_ahead_iff split).mpr stricter))
  · rintro ⟨rule, i, here, fits, stricter, earlier⟩
    obtain ⟨ahead, behind, split⟩ := List.append_of_mem (Rule.mem_inOrder rule)
    refine ⟨ahead, rule, behind, split, find?_test_eq_some_iff.mpr ⟨i, here, fits, earlier⟩, ?_⟩
    intro s before
    exact find?_test_eq_none_iff.mpr (stricter s ((Rule.mem_ahead_iff split).mp before))

/-- A match is missing exactly when nothing was said, or only blanks, or no option matches under any
rule; any other match is the first option under the strictest rule that an option satisfies. -/
theorem match_is_first_under_strictest_rule (candidate : Option String) (options : List String) :
    (candidate.bind (bestMatch · options) = none ↔
      ∀ said, candidate = some said → isBlankText said = true ∨
        ∀ rule : Rule, ∀ o ∈ options, ¬ rule.Matches said o) ∧
    ∀ o, candidate.bind (bestMatch · options) = some o ↔
      ∃ said rule i, candidate = some said ∧ isBlankText said = false ∧
        Picks said options rule i o := by
  cases candidate with
  | none => simp
  | some said =>
    cases blank : isBlankText said with
    | true => simp [bestMatch_of_blank blank, blank]
    | false => simp [bestMatch_eq_none_iff blank, bestMatch_eq_some_iff blank, blank]

example : bestMatch "support for billing" ["", "Billing", "Support"] = some "Billing" := by
  decide +kernel

example : bestMatch "what were my options again" ["Yes", "No"] = none := by
  decide +kernel

end Intent

end Dialogue
