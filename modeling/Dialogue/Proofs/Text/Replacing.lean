import Dialogue.Text.Search
import Mathlib.Data.List.Infix
import Mathlib.Tactic.Common

/-! Replacing every occurrence of a text that cannot overlap with itself. Each occurrence gives way
on its own: what is before it and what is behind it are replaced as if they stood alone. -/

namespace Dialogue.Text

variable {old new text out front rest margin w before after : List Char} {c : Char}

inductive Replaced (old new : List Char) : List Char → List Char → Prop
  | nil : Replaced old new [] []
  | found {rest out : List Char} : Replaced old new rest out →
      Replaced old new (old ++ rest) (new ++ out)
  | kept {c : Char} {rest out : List Char} : ¬ old <+: c :: rest → Replaced old new rest out →
      Replaced old new (c :: rest) (c :: out)

lemma replaceFrom_drop (skip : Nat) (text : List Char) :
    replaceFrom old new skip text = replaceFrom old new 0 (text.drop skip) := by
  induction skip generalizing text with
  | zero => rfl
  | succ skip ih =>
    cases text with
    | nil => rfl
    | cons c rest => exact ih rest

lemma replace_found (filled : old ≠ []) (new rest : List Char) :
    replace old new (old ++ rest) = new ++ replace old new rest := by
  obtain ⟨c, tail, rfl⟩ := List.exists_cons_of_ne_nil filled
  have here : (c :: tail).isPrefixOf (c :: (tail ++ rest)) = true :=
    List.isPrefixOf_iff_prefix.mpr ⟨rest, rfl⟩
  rw [List.cons_append, replace, replaceFrom, if_pos here, replaceFrom_drop]
  simp [replace]

lemma replace_kept (here : ¬ old <+: c :: rest) (new : List Char) :
    replace old new (c :: rest) = c :: replace old new rest := by
  rw [replace, replaceFrom, if_neg (mt List.isPrefixOf_iff_prefix.mp here)]
  rfl

lemma replaced_replace (filled : old ≠ []) (new text : List Char) :
    Replaced old new text (replace old new text) := by
  induction size : text.length using Nat.strong_induction_on generalizing text with
  | h n ih =>
    cases text with
    | nil => exact .nil
    | cons c rest =>
      by_cases here : old <+: c :: rest
      · obtain ⟨after, split⟩ := here
        rw [← split, replace_found filled]
        refine .found (ih after.length ?_ after rfl)
        have := List.length_pos_of_ne_nil filled
        rw [← size, ← split, List.length_append]
        omega
      · rw [replace_kept here]
        exact .kept here (ih rest.length (by simp [← size]) rest rfl)

def Borderless (cs : List Char) : Prop :=
  ∀ n < cs.length, 0 < n → cs.drop n ≠ cs.take (cs.length - n)

lemma within_or_beyond (h : w <+: front ++ rest) :
    w <+: front ∨ ∃ back, back ≠ [] ∧ w = front ++ back ∧ back <+: rest := by
  rcases List.prefix_or_prefix_of_prefix h (List.prefix_append front rest) with short | ⟨back, rfl⟩
  · exact .inl short
  · by_cases none : back = []
    · exact .inl (by simp [none])
    · exact .inr ⟨back, none, rfl, (List.prefix_append_right_inj front).mp h⟩

lemma Borderless.ahead (h : Borderless old) (filled : front ≠ [])
    (begins : old <+: front ++ (old ++ rest)) : old <+: front := by
  refine (within_or_beyond begins).resolve_right ?_
  rintro ⟨back, begun, split, onward⟩
  have length : old.length = front.length + back.length := by rw [split, List.length_append]
  have shared : back <+: old :=
    List.prefix_of_prefix_length_le onward (List.prefix_append old rest) (by omega)
  have inside : front.length < old.length := by
    have := List.length_pos_of_ne_nil begun
    omega
  refine h front.length inside (List.length_pos_of_ne_nil filled) ?_
  have lengths : old.length - front.length = back.length := by omega
  rw [lengths, ← List.prefix_iff_eq_take.mp shared, split, List.drop_left]

lemma replace_append (filled : old ≠ []) (borderless : Borderless old)
    (new before after : List Char) : replace old new (before ++ (old ++ after)) =
      replace old new before ++ (new ++ replace old new after) := by
  have whole := replaced_replace filled new before
  generalize replace old new before = out at whole
  induction whole with
  | nil => exact replace_found filled new after
  | found _ ih => rw [List.append_assoc, replace_found filled, ih, List.append_assoc]
  | kept here _ ih =>
    rw [List.cons_append, replace_kept (fun begins => ?_), ih, List.cons_append]
    exact here (borderless.ahead (List.cons_ne_nil _ _) begins)

lemma replace_eq_self (filled : old ≠ []) (clear : ¬ old <:+: text) (new : List Char) :
    replace old new text = text := by
  have whole := replaced_replace filled new text
  generalize replace old new text = out at whole
  induction whole with
  | nil => rfl
  | found _ _ => exact absurd (List.prefix_append old _).isInfix clear
  | kept _ _ ih => rw [ih fun inside => clear (List.infix_cons inside)]

lemma replace_append_left {first : Char} {tail : List Char} (clear : first ∉ margin)
    (new rest : List Char) :
    replace (first :: tail) new (margin ++ rest) = margin ++ replace (first :: tail) new rest := by
  induction margin with
  | nil => rfl
  | cons c margin ih =>
    rw [List.mem_cons, not_or] at clear
    have here : ¬ first :: tail <+: c :: (margin ++ rest) := fun begins =>
      clear.1 (List.cons_prefix_cons.mp begins).1
    rw [List.cons_append, replace_kept here, ih clear.2, List.cons_append]

lemma replace_append_right {last : Char} {tail : List Char} (clear : last ∉ margin)
    (new front : List Char) : replace (tail ++ [last]) new (front ++ margin) =
      replace (tail ++ [last]) new front ++ margin := by
  have filled : tail ++ [last] ≠ [] := by simp
  have whole := replaced_replace filled new front
  generalize replace (tail ++ [last]) new front = out at whole
  induction whole with
  | nil => exact replace_eq_self filled (fun inside => clear (inside.subset (by simp))) new
  | found _ ih => rw [List.append_assoc, replace_found filled, ih, List.append_assoc]
  | @kept c rest _ here _ ih =>
    rw [List.cons_append, replace_kept (fun begins => ?_), ih, List.cons_append]
    -- an occurrence that reaches into the margin has its last character there
    rw [← List.cons_append] at begins
    obtain ⟨back, begun, split, onward⟩ := (within_or_beyond begins).resolve_left here
    obtain ⟨back, d, rfl⟩ := (List.eq_nil_or_concat' back).resolve_left begun
    rw [← List.append_assoc] at split
    have same : last = d := by simpa using (List.append_inj' split rfl).2
    exact clear (same ▸ onward.subset (by simp))

lemma Replaced.prefix_of_prefix {first : Char} (h : Replaced old (first :: new) text out)
    (clear : first ∉ w) (begins : w <+: out) : w <+: text := by
  induction h generalizing w with
  | nil => exact begins
  | found _ _ =>
    cases w with
    | nil => exact List.nil_prefix
    | cons c w => exact absurd (by simp [(List.cons_prefix_cons.mp begins).1]) clear
  | kept _ _ ih =>
    cases w with
    | nil => exact List.nil_prefix
    | cons c w =>
      obtain ⟨same, onward⟩ := List.cons_prefix_cons.mp begins
      exact List.cons_prefix_cons.mpr ⟨same, ih (mt (List.mem_cons_of_mem c) clear) onward⟩

lemma infix_of_infix_append {first : Char} {tail : List Char} (clear : first ∉ margin)
    (h : first :: tail <:+: margin ++ rest) : first :: tail <:+: rest := by
  induction margin with
  | nil => exact h
  | cons c margin ih =>
    rw [List.mem_cons, not_or] at clear
    rcases List.infix_cons_iff.mp h with here | later
    · exact absurd (List.cons_prefix_cons.mp here).1 clear.1
    · exact ih clear.2 later

end Dialogue.Text
