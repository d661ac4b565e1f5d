import Dialogue.Text.Blank
import Dialogue.Text.Case
import Mathlib.Data.List.DropRight

/-! Trimming a text and taking its lower form commute: a blank has no case, no other character
becomes blank, and a sigma at the end of a word ends it before blanks as well. -/

namespace Dialogue.Text

variable {c d : Char} {cs : List Char}

def blankCodes : List Nat :=
  [9, 10, 11, 12, 13, 28, 29, 30, 31, 32, 0x85, 0xA0, 0x1680, 0x2000, 0x2001, 0x2002, 0x2003,
    0x2004, 0x2005, 0x2006, 0x2007, 0x2008, 0x2009, 0x200A, 0x2028, 0x2029, 0x202F, 0x205F, 0x3000]

lemma toNat_mem_blankCodes (h : isBlank c = true) : c.toNat ∈ blankCodes := by
  simp only [isBlank, Bool.or_eq_true, Bool.and_eq_true, decide_eq_true_eq, beq_iff_eq] at h
  simp only [blankCodes, List.mem_cons, List.not_mem_nil, or_false]
  omega

lemma mem_blankCodes_of_ofNat {n : Nat} (h : isBlank (Char.ofNat n) = true) : n ∈ blankCodes := by
  by_cases valid : n.isValidChar
  · have code : (Char.ofNat n).toNat = n := by
      rw [Char.ofNat, dif_pos valid]
      rfl
    exact code ▸ toNat_mem_blankCodes h
  · rw [Char.ofNat, dif_neg valid] at h
    exact absurd h (by decide)

lemma caseless_of_blankCodes : ∀ n ∈ blankCodes, lowerForm (Char.ofNat n) = [Char.ofNat n] ∧
    isPassed (Char.ofNat n) = false ∧ isCased (Char.ofNat n) = false ∧ Char.ofNat n ≠ 'Σ' := by
  decide +kernel

lemma caseless_of_blank (h : isBlank c = true) :
    lowerForm c = [c] ∧ isPassed c = false ∧ isCased c = false ∧ c ≠ 'Σ' := by
  have hc := caseless_of_blankCodes c.toNat (toNat_mem_blankCodes h)
  rwa [Char.ofNat_toNat] at hc

lemma blankCodes_out_of_lowerRuns : ∀ r ∈ lowerRuns, ∀ n ∈ blankCodes,
    ¬ ((r.first : Int) + r.offset ≤ n ∧ (n : Int) ≤ r.last + r.offset) := by
  decide +kernel

lemma blankCodes_out_of_lowerLonger :
    ∀ p ∈ lowerLonger, p.2 ≠ [] ∧ ∀ n ∈ p.2, n ∉ blankCodes := by
  decide +kernel

lemma lowerForm_cases (c : Char) :
    (∃ r ∈ lowerRuns, r.covers c.toNat = true ∧
      lowerForm c = [Char.ofNat (c.toNat + r.offset).toNat]) ∨
    (∃ form, (c.toNat, form) ∈ lowerLonger ∧ lowerForm c = form.map Char.ofNat) ∨
    lowerForm c = [c] := by
  unfold lowerForm mapped
  cases run : lowerRuns.find? (·.covers c.toNat) with
  | some r =>
    have covers : r.covers c.toNat = true := by simpa using List.find?_some run
    exact .inl ⟨r, List.mem_of_find?_eq_some run, covers, rfl⟩
  | none =>
    cases longer : lowerLonger.lookup c.toNat with
    | some form =>
      obtain ⟨before, after, split, -⟩ := List.lookup_eq_some_iff.mp longer
      exact .inr (.inl ⟨form, by simp [split], rfl⟩)
    | none => exact .inr (.inr rfl)

lemma lowerForm_ne_nil (c : Char) : lowerForm c ≠ [] := by
  rcases lowerForm_cases c with ⟨r, -, -, h⟩ | ⟨form, hf, h⟩ | h
  · simp [h]
  · simpa [h] using (blankCodes_out_of_lowerLonger _ hf).1
  · simp [h]

lemma isBlank_of_mem_lowerForm (hd : d ∈ lowerForm c) (h : isBlank d = true) :
    isBlank c = true := by
  rcases lowerForm_cases c with ⟨r, hr, covers, form⟩ | ⟨form, hf, he⟩ | form
  · obtain rfl : d = Char.ofNat (c.toNat + r.offset).toNat := by simpa [form] using hd
    have blank := mem_blankCodes_of_ofNat h
    have out := blankCodes_out_of_lowerRuns r hr _ blank
    simp only [CaseRun.covers, Bool.and_eq_true, decide_eq_true_eq] at covers
    have low : 9 ≤ (c.toNat + r.offset).toNat := by
      have least : ∀ n ∈ blankCodes, 9 ≤ n := by decide
      exact least _ blank
    omega
  · obtain ⟨n, hn, rfl⟩ := List.mem_map.mp (he ▸ hd)
    exact absurd (mem_blankCodes_of_ofNat h) ((blankCodes_out_of_lowerLonger _ hf).2 n hn)
  · obtain rfl : d = c := by simpa [form] using hd
    exact h

def firstForm (inWord : Bool) (c : Char) (rest : List Char) : List Char :=
  if c = 'Σ' then [if inWord && !wordGoesOn rest then 'ς' else 'σ'] else lowerForm c

def wordAfter (inWord : Bool) (c : Char) : Bool :=
  if c = 'Σ' then true else if isPassed c then inWord else isCased c

lemma lowerFrom_cons (inWord : Bool) (c : Char) (rest : List Char) :
    lowerFrom inWord (c :: rest) =
      firstForm inWord c rest ++ lowerFrom (wordAfter inWord c) rest := by
  by_cases h : c = 'Σ'
  · subst h
    simp [lowerFrom, firstForm, wordAfter]
  · rw [lowerFrom]
    · simp [firstForm, wordAfter, h]
    · exact h

lemma firstForm_ne_nil (inWord : Bool) (c : Char) (rest : List Char) :
    firstForm inWord c rest ≠ [] := by
  unfold firstForm
  split_ifs
  · simp
  · simp
  · exact lowerForm_ne_nil c

lemma isBlank_of_mem_firstForm {inWord : Bool} {rest : List Char}
    (hd : d ∈ firstForm inWord c rest) (h : isBlank c = false) : isBlank d = false := by
  unfold firstForm at hd
  split_ifs at hd
  · obtain rfl : d = 'ς' := by simpa using hd
    decide
  · obtain rfl : d = 'σ' := by simpa using hd
    decide
  · by_contra blank
    have hc := isBlank_of_mem_lowerForm hd (by simpa using blank)
    exact absurd (hc.symm.trans h) (by simp)

lemma lowerFrom_blank_cons (h : isBlank c = true) (inWord : Bool) (rest : List Char) :
    lowerFrom inWord (c :: rest) = c :: lowerFrom false rest := by
  obtain ⟨form, passed, cased, other⟩ := caseless_of_blank h
  rw [lowerFrom_cons]
  simp [firstForm, wordAfter, form, passed, cased, other]

lemma wordGoesOn_append_blank (h : isBlank c = true) (cs : List Char) :
    wordGoesOn (cs ++ [c]) = wordGoesOn cs := by
  obtain ⟨-, passed, cased, -⟩ := caseless_of_blank h
  induction cs with
  | nil => simp [wordGoesOn, passed, cased]
  | cons d rest ih =>
    simp only [wordGoesOn, List.cons_append, List.dropWhile_cons] at ih ⊢
    split
    · exact ih
    · rfl

lemma lowerFrom_append_blank (h : isBlank c = true) (inWord : Bool) (cs : List Char) :
    lowerFrom inWord (cs ++ [c]) = lowerFrom inWord cs ++ [c] := by
  induction cs generalizing inWord with
  | nil => simpa [lowerFrom] using lowerFrom_blank_cons h inWord []
  | cons d rest ih =>
    have first : firstForm inWord d (rest ++ [c]) = firstForm inWord d rest := by
      simp only [firstForm, wordGoesOn_append_blank h]
    rw [List.cons_append, lowerFrom_cons, lowerFrom_cons, first, ih, List.append_assoc]

lemma lowerFrom_append_mark (h : isBlank c = false) (inWord : Bool) (cs : List Char) :
    ∃ ds d, lowerFrom inWord (cs ++ [c]) = ds ++ [d] ∧ isBlank d = false := by
  induction cs generalizing inWord with
  | nil =>
    have ne := firstForm_ne_nil inWord c []
    refine ⟨(firstForm inWord c []).dropLast, (firstForm inWord c []).getLast ne, ?_, ?_⟩
    · rw [List.nil_append, lowerFrom_cons, lowerFrom, List.append_nil,
        List.dropLast_append_getLast ne]
    · exact isBlank_of_mem_firstForm (List.getLast_mem ne) h
  | cons e rest ih =>
    obtain ⟨ds, d, hd, mark⟩ := ih (wordAfter inWord e)
    refine ⟨firstForm inWord e (rest ++ [c]) ++ ds, d, ?_, mark⟩
    rw [List.cons_append, lowerFrom_cons, hd, List.append_assoc]

lemma stripLeft_blank_cons (h : isBlank c = true) : stripLeft (c :: cs) = stripLeft cs := by
  simp [stripLeft, h]

lemma stripLeft_mark_cons (h : isBlank c = false) : stripLeft (c :: cs) = c :: cs := by
  simp [stripLeft, h]

lemma stripLeft_lower (cs : List Char) : stripLeft (lower cs) = lower (stripLeft cs) := by
  induction cs with
  | nil => rfl
  | cons c rest ih =>
    cases h : isBlank c with
    | true =>
      rw [lower, lowerFrom_blank_cons h, stripLeft_blank_cons h, stripLeft_blank_cons h]
      exact ih
    | false =>
      obtain ⟨d, ds, hd⟩ := List.exists_cons_of_ne_nil (firstForm_ne_nil false c rest)
      have mark : isBlank d = false := isBlank_of_mem_firstForm (by rw [hd]; simp) h
      rw [stripLeft_mark_cons h, lower, lowerFrom_cons, hd, List.cons_append,
        stripLeft_mark_cons mark]

lemma stripRight_lowerFrom (inWord : Bool) (cs : List Char) :
    stripRight (lowerFrom inWord cs) = lowerFrom inWord (stripRight cs) := by
  induction cs using List.reverseRecOn with
  | nil => rfl
  | append_singleton cs c ih =>
    cases h : isBlank c with
    | true =>
      rw [lowerFrom_append_blank h, stripRight_append_blank _ _ h, stripRight_append_blank _ _ h,
        ih]
    | false =>
      obtain ⟨ds, d, hd, mark⟩ := lowerFrom_append_mark h inWord cs
      rw [stripRight_append_mark _ _ h, hd, stripRight_append_mark _ _ mark]

lemma strip_lower (cs : List Char) : strip (lower cs) = lower (strip cs) := by
  rw [strip, stripLeft_lower, lower, stripRight_lowerFrom, strip, lower]

lemma lower_ne_nil (h : cs ≠ []) : lower cs ≠ [] := by
  obtain ⟨c, rest, rfl⟩ := List.exists_cons_of_ne_nil h
  rw [lower, lowerFrom_cons]
  exact List.append_ne_nil_of_left_ne_nil (firstForm_ne_nil _ _ _) _

lemma stripLeft_stripRight (h : stripLeft cs = cs) : stripLeft (stripRight cs) = stripRight cs := by
  cases hr : stripRight cs with
  | nil => rfl
  | cons d rest =>
    have front : stripRight cs <+: cs := List.rdropWhile_prefix isBlank cs
    obtain ⟨after, split⟩ := front
    rw [hr, List.cons_append] at split
    cases mark : isBlank d with
    | false => exact stripLeft_mark_cons mark
    | true =>
      have shorter : (stripLeft cs).length ≤ (rest ++ after).length := by
        rw [← split, stripLeft_blank_cons mark]
        exact (List.dropWhile_suffix _).length_le
      rw [h, ← split, List.length_cons] at shorter
      omega

lemma strip_strip (cs : List Char) : strip (strip cs) = strip cs := by
  have left : stripLeft (stripLeft cs) = stripLeft cs := List.dropWhile_idempotent _ _
  have right : stripRight (strip cs) = strip cs := List.rdropWhile_idempotent isBlank _
  have both : stripLeft (strip cs) = strip cs := stripLeft_stripRight left
  rw [strip, both, right]

lemma strip_ne_nil (h : cs.all isBlank = false) : strip cs ≠ [] := by
  intro empty
  have left : ∀ c ∈ stripLeft cs, isBlank c = true := List.rdropWhile_eq_nil_iff.mp empty
  obtain ⟨c, hc, mark⟩ : ∃ c ∈ cs, isBlank c = false := by simpa using h
  have all : ∀ d ∈ cs, isBlank d = true := by
    rw [← List.takeWhile_append_dropWhile (p := isBlank) (l := cs)]
    intro d hd
    rcases List.mem_append.mp hd with hd | hd
    · exact List.mem_takeWhile_imp hd
    · exact left d hd
  exact absurd ((all c hc).symm.trans mark) (by simp)

lemma mem_of_mem_strip (h : c ∈ strip cs) : c ∈ cs := by
  have front : strip cs <+: stripLeft cs := List.rdropWhile_prefix isBlank _
  have back : stripLeft cs <:+ cs := List.dropWhile_suffix _
  exact back.subset (front.subset h)

lemma strip_of_marks (h : ∀ c ∈ cs, isBlank c = false) : strip cs = cs := by
  have left : stripLeft cs = cs := List.dropWhile_eq_self_iff.mpr fun inside => by
    simpa using h _ (List.getElem_mem inside)
  have right : stripRight cs = cs := List.rdropWhile_eq_self_iff.mpr fun filled => by
    simpa using h _ (List.getLast_mem filled)
  rw [strip, left, right]

lemma lowerFrom_append_margin {after : List Char} (h : ∀ c ∈ after, isBlank c = true)
    (inWord : Bool) (cs : List Char) :
    lowerFrom inWord (cs ++ after) = lowerFrom inWord cs ++ after := by
  induction after using List.reverseRecOn with
  | nil => simp
  | append_singleton rest c ih =>
    have blank : isBlank c = true := h c (by simp)
    rw [← List.append_assoc, lowerFrom_append_blank blank, ih fun d hd => h d (by simp [hd]),
      List.append_assoc]

lemma lower_margins {before after : List Char} (hb : ∀ c ∈ before, isBlank c = true)
    (ha : ∀ c ∈ after, isBlank c = true) (cs : List Char) :
    lower (before ++ cs ++ after) = before ++ lower cs ++ after := by
  rw [lower, lowerFrom_append_margin ha]
  congr 1
  induction before with
  | nil => rfl
  | cons c rest ih =>
    rw [List.cons_append, lowerFrom_blank_cons (hb c (by simp)), ih fun d hd => hb d (by simp [hd]),
      List.cons_append]

lemma exists_margins (cs : List Char) : ∃ before after, cs = before ++ strip cs ++ after ∧
    (∀ c ∈ before, isBlank c = true) ∧ ∀ c ∈ after, isBlank c = true := by
  refine ⟨cs.takeWhile isBlank, (stripLeft cs).rtakeWhile isBlank, ?_, ?_, ?_⟩
  · have right : strip cs ++ (stripLeft cs).rtakeWhile isBlank = stripLeft cs :=
      List.rdropWhile_append_rtakeWhile
    rw [List.append_assoc, right]
    exact List.takeWhile_append_dropWhile.symm
  · exact fun c => List.mem_takeWhile_imp
  · exact fun c => List.mem_rtakeWhile_imp

lemma strip_eq_self_iff_lower : strip cs = cs ↔ lower (strip cs) = lower cs := by
  refine ⟨congrArg lower, fun same => ?_⟩
  obtain ⟨before, after, split, hb, ha⟩ := exists_margins cs
  have lengths : (before ++ lower (strip cs) ++ after).length = (lower (strip cs)).length := by
    rw [← lower_margins hb ha, ← split, same]
  simp only [List.length_append] at lengths
  obtain rfl : before = [] := List.eq_nil_of_length_eq_zero (by omega)
  obtain rfl : after = [] := List.eq_nil_of_length_eq_zero (by omega)
  simpa using split.symm

end Dialogue.Text
