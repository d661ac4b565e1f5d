import Dialogue.Text.Fence
import Dialogue.Proofs.Text.Trimming

/-! Code fences around a text. A fence around a trimmed text comes off without a trace, and a text
without a backtick at its ends has no fence to lose; what is left of any text is a part of it. -/

namespace Dialogue.Text

def Margin (cs : List Char) : Prop := ∀ c ∈ cs, isBlank c = true

/-- The text alone or with a code fence around it, among blanks. Without any after the fence, the text
must not begin like its language. -/
inductive Fenced (t : List Char) : List Char → Prop
  | bare {before after : List Char} (hb : Margin before) (ha : Margin after) :
      Fenced t (before ++ t ++ after)
  | fence {before language gap close after : List Char} (hb : Margin before)
      (hl : language = [] ∨ language = ['j', 's', 'o', 'n']) (hg : Margin gap)
      (apart : gap = [] → t.head? ≠ some 'j') (hc : Margin close) (ha : Margin after) :
      Fenced t (before ++ (fence ++ (language ++ (gap ++ (t ++ close))) ++ fence) ++ after)

variable {before after language gap close cs rest more left front t raw : List Char} {c d : Char}

lemma margin_nil : Margin [] := by simp [Margin]

lemma margin_lineFeed : Margin ['\n'] := by simp [Margin, isBlank]

lemma strip_append_margin (ha : Margin after) (cs : List Char) : strip (cs ++ after) = strip cs := by
  have gone : after.dropWhile isBlank = [] := List.dropWhile_eq_nil_iff.mpr ha
  rw [strip, stripLeft, List.dropWhile_append]
  split_ifs with blank
  · rw [gone, strip, stripLeft, List.isEmpty_iff.mp blank]
  · rw [stripRight, List.reverse_append, List.dropWhile_append_of_pos (by simpa [Margin] using ha)]
    rfl

lemma strip_margins (hb : Margin before) (ha : Margin after) (cs : List Char) :
    strip (before ++ cs ++ after) = strip cs := by
  rw [List.append_assoc, strip, stripLeft, List.dropWhile_append_of_pos hb]
  exact strip_append_margin ha cs

lemma strip_eq_self (first : cs = c :: rest) (hc : isBlank c = false) (last : cs = front ++ [d])
    (hd : isBlank d = false) : strip cs = cs := by
  rw [strip, first, stripLeft_mark_cons hc, ← first, last]
  exact stripRight_append_mark _ _ hd

lemma stripLeft_append (trimmed : strip t = t) (filled : t ≠ []) (cs : List Char) :
    stripLeft (t ++ cs) = t ++ cs := by
  have left : stripLeft (strip t) = strip t :=
    stripLeft_stripRight (List.dropWhile_idempotent _ _)
  rw [trimmed] at left
  have kept : (t.dropWhile isBlank).isEmpty = false := by
    rw [show t.dropWhile isBlank = t from left]
    simpa using filled
  rw [stripLeft, List.dropWhile_append, kept]
  exact congrArg (· ++ cs) left

lemma afterLead?_append (lead rest : List Char) : afterLead? lead (lead ++ rest) = some rest :=
  afterLead?_eq_some.mpr rfl

def isEdge (c : Char) : Bool := !isBlank c && c != '\x60'

def Begins (cs : List Char) : Prop := ∃ c rest, cs = c :: rest ∧ isEdge c = true

def Ends (cs rest : List Char) : Prop := ∃ front c, cs = front ++ c :: rest ∧ isEdge c = true

lemma Ends.mono (h : Ends cs rest) (suffix : cs <:+ more) : Ends more rest := by
  obtain ⟨front, c, rfl, edge⟩ := h
  obtain ⟨before, rfl⟩ := suffix
  exact ⟨before ++ front, c, (List.append_assoc ..).symm, edge⟩

lemma Ends.suffix (h : Ends cs rest) : rest <:+ cs := by
  obtain ⟨front, c, rfl, -⟩ := h
  exact ⟨front ++ [c], by simp⟩

lemma Ends.andThen (h : Ends cs rest) (next : left = rest ∨ Ends rest left) : Ends cs left := by
  rcases next with rfl | next
  · exact h
  · exact next.mono h.suffix

lemma Begins.of_append (h : Begins (front ++ c :: rest)) (edge : isEdge c = true) :
    Begins (front ++ [c]) := by
  cases front with
  | nil => exact ⟨c, [], rfl, edge⟩
  | cons d front =>
    obtain ⟨e, _, split, first⟩ := h
    obtain ⟨rfl, -⟩ := List.cons.inj split
    exact ⟨d, front ++ [c], rfl, first⟩

structure Edged (cs : List Char) : Prop where
  first : Begins cs
  last : Ends cs []

lemma isEdge_iff : isEdge c = true ↔ isBlank c = false ∧ c ≠ '\x60' := by
  simp [isEdge]

lemma afterLead?_fence_of_edge (h : isEdge c = true) (rest : List Char) :
    afterLead? fence (c :: rest) = none :=
  if_neg (isEdge_iff.mp h).2.symm

namespace Edged

lemma ne_nil (h : Edged cs) : cs ≠ [] := by
  obtain ⟨c, rest, rfl, -⟩ := h.first
  exact List.cons_ne_nil c rest

lemma strip_eq (h : Edged cs) : strip cs = cs := by
  obtain ⟨c, rest, first, hc⟩ := h.first
  obtain ⟨front, d, last, hd⟩ := h.last
  exact strip_eq_self first (isEdge_iff.mp hc).1 last (isEdge_iff.mp hd).1

lemma withoutOpening_eq (h : Edged cs) : withoutOpening cs = cs := by
  obtain ⟨c, rest, rfl, first⟩ := h.first
  rw [withoutOpening, afterLead?_fence_of_edge first]

lemma withoutClosing_eq (h : Edged cs) : withoutClosing cs = cs := by
  obtain ⟨front, c, rfl, last⟩ := h.last
  rw [withoutClosing, List.reverse_append, List.reverse_singleton, List.singleton_append,
    afterLead?_fence_of_edge last]

end Edged

lemma withoutLanguage_of_head? (h : cs.head? ≠ some 'j') : withoutLanguage cs = cs := by
  cases cs with
  | nil => rfl
  | cons c rest =>
    have other : 'j' ≠ c := fun same => h (congrArg some same.symm)
    simp [withoutLanguage, afterLead?, other]

lemma withoutLanguage_append (hl : language = [] ∨ language = ['j', 's', 'o', 'n'])
    (hg : Margin gap) (apart : gap = [] → cs.head? ≠ some 'j') :
    withoutLanguage (language ++ (gap ++ cs)) = gap ++ cs := by
  rcases hl with rfl | rfl
  · refine withoutLanguage_of_head? ?_
    cases gap with
    | nil => exact apart rfl
    | cons c gap =>
      rintro ⟨⟩
      exact absurd (hg 'j' List.mem_cons_self) (by decide)
  · rw [withoutLanguage, afterLead?_append, Option.getD_some]

lemma strip_withoutClosing (cs : List Char) : strip (withoutClosing (cs ++ fence)) = strip cs := by
  have lead : afterLead? fence (cs ++ fence).reverse = some cs.reverse := by
    rw [List.reverse_append]
    exact afterLead?_append fence cs.reverse
  rw [withoutClosing, lead]
  split
  · next rest back =>
    have split : cs = rest.reverse ++ ['\n'] := by
      rw [← List.reverse_reverse cs, Option.some.inj back]
      simp
    rw [split]
    exact (strip_append_margin margin_lineFeed _).symm
  · next rest _ back => rw [← Option.some.inj back, List.reverse_reverse]
  · next none => cases none

lemma stripFences_fence (trimmed : strip t = t) (filled : t ≠ [])
    (hb : Margin before) (hl : language = [] ∨ language = ['j', 's', 'o', 'n'])
    (hg : Margin gap) (apart : gap = [] → t.head? ≠ some 'j') (hc : Margin close)
    (ha : Margin after) : stripFences
      (before ++ (fence ++ (language ++ (gap ++ (t ++ close))) ++ fence) ++ after) = t := by
  have tick : isBlank '\x60' = false := by decide
  have last (cs : List Char) : cs ++ fence = cs ++ ['\x60', '\x60'] ++ ['\x60'] := by simp [fence]
  have around : strip (fence ++ (language ++ (gap ++ (t ++ close))) ++ fence) =
      fence ++ (language ++ (gap ++ (t ++ close))) ++ fence :=
    strip_eq_self rfl tick (last _) tick
  have opened : withoutOpening (fence ++ (language ++ (gap ++ (t ++ close))) ++ fence) =
      t ++ close ++ fence := by
    rw [List.append_assoc, withoutOpening, afterLead?_append]
    simp only [List.append_assoc]
    have head (cs : List Char) : (t ++ cs).head? = t.head? := List.head?_append_of_ne_nil t filled
    rw [withoutLanguage_append hl hg fun none => head _ ▸ apart none, stripLeft,
      List.dropWhile_append_of_pos hg]
    exact stripLeft_append trimmed filled _
  rw [stripFences, strip_margins hb ha, around, opened, strip_withoutClosing,
    strip_append_margin hc, trimmed]

lemma stripFences_of_fenced (edged : Edged t) (h : Fenced t raw) : stripFences raw = t := by
  cases h with
  | bare hb ha =>
    rw [stripFences, strip_margins hb ha, edged.strip_eq, edged.withoutOpening_eq,
      edged.withoutClosing_eq, edged.strip_eq]
  | fence hb hl hg apart hc ha =>
    exact stripFences_fence edged.strip_eq edged.ne_nil hb hl hg apart hc ha

lemma infix_strip (cs : List Char) : strip cs <:+: cs := by
  have front : strip cs <+: stripLeft cs := List.rdropWhile_prefix isBlank _
  exact front.isInfix.trans (List.dropWhile_suffix _).isInfix

lemma Begins.infix_of_margin (h : Begins t) (hb : Margin before) (inside : t <:+: before ++ cs) :
    t <:+: cs := by
  induction before with
  | nil => exact inside
  | cons c before ih =>
    rcases List.infix_cons_iff.mp inside with first | later
    · obtain ⟨d, rest, rfl, edge⟩ := h
      obtain rfl := (List.cons_prefix_cons.mp first).1
      exact absurd ((isEdge_iff.mp edge).1.symm.trans (hb d List.mem_cons_self)) (by decide)
    · exact ih (fun d hd => hb d (List.mem_cons_of_mem c hd)) later

lemma Ends.infix_of_margin (h : Ends t []) (ha : Margin after) (inside : t <:+: cs ++ after) :
    t <:+: cs := by
  induction after using List.reverseRecOn with
  | nil => simpa using inside
  | append_singleton after c ih =>
    rw [← List.append_assoc] at inside
    rcases List.infix_concat_iff.mp inside with last | earlier
    · obtain ⟨front, d, rfl, edge⟩ := h
      obtain rfl : d = c := by
        obtain ⟨before, split⟩ := last
        rw [← List.append_assoc] at split
        simpa using (List.append_inj' split rfl).2
      exact absurd ((isEdge_iff.mp edge).1.symm.trans (ha d (by simp))) (by decide)
    · exact ih (fun d hd => ha d (by simp [hd])) earlier

lemma Edged.infix_strip_iff (h : Edged t) : t <:+: strip cs ↔ t <:+: cs := by
  refine ⟨fun inside => inside.trans (infix_strip cs), fun inside => ?_⟩
  obtain ⟨before, after, split, hb, ha⟩ := exists_margins cs
  rw [split, List.append_assoc] at inside
  exact h.last.infix_of_margin ha (h.first.infix_of_margin hb inside)

lemma suffix_withoutOpening (cs : List Char) : withoutOpening cs <:+ cs := by
  unfold withoutOpening
  cases lead : afterLead? fence cs with
  | none => exact List.suffix_rfl
  | some rest =>
    have language : withoutLanguage rest <:+ rest := by
      unfold withoutLanguage
      cases word : afterLead? ['j', 's', 'o', 'n'] rest with
      | none => exact List.suffix_rfl
      | some left => exact ⟨_, (afterLead?_eq_some.mp word).symm⟩
    have blanks : stripLeft (withoutLanguage rest) <:+ withoutLanguage rest :=
      List.dropWhile_suffix _
    exact (blanks.trans language).trans ⟨_, (afterLead?_eq_some.mp lead).symm⟩

lemma prefix_withoutClosing (cs : List Char) : withoutClosing cs <+: cs := by
  have kept {back : List Char} (h : back <:+ cs.reverse) : back.reverse <+: cs := by
    simpa using List.reverse_prefix.mpr h
  unfold withoutClosing
  split
  · next rest lead =>
    exact kept ⟨fence ++ ['\n'], by simp [afterLead?_eq_some.mp lead]⟩
  · next rest _ lead => exact kept ⟨fence, (afterLead?_eq_some.mp lead).symm⟩
  · exact List.prefix_rfl

lemma infix_stripFences (cs : List Char) : stripFences cs <:+: cs := by
  have opened := (suffix_withoutOpening (strip cs)).isInfix.trans (infix_strip cs)
  have closed := (prefix_withoutClosing (withoutOpening (strip cs))).isInfix.trans opened
  exact (infix_strip _).trans closed

end Dialogue.Text
