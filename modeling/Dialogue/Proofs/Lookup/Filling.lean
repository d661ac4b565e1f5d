import Dialogue.Lookup.Exchange
import Dialogue.Proofs.Text.Escaping
import Dialogue.Proofs.Text.Replacing

/-! The number of the caller in the slots of an endpoint. It is put in as unreserved characters and
escapes, so that it cannot bring a brace with it; only a number that is itself a part of the slot's
name can complete a slot, and only between braces that the endpoint has there. -/

namespace Dialogue.Lookup

open Text

variable {q v text out before after : List Char} {endpoint p : String}

def slotName : List Char := ['p', 'h', 'o', 'n', 'e']

lemma slot_eq_cons : slot = '\x7b' :: (slotName ++ ['\x7d']) := rfl

lemma slot_eq_concat : slot = ('\x7b' :: slotName) ++ ['\x7d'] := rfl

lemma slot_ne_nil : slot ≠ [] := List.cons_ne_nil _ _

lemma slot_borderless : Borderless slot := by
  unfold Borderless
  decide

def Completes (number endpoint : List Char) : Prop :=
  ∃ before after, slotName = before ++ number ++ after ∧
    '\x7b' :: before ++ slot ++ after ++ ['\x7d'] <:+: endpoint

/-! What is put in -/

lemma brace_notMem_encode (cs : List Char) :
    '\x7b' ∉ Percent.encode cs ∧ '\x7d' ∉ Percent.encode cs := by
  have escaped := Percent.escaped_encode cs
  exact ⟨escaped.notMem (by decide) (by decide) (by decide),
    escaped.notMem (by decide) (by decide) (by decide)⟩

lemma name_split_iff {cs : List Char} : slotName = before ++ Percent.encode cs ++ after ↔
    slotName = before ++ cs ++ after := by
  constructor
  · intro split
    have unescaped : '%' ∉ Percent.encode cs := fun sign => by
      have inside : '%' ∈ slotName := by simp [split, sign]
      exact absurd inside (by decide)
    rw [Percent.encode_eq_self_of_unescaped unescaped] at split
    exact split
  · intro split
    have letters : (slotName.all fun c => Percent.encode [c] = [c]) = true := by decide
    have plain : ∀ c ∈ cs, Percent.encode [c] = [c] := fun c hc =>
      of_decide_eq_true (List.all_eq_true.mp letters c (by simp [split, hc]))
    rw [Percent.encode_eq_self plain]
    exact split

/-! What the filled endpoint may hold -/

lemma exists_completed (h : Replaced slot q text out) (filled : q ≠ []) (closed : '\x7d' ∉ q)
    (distinct : (v ++ ['\x7d']).Nodup) (begins : v ++ ['\x7d'] <+: out)
    (new : ¬ v ++ ['\x7d'] <+: text) :
    ∃ before after, v = before ++ q ++ after ∧ before ++ slot ++ after ++ ['\x7d'] <+: text := by
  induction h generalizing v with
  | nil => exact absurd begins new
  | @found rest out h _ =>
    obtain ⟨back, begun, split, onward⟩ :=
      (within_or_beyond begins).resolve_left fun inside => closed (inside.subset (by simp))
    obtain ⟨after, c, rfl⟩ := (List.eq_nil_or_concat' back).resolve_left begun
    obtain ⟨first, q, rfl⟩ := List.exists_cons_of_ne_nil filled
    -- the number is not met a second time, as no character of the name is
    have clear : first ∉ after ++ [c] := by
      rw [split] at distinct
      exact fun again => (List.nodup_append.mp distinct).2.2 first (by simp) first again rfl
    rw [← List.append_assoc] at split
    obtain ⟨rfl, same⟩ := List.append_inj' split rfl
    rw [← same] at clear onward
    refine ⟨[], after, rfl, ?_⟩
    rw [List.nil_append, List.append_assoc]
    exact (List.prefix_append_right_inj slot).mpr (h.prefix_of_prefix clear onward)
  | @kept c rest out _ _ ih =>
    cases v with
    | nil =>
      obtain ⟨rfl, -⟩ := List.cons_prefix_cons.mp begins
      exact absurd (List.prefix_append ['\x7d'] rest) new
    | cons d v =>
      obtain ⟨rfl, onward⟩ := List.cons_prefix_cons.mp begins
      have later : ¬ v ++ ['\x7d'] <+: rest := fun old =>
        new (List.cons_prefix_cons.mpr ⟨rfl, old⟩)
      obtain ⟨before, after, rfl, there⟩ := ih (List.nodup_cons.mp distinct).2 onward later
      exact ⟨d :: before, after, rfl, List.cons_prefix_cons.mpr ⟨rfl, there⟩⟩

lemma completes_of_slot (h : Replaced slot q text out) (filled : q ≠ []) (opened : '\x7b' ∉ q)
    (closed : '\x7d' ∉ q) (inside : slot <:+: out) : Completes q text := by
  induction h with
  | nil => exact absurd (List.eq_nil_of_infix_nil inside) slot_ne_nil
  | found _ ih =>
    obtain ⟨before, after, split, there⟩ := ih (infix_of_infix_append opened inside)
    exact ⟨before, after, split, List.infix_append_of_infix_right there⟩
  | @kept c rest out here h ih =>
    rcases List.infix_cons_iff.mp inside with begins | later
    · rw [slot_eq_cons] at begins here
      obtain ⟨rfl, onward⟩ := List.cons_prefix_cons.mp begins
      have new : ¬ slotName ++ ['\x7d'] <+: rest := fun old =>
        here (List.cons_prefix_cons.mpr ⟨rfl, old⟩)
      obtain ⟨before, after, split, there⟩ :=
        exists_completed h filled closed (by decide) onward new
      exact ⟨before, after, split, (List.cons_prefix_cons.mpr ⟨rfl, there⟩).isInfix⟩
    · obtain ⟨before, after, split, there⟩ := ih later
      exact ⟨before, after, split, List.infix_cons there⟩

lemma slot_of_completes (h : Completes q text) : slot <:+: replace slot q text := by
  obtain ⟨before, after, split, front, back, rfl⟩ := h
  have left : '\x7d' ∉ '\x7b' :: before := by
    have : '\x7d' ∉ slotName := by decide
    simp_all
  have right : '\x7b' ∉ after ++ ['\x7d'] := by
    have : '\x7b' ∉ slotName := by decide
    simp_all
  have pieces : front ++ ('\x7b' :: before ++ slot ++ after ++ ['\x7d']) ++ back =
      (front ++ '\x7b' :: before) ++ (slot ++ (after ++ ['\x7d'] ++ back)) := by simp
  have ahead : replace slot q (front ++ '\x7b' :: before) =
      replace slot q front ++ '\x7b' :: before := by
    rw [slot_eq_concat]
    exact replace_append_right left q front
  have behind : replace slot q (after ++ ['\x7d'] ++ back) =
      after ++ ['\x7d'] ++ replace slot q back :=
    replace_append_left right q back
  rw [pieces, replace_append slot_ne_nil slot_borderless, ahead, behind]
  exact ⟨replace slot q front, replace slot q back, by simp [slot_eq_cons, split]⟩

lemma slot_infix_replace_iff (filled : q ≠ []) (opened : '\x7b' ∉ q) (closed : '\x7d' ∉ q) :
    slot <:+: replace slot q text ↔ Completes q text :=
  ⟨completes_of_slot (replaced_replace slot_ne_nil q text) filled opened closed, slot_of_completes⟩

lemma toList_targetUrl (filled : p ≠ "") (endpoint : String) :
    (targetUrl endpoint (some p)).toList =
      replace slot (Percent.encode p.toList) endpoint.toList := by
  have some : p.isEmpty = false := by simpa using filled
  rw [targetUrl]
  simp only [some, Bool.false_eq_true, if_false, within, String.toList_ofList]

/-- Whatever the number is, it takes the place of every slot, as one text of unreserved characters
and escapes that decodes to it, and the rest of the endpoint stays as it is. There is a slot in the
result just where the number completes one. -/
theorem slots_are_filled (filled : p ≠ "") : ∃ q : String,
    Percent.Escaped q.toList ∧ Percent.decode q = p ∧
    (∀ before after, targetUrl (before ++ String.ofList slot ++ after) (some p) =
      targetUrl before (some p) ++ q ++ targetUrl after (some p)) ∧
    (∀ endpoint, ¬ slot <:+: endpoint.toList → targetUrl endpoint (some p) = endpoint) ∧
    ∀ endpoint, slot <:+: (targetUrl endpoint (some p)).toList ↔
      Completes p.toList endpoint.toList := by
  have some : Percent.encode p.toList ≠ [] := Percent.encode_ne_nil (by simpa using filled)
  obtain ⟨opened, closed⟩ := brace_notMem_encode p.toList
  refine ⟨String.ofList (Percent.encode p.toList), ?_, ?_, fun before after => ?_,
    fun endpoint clear => ?_, fun endpoint => ?_⟩
  · rw [String.toList_ofList]
    exact Percent.escaped_encode p.toList
  · rw [Percent.decode_encode, String.ofList_toList]
  · rw [← String.toList_inj, toList_targetUrl filled]
    simp only [String.toList_append, String.toList_ofList, toList_targetUrl filled,
      List.append_assoc, replace_append slot_ne_nil slot_borderless]
  · rw [← String.toList_inj, toList_targetUrl filled, replace_eq_self slot_ne_nil clear]
  · rw [toList_targetUrl filled, slot_infix_replace_iff some opened closed]
    simp only [Completes, name_split_iff]

theorem plus_one_fills_two_slots :
    let endpoint := "https://crm.example/\x7bphone\x7d?like=\x7bphone\x7d"
    "+1 é" ≠ "" ∧ ∃ q : String, Percent.decode q = "+1 é" ∧
    targetUrl endpoint (some "+1 é") = "https://crm.example/" ++ q ++ ("?like=" ++ q) ∧
    ¬ slot <:+: (targetUrl endpoint (some "+1 é")).toList := by
  intro endpoint
  have filled : "+1 é" ≠ "" := by decide
  obtain ⟨q, -, decodes, fills, rests, slots⟩ := slots_are_filled filled
  have rest (text : String) (clear : occursIn slot text.toList = false) :
      targetUrl text (some "+1 é") = text :=
    rests text fun inside =>
      Bool.false_ne_true (clear.symm.trans <| occursIn_iff_infix.mpr inside)
  refine ⟨filled, q, decodes, ?_, fun inside => ?_⟩
  · have split : endpoint = "https://crm.example/" ++ String.ofList slot ++
        ("?like=" ++ String.ofList slot ++ "") := by decide
    rw [split, fills, fills, rest "https://crm.example/" (by decide), rest "?like=" (by decide),
      rest "" (by decide), String.append_empty]
  · obtain ⟨before, after, split, -⟩ := (slots endpoint).mp inside
    have foreign : '+' ∈ slotName := by simp [split]
    exact absurd foreign (by decide)

theorem number_completes_slot :
    targetUrl "\x7b\x7bphone\x7d\x7d" (some "phone") = "\x7bphone\x7d" ∧
    slot <:+: (targetUrl "\x7b\x7bphone\x7d\x7d" (some "phone")).toList := by
  have filled : targetUrl "\x7b\x7bphone\x7d\x7d" (some "phone") = "\x7bphone\x7d" := by
    decide +kernel
  rw [filled, ← occursIn_iff_infix]
  exact ⟨rfl, by decide⟩

end Dialogue.Lookup
