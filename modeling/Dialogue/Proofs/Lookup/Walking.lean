import Dialogue.Lookup.Path
import Mathlib.Data.List.TakeWhile

/-! Where a path into a value fails. Only a list can be in its way, and only for a segment of digit
signs that cannot be converted into a number. -/

namespace Dialogue.Lookup

open Text

variable {s : List Char} {path rest : List (List Char)} {v : Json}

def isMiswritten (s : List Char) : Bool :=
  allDigits s && (s.any (fun c => (decimalValue c).isNone) || digitLimit < s.length)

def Obstructed (path : List (List Char)) (v : Json) : Prop :=
  ∃ before s after items, path = before ++ s :: after ∧ follow before v = .ok (.list items) ∧
    isMiswritten s = true

lemma decimalFrom_eq_none (acc : Nat) (cs : List Char) :
    decimalFrom acc cs = none ↔ cs.any (fun c => (decimalValue c).isNone) = true := by
  induction cs generalizing acc with
  | nil => simp [decimalFrom]
  | cons c cs ih => cases value : decimalValue c <;> simp [decimalFrom, value, ih]

lemma index_error_iff (digits : allDigits s = true) :
    (∃ e, index s = .error e) ↔ isMiswritten s = true := by
  have shorter : (s.takeWhile fun c => (decimalValue c).isSome).length ≤ s.length :=
    (List.takeWhile_sublist _).length_le
  simp only [isMiswritten, digits, Bool.true_and, Bool.or_eq_true, decide_eq_true_eq]
  rw [← decimalFrom_eq_none 0]
  unfold index
  dsimp only
  split_ifs with long
  · exact iff_of_true ⟨_, rfl⟩ (.inr (by omega))
  · cases number : decimalFrom 0 s with
    | none => exact iff_of_true ⟨_, rfl⟩ (.inl rfl)
    | some n =>
      have decimal : ∀ c ∈ s, (decimalValue c).isSome = true := by
        have some := mt (decimalFrom_eq_none 0 s).mpr (by simp [number])
        simpa [Option.isSome_iff_ne_none] using some
      rw [List.takeWhile_eq_self_iff.mpr decimal] at long
      exact iff_of_false (fun ⟨_, h⟩ => nomatch h) (fun h => h.elim nofun long)

lemma member_error_iff :
    (∃ e, member s v = .error e) ↔ (∃ items, v = .list items) ∧ isMiswritten s = true := by
  cases v with
  | list items =>
    cases digits : allDigits s with
    | false => simp [member, isMiswritten, digits]
    | true =>
      rw [← index_error_iff digits, member, if_pos digits]
      cases index s <;> simp [Except.map]
  | null | bool | whole | real | text | object => simp [member]

lemma not_obstructed_nil : ¬ Obstructed [] v := by
  rintro ⟨before, _, _, _, split, -⟩
  simp at split

lemma obstructed_cons : Obstructed (s :: rest) v ↔
    ((∃ items, v = .list items) ∧ isMiswritten s = true) ∨
    ∃ next, member s v = .ok next ∧ next.isNull = false ∧ Obstructed rest next := by
  constructor
  · rintro ⟨before, t, after, items, split, reaches, miswritten⟩
    cases before with
    | nil =>
      obtain ⟨rfl, -⟩ := List.cons.inj split
      exact .inl ⟨⟨items, Except.ok.inj reaches⟩, miswritten⟩
    | cons _ before =>
      obtain ⟨rfl, rest⟩ := List.cons.inj split
      cases next : member s v with
      | error e => simp [follow, next, bind, Except.bind] at reaches
      | ok w =>
        cases null : w.isNull with
        | true => simp [follow, next, null, bind, Except.bind, pure, Except.pure] at reaches
        | false =>
          simp only [follow, next, null, bind, Except.bind] at reaches
          exact .inr ⟨w, rfl, null, before, t, after, items, rest, reaches, miswritten⟩
  · rintro (⟨⟨items, rfl⟩, miswritten⟩ | ⟨w, next, null, before, t, after, items, rfl, reaches, h⟩)
    · exact ⟨[], s, rest, items, rfl, rfl, miswritten⟩
    · exact ⟨s :: before, t, after, items, rfl,
        by simpa [follow, next, null, bind, Except.bind] using reaches, h⟩

lemma follow_error_iff : (∃ e, follow path v = .error e) ↔ Obstructed path v := by
  -- The first segment stops the path, or leads to a value that the rest is followed in.
  induction path generalizing v with
  | nil => exact iff_of_false (fun ⟨_, h⟩ => nomatch h) not_obstructed_nil
  | cons s rest ih =>
    rw [obstructed_cons, ← member_error_iff]
    cases next : member s v with
    | error e => simp [follow, next, bind, Except.bind]
    | ok w => cases null : w.isNull <;>
        simp [follow, next, null, bind, Except.bind, pure, Except.pure, ih]

/-! What a path leads to nests no deeper than the value that it starts in. -/

lemma nesting_le_of_member {w : Json} (h : member s v = .ok w) : w.nesting ≤ v.nesting := by
  cases v with
  | object fs =>
    obtain rfl := Except.ok.inj h
    cases found : Fields.get? fs (String.ofList s) with
    | none => exact Nat.zero_le _
    | some u =>
      obtain ⟨before, after, rfl, -⟩ := List.lookup_eq_some_iff.mp found
      exact (Json.nesting_le_of_mem_fields (List.mem_append_right _ List.mem_cons_self)).trans
        (Nat.le_succ _)
  | list items =>
    rw [member] at h
    split_ifs at h with digits
    · cases number : index s with
      | error e => simp [number, Except.map] at h
      | ok i =>
        rw [number] at h
        obtain rfl := Except.ok.inj h
        dsimp only
        cases found : items[i]? with
        | none => exact Nat.zero_le _
        | some u =>
          exact (Json.nesting_le_of_mem_items (List.mem_of_getElem? found)).trans (Nat.le_succ _)
    · obtain rfl := Except.ok.inj h
      exact Nat.zero_le _
  | null | bool | whole | real | text =>
    obtain rfl := Except.ok.inj h
    exact Nat.zero_le _

lemma nesting_le_of_follow {w : Json} (h : follow path v = .ok w) : w.nesting ≤ v.nesting := by
  induction path generalizing v with
  | nil => exact (Except.ok.inj h) ▸ Nat.le_refl _
  | cons s rest ih =>
    cases next : member s v with
    | error e => simp [follow, next, bind, Except.bind] at h
    | ok u =>
      cases null : u.isNull with
      | true =>
        simp only [follow, next, null, bind, Except.bind, if_true] at h
        obtain rfl := Except.ok.inj h
        exact Nat.zero_le _
      | false =>
        simp only [follow, next, null, bind, Except.bind, Bool.false_eq_true, if_false] at h
        exact (ih h).trans (nesting_le_of_member next)

end Dialogue.Lookup
