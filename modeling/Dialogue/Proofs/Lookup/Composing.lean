import Dialogue.Lookup.Path
import Mathlib.Tactic.Common

/-! Paths compose at every dot, and each value that keys and indices lead to has the path that they
make up. -/

namespace Dialogue.Lookup

open Text

variable {v w : Json} {cs : List Char} {steps : List String} {n : Nat}

lemma segments_dot (p q : String) : segments (p ++ "." ++ q) = segments p ++ segments q := by
  have text : (p ++ "." ++ q).toList = p.toList ++ '.' :: q.toList := by simp
  rw [segments, text, pieces_append (by simp)]
  rfl

lemma segments_intercalate (filled : steps ≠ []) (plain : ∀ s ∈ steps, '.' ∉ s.toList) :
    segments (".".intercalate steps) = steps.map String.toList := by
  induction steps with
  | nil => exact absurd rfl filled
  | cons s rest ih =>
    have alone : segments s = [s.toList] := by
      refine pieces_of_none fun c hc => ?_
      simpa using ne_of_mem_of_not_mem hc (plain s (by simp))
    cases rest with
    | nil => simpa using alone
    | cons t rest =>
      rw [String.intercalate_cons_cons, segments_dot, alone,
        ih (List.cons_ne_nil t rest) fun x hx => plain x (List.mem_cons_of_mem s hx)]
      rfl

lemma follow_null (path : List (List Char)) : follow path .null = .ok .null := by
  cases path <;> rfl

lemma follow_step (h : member cs v = .ok w) : follow (cs :: path) v = follow path w := by
  cases null : w.isNull with
  | true =>
    cases w with
    | null => simp [follow, h, null, follow_null, bind, Except.bind, pure, Except.pure]
    | bool | whole | real | text | list | object => cases null
  | false => simp [follow, h, null, bind, Except.bind]

lemma follow_append (before after : List (List Char)) (v : Json) :
    follow (before ++ after) v = (follow before v).bind (follow after) := by
  induction before generalizing v with
  | nil => rfl
  | cons s rest ih =>
    cases next : member s v with
    | error e => simp [follow, next, bind, Except.bind]
    | ok w => rw [List.cons_append, follow_step next, follow_step next, ih]

/-! Indices -/

lemma decimalValue_of_isDigit {c : Char} (h : c.isDigit = true) :
    decimalValue c = some (c.toNat - '0'.toNat) := by
  have range : 48 ≤ c.toNat ∧ c.toNat ≤ 57 := Char.isDigit_iff_toNat.mp h
  have first : (0x30 ≤ c.toNat && c.toNat < 0x30 + 10) = true := by
    rw [Bool.and_eq_true, decide_eq_true_eq, decide_eq_true_eq]
    omega
  rw [decimalValue, zeros, List.find?_cons, first]
  rfl

lemma decimalFrom_of_isDigit {acc : Nat} (h : ∀ c ∈ cs, c.isDigit = true) :
    decimalFrom acc cs = some (Nat.ofDigitChars 10 cs acc) := by
  induction cs generalizing acc with
  | nil => rfl
  | cons c rest ih =>
    rw [decimalFrom, decimalValue_of_isDigit (h c (by simp)), Option.bind_eq_bind, Option.bind_some,
      ih fun d hd => h d (List.mem_cons_of_mem c hd), Nat.ofDigitChars_cons]

lemma isDigit_of_mem_repr {c : Char} (h : c ∈ n.repr.toList) : c.isDigit = true :=
  Nat.isDigit_of_mem_toDigits (by decide) (by decide) (Nat.toList_repr ▸ h)

lemma allDigits_repr (n : Nat) : allDigits n.repr.toList = true := by
  have digit (c : Char) (hc : c ∈ n.repr.toList) : Text.isDigit c = true := by
    rw [Text.isDigit, decimalValue_of_isDigit (isDigit_of_mem_repr hc), Option.isSome_some,
      Bool.true_or]
  have filled : n.repr.toList.isEmpty = false := by simp
  rw [allDigits, filled, List.all_eq_true.mpr digit]
  rfl

lemma index_repr (short : n.repr.length ≤ digitLimit) : index n.repr.toList = .ok n := by
  have length : n.repr.toList.length ≤ digitLimit := short
  have taken : ¬ digitLimit < (n.repr.toList.takeWhile fun c => (decimalValue c).isSome).length :=
    Nat.not_lt_of_le (Nat.le_trans (List.takeWhile_sublist _).length_le length)
  have value : decimalFrom 0 n.repr.toList = some n := by
    rw [decimalFrom_of_isDigit fun c hc => isDigit_of_mem_repr hc, Nat.toList_repr,
      Nat.ofDigitChars_ten_toDigits]
  simp only [index, if_neg taken, value]

/-! Steps -/

/-- The steps lead from one value to another. Each is the key of a field or the place of an item; a
place is written in decimal, with no more digits than are converted, which are more than the places
of any list in memory have. -/
inductive Leads : Json → List String → Json → Prop
  | here {v : Json} : Leads v [] v
  | key {fs : Fields} {k : String} {u w : Json} {rest : List String} :
      Fields.get? fs k = some u → '.' ∉ k.toList → Leads u rest w → Leads (.object fs) (k :: rest) w
  | place {items : List Json} {i : Nat} {u w : Json} {rest : List String} :
      items[i]? = some u → (toString i).length ≤ digitLimit → Leads u rest w →
      Leads (.list items) (toString i :: rest) w

lemma Leads.plain (h : Leads v steps w) : ∀ s ∈ steps, '.' ∉ s.toList := by
  induction h with
  | here => simp
  | key _ plain _ ih => exact List.forall_mem_cons.mpr ⟨plain, ih⟩
  | place _ _ _ ih =>
    refine List.forall_mem_cons.mpr ⟨fun dot => ?_, ih⟩
    exact absurd (isDigit_of_mem_repr dot) (by decide)

lemma Leads.follow (h : Leads v steps w) : follow (steps.map String.toList) v = .ok w := by
  induction h with
  | here => rfl
  | @key fs k u _ _ found _ _ ih =>
    have next : member k.toList (.object fs) = .ok u := by
      rw [member, String.ofList_toList, found, Option.getD_some]
    rw [List.map_cons, follow_step next, ih]
  | @place items i u _ _ found short _ ih =>
    have next : member (toString i).toList (.list items) = .ok u := by
      rw [Nat.toString_eq_repr, member, if_pos (allDigits_repr i), index_repr short, Except.map,
        found, Option.getD_some]
    rw [List.map_cons, follow_step next, ih]

/-- A path with a dot in it is followed up to the dot and then on from there, and fails as these two
do. Wherever steps lead, the path that they make up leads. -/
theorem paths_compose_and_reach :
    (∀ v p q, valueAt v (p ++ "." ++ q) = valueAt v p >>= fun w => valueAt w q) ∧
    ∀ v steps w, steps ≠ [] → Leads v steps w → valueAt v (".".intercalate steps) = .ok w := by
  refine ⟨fun v p q => ?_, fun v steps w filled leads => ?_⟩
  · rw [valueAt, segments_dot, follow_append]
    rfl
  · rw [valueAt, segments_intercalate filled leads.plain, leads.follow]

def shelf : Json :=
  .object [("1", .list [.null, .object [("", .object [("1", .text "A-1")])]])]

theorem one_one_blank_one_leads :
    Leads shelf ["1", "1", "", "1"] (.text "A-1") ∧ valueAt shelf "1.1..1" = .ok (.text "A-1") := by
  have second : Leads (.list [.null, .object [("", .object [("1", .text "A-1")])]])
      ["1", "", "1"] (.text "A-1") :=
    .place (i := 1) rfl (by decide) (.key rfl (by decide) (.key rfl (by decide) .here))
  have leads : Leads shelf ["1", "1", "", "1"] (.text "A-1") := .key rfl (by decide) second
  exact ⟨leads, paths_compose_and_reach.2 _ _ _ (List.cons_ne_nil _ _) leads⟩

end Dialogue.Lookup
