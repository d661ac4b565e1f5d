import Dialogue.Schema.Record
import Mathlib.Data.List.Basic
import Mathlib.Tactic.Common

/-! What a record is read from: each field from where it is found, and the extras from the fields that
are left. -/

namespace Dialogue

variable {fs gs : Fields} {key : String} {v : Json}

namespace Fields

def keys (fs : Fields) : List String := fs.map Prod.fst

lemma get?_eq_none_iff : fs.get? key = none ↔ key ∉ fs.keys := by
  rw [get?, List.lookup_eq_none_iff, keys, List.mem_map]
  constructor
  · rintro h ⟨e, he, rfl⟩
    simpa using h e he
  · intro h e he
    simpa using fun same => h ⟨e, he, same.symm⟩

lemma get?_append : (fs ++ gs : Fields).get? key = (fs.get? key).or (gs.get? key) :=
  List.lookup_append

lemma without_append_keys (apart : ∀ e ∈ gs, e.1 ∉ fs.keys) :
    (fs ++ gs : Fields).without fs.keys = gs := by
  have gone : fs.filter (fun e => !fs.keys.contains e.1) = [] := by
    refine List.filter_eq_nil_iff.mpr fun e he => ?_
    simpa [keys] using ⟨e.2, he⟩
  rw [without, List.filter_append, gone, List.nil_append]
  exact List.filter_eq_self.mpr fun e he => by simpa using apart e he

end Fields

namespace Schema

variable {α β : Type} {declared : List Field} {f : Field} {d : Decoder α} {a : α}

lemma map_eq_ok {g : α → β} {c : Checked α} {b : β} :
    g <$> c = .ok b ↔ ∃ a, c = .ok a ∧ g a = b := by
  change Checked.map g c = _ ↔ _
  cases c <;> simp [Checked.map]

lemma seq_eq_ok {g : Checked (α → β)} {c : Checked α} {b : β} :
    g <*> c = .ok b ↔ ∃ h a, g = .ok h ∧ c = .ok a ∧ h a = b :=
  Checked.apply_eq_ok

lemma all_eq_ok {cs : List (Checked α)} {as : List α} :
    Checked.all cs = .ok as ↔ cs = as.map .ok := by
  induction cs generalizing as with
  | nil => cases as <;> simp [Checked.all]
  | cons c rest ih =>
    rw [Checked.all, Checked.apply_eq_ok]
    constructor
    · rintro ⟨g, tail, head, read, rfl⟩
      obtain ⟨a, rfl, rfl⟩ := map_eq_ok.mp head
      rw [ih.mp read, List.map_cons]
    · intro same
      cases as with
      | nil => cases same
      | cons a tail =>
        obtain ⟨rfl, tailSame⟩ := List.cons.inj same
        exact ⟨_, tail, rfl, ih.mpr tailSame, rfl⟩

lemma items_eq_ok {vs : List Json} {as : List α} :
    items d (.list vs) = .ok as ↔ vs.map d = as.map .ok := by
  have indexed (k : Nat) :
      (vs.zipIdx k).map (fun p => (d p.1).under (.index p.2)) = as.map .ok ↔
        vs.map d = as.map .ok := by
    induction vs generalizing as k with
    | nil => rfl
    | cons v rest ih =>
      cases as with
      | nil => simp
      | cons a tail =>
        simp only [List.zipIdx_cons, List.map_cons, List.cons.injEq, Checked.under_eq_ok]
        rw [ih]
  rw [items, all_eq_ok]
  exact indexed 0

lemma items_map {encode : β → Json} {g : β → α} (reads : ∀ b, d (encode b) = .ok (g b))
    (bs : List β) : items d (.list (bs.map encode)) = .ok (bs.map g) := by
  rw [items_eq_ok, List.map_map, List.map_map]
  exact List.map_congr_left fun b _ => reads b

/-! Where a field is found. -/

lemma Field.find?_of_key (h : fs.get? f.key = some v) : f.find? fs = some (f.key, v) := by
  simp [Field.find?, h]

lemma Field.find?_of_spelling (h : fs.get? f.key = none) :
    f.find? fs = (fs.get? f.spelling).map (f.spelling, ·) := by
  simp [Field.find?, h]

lemma optional_of_find? {default : α} (found : f.find? fs = some (key, v)) (reads : d v = .ok a) :
    optional f default d fs = .ok a := by
  simp only [optional, found, Checked.under_eq_ok, reads]

lemma optional_of_absent {default : α} (absent : f.find? fs = none) :
    optional f default d fs = .ok default := by
  simp only [optional, absent]

lemma required_of_find? (found : f.find? fs = some (key, v)) (reads : d v = .ok a) :
    required f d fs = .ok a := by
  simp only [required, found, Checked.under_eq_ok, reads]

lemma nullable_eq_some (reads : d v = .ok a) (there : v ≠ .null) :
    nullable d v = .ok (some a) := by
  cases v with
  | null => exact absurd rfl there
  | _ => exact congrArg (Checked.map some) reads

lemma optional_nullable {encode : β → Json} {g : β → α} {b? : Option β}
    (found : f.find? fs = (b?.map encode).map (f.key, ·))
    (reads : ∀ b, d (encode b) = .ok (g b)) (there : ∀ b, encode b ≠ .null) :
    optional f none (nullable d) fs = .ok (b?.map g) := by
  cases b? with
  | none => exact optional_of_absent found
  | some b => exact optional_of_find? found (nullable_eq_some (reads b) (there b))

lemma optional_text {t? : Option String} (found : f.find? fs = (t?.map Json.text).map (f.key, ·)) :
    optional f none (nullable text) fs = .ok t? := by
  have read : optional f none (nullable text) fs = .ok (t?.map id) :=
    optional_nullable found (fun _ => rfl) nofun
  rwa [Option.map_id_fun, id_def] at read

/-! What a value was read from. -/

lemma of_optional_eq_ok {default : α} (read : optional f default d fs = .ok a) :
    a = default ∨ ∃ v, d v = .ok a := by
  rw [optional] at read
  split at read
  · exact .inr ⟨_, Checked.under_eq_ok.mp read⟩
  · exact .inl (Checked.ok.inj read).symm

lemma of_optional_items_eq_ok {as : List α} (read : optional f [] (items d) fs = .ok as)
    (ha : a ∈ as) : ∃ v, d v = .ok a := by
  rcases of_optional_eq_ok read with rfl | ⟨v, read⟩
  · cases ha
  · cases v with
    | list vs =>
      have there : Checked.ok a ∈ vs.map d := items_eq_ok.mp read ▸ List.mem_map_of_mem ha
      obtain ⟨v, -, read⟩ := List.mem_map.mp there
      exact ⟨v, read⟩
    | _ => cases read

lemma of_tagged_eq_ok {known : List (String × (Fields → Checked α))} {showTag : Json → String}
    (read : tagged known showTag fs = .ok a) : ∃ form ∈ known, form.2 fs = .ok a := by
  rw [tagged] at read
  split at read
  · cases read
  · split at read
    · next chosen =>
      obtain ⟨s, -, chosen⟩ := Option.bind_eq_some_iff.mp chosen
      obtain ⟨form, chosen, same⟩ := Option.map_eq_some_iff.mp chosen
      obtain ⟨before, after, split, -⟩ := List.lookup_eq_some_iff.mp chosen
      obtain ⟨rfl, rfl⟩ := Prod.mk.inj same
      exact ⟨(s, form), split ▸ List.mem_append_right _ List.mem_cons_self,
        Checked.under_eq_ok.mp read⟩
    · cases read

/-! The extras of a record. -/

lemma mem_extras {e : String × Json} : e ∈ extras declared fs ↔
    e ∈ fs ∧ ∀ f ∈ declared, ∀ used, f.find? fs = some used → e.1 ≠ used.1 := by
  rw [extras, Fields.without, List.mem_filter]
  refine and_congr_right fun _ => ?_
  simp only [Bool.not_eq_eq_eq_not, Bool.not_true, List.contains_eq_mem, decide_eq_false_iff_not,
    List.mem_filterMap, Option.map_eq_some_iff, not_exists, not_and]
  exact ⟨fun unused f hf used found same => unused f hf used found same.symm,
    fun unused f hf used found same => unused f hf used found same.symm⟩

lemma key_ne_of_mem_extras {e : String × Json} (he : e ∈ extras declared fs) (hf : f ∈ declared) :
    e.1 ≠ f.key := by
  obtain ⟨there, unused⟩ := mem_extras.mp he
  intro same
  obtain ⟨v, found⟩ : ∃ v, fs.get? f.key = some v := by
    refine Option.ne_none_iff_exists'.mp fun absent => ?_
    exact Fields.get?_eq_none_iff.mp absent (same ▸ List.mem_map_of_mem there)
  exact unused f hf _ (Field.find?_of_key found) same

end Schema

end Dialogue
