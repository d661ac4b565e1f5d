import Dialogue.Flow.Encode
import Dialogue.Proofs.Schema.Reading
import Mathlib.Data.List.Nodup

/-! Records as they are stored: the fields that are there, and the extras after them. Storing a record that
was read back changes nothing unless an extra is taken for a field that was left out, or is lost. -/

namespace Dialogue

open Schema

variable {v : Json} {fs gs : Fields}

namespace Json

mutual

theorem finite_finite : ∀ v : Json, v.finite.finite = v.finite
  | .null | .bool _ | .whole _ | .text _ => rfl
  | .real x => by
    rw [finite]
    split
    · next h => rw [finite, if_pos h]
    · rfl
  | .list items => congrArg Json.list (finiteItems_finiteItems items)
  | .object fs => congrArg Json.object (finiteFields_finiteFields fs)

theorem finiteItems_finiteItems : ∀ items, finiteItems (finiteItems items) = finiteItems items
  | [] => rfl
  | v :: rest => congrArg₂ List.cons (finite_finite v) (finiteItems_finiteItems rest)

theorem finiteFields_finiteFields : ∀ fs, finiteFields (finiteFields fs) = finiteFields fs
  | [] => rfl
  | (k, v) :: rest =>
    congrArg₂ List.cons (congrArg (Prod.mk k) (finite_finite v)) (finiteFields_finiteFields rest)

end

def IsKept (v : Json) : Prop := v.finite ≠ .null

lemma isKept_iff : v.IsKept ↔ v ≠ .null ∧ ∀ x, v = .real x → x.isFinite = true := by
  cases v <;> simp [IsKept, finite]

lemma isNull_eq_false_iff : v.isNull = false ↔ v ≠ .null := by
  cases v <;> simp [isNull]

lemma finiteFields_eq_map : finiteFields fs = fs.map fun e => (e.1, e.2.finite) := by
  induction fs with
  | nil => rfl
  | cons e rest ih => rw [finiteFields, ih, List.map_cons]

end Json

namespace Fields

lemma stored_eq_map : fs.stored = (fs.filter (! ·.2.isNull)).map fun e => (e.1, e.2.finite) :=
  Json.finiteFields_eq_map

lemma mem_keys_stored {key : String} (h : key ∈ fs.stored.keys) :
    ∃ e ∈ fs, e.1 = key ∧ e.2 ≠ .null := by
  rw [keys, stored_eq_map, List.map_map] at h
  obtain ⟨e, he, rfl⟩ := List.mem_map.mp h
  obtain ⟨he, there⟩ := List.mem_filter.mp he
  exact ⟨e, he, rfl, fun null => by simp [null, Json.isNull] at there⟩

lemma mem_keys_stored_of_mem {e : String × Json} (he : e ∈ fs) (there : e.2 ≠ .null) :
    e.1 ∈ fs.stored.keys := by
  rw [keys, stored_eq_map, List.map_map]
  refine List.mem_map.mpr ⟨e, List.mem_filter.mpr ⟨he, ?_⟩, rfl⟩
  simpa [Json.isNull_eq_false_iff] using there

def AreKept (fs : Fields) : Prop := ∀ e ∈ fs, e.2 ≠ .null → e.2.IsKept

lemma stored_stored_iff : fs.stored.stored = fs.stored ↔ fs.AreKept := by
  have again : fs.stored.stored =
      ((fs.filter (! ·.2.isNull)).filter (! ·.2.finite.isNull)).map fun e => (e.1, e.2.finite) := by
    rw [stored_eq_map, stored_eq_map, List.filter_map, List.map_map]
    refine List.map_congr_left fun e _ => ?_
    exact congrArg (Prod.mk e.1) (Json.finite_finite e.2)
  have kept : ((fs.filter (! ·.2.isNull)).filter (! ·.2.finite.isNull)) = fs.filter (! ·.2.isNull) ↔
      fs.AreKept := by
    rw [List.filter_eq_self]
    simp [Json.isNull_eq_false_iff, AreKept, Json.IsKept]
  rw [← kept, again, stored_eq_map]
  constructor
  · intro same
    have length := congrArg List.length same
    rw [List.length_map, List.length_map] at length
    exact List.filter_sublist.eq_of_length length
  · exact congrArg _

end Fields

abbrev Slots := List (Field × Option Json)

structure Proper (declared : List Field) : Prop where
  distinct : (declared.map (·.key)).Nodup
  apart : ∀ f ∈ declared, ∀ g ∈ declared, f.spelling = g.key → f.key = g.key

def Fresh (declared : List Field) (extras : Fields) : Prop :=
  ∀ e ∈ extras, ∀ f ∈ declared, e.1 ≠ f.key

lemma fresh_nil {declared : List Field} : Fresh declared [] := fun _ he => absurd he List.not_mem_nil

lemma Fresh.stored {declared : List Field} {extras : Fields} (fresh : Fresh declared extras) :
    Fresh declared extras.stored := by
  intro e he f hf
  obtain ⟨e', he', same, -⟩ := Fields.mem_keys_stored (List.mem_map_of_mem he)
  exact same ▸ fresh e' he' f hf

namespace Slots

variable {slots others : Slots} {extras : Fields} {s : Field × Option Json}

def fields (slots : Slots) : List Field := slots.map Prod.fst

def entries (slots : Slots) : Fields := Fields.present (slots.map fun s => (s.1.key, s.2))

def form (slots : Slots) (extras : Fields) : Fields := slots.entries ++ extras.stored

def unwritten (slots : Slots) : List String := (slots.filter (·.2.isNone)).map (·.1.spelling)

lemma mem_unwritten (hs : s ∈ slots) (absent : s.2 = none) : s.1.spelling ∈ slots.unwritten :=
  List.mem_map.mpr ⟨s, List.mem_filter.mpr ⟨hs, by rw [absent, Option.isNone_none]⟩, rfl⟩

lemma keys_entries : slots.entries.keys = slots.filterMap fun s => s.2.map fun _ => s.1.key := by
  rw [Fields.keys, entries, Fields.present, List.filterMap_map, List.map_filterMap]
  refine List.filterMap_congr fun s _ => ?_
  cases h : s.2 <;> simp [h]

lemma mem_keys_entries {key : String} :
    key ∈ slots.entries.keys ↔ ∃ s ∈ slots, s.2.isSome = true ∧ s.1.key = key := by
  rw [keys_entries, List.mem_filterMap]
  refine exists_congr fun s => and_congr_right fun _ => ?_
  cases s.2 <;> simp

lemma eq_of_key (proper : Proper slots.fields) {t : Field × Option Json} (hs : s ∈ slots)
    (ht : t ∈ slots) (same : s.1.key = t.1.key) : s = t := by
  have distinct := proper.distinct
  rw [fields, List.map_map] at distinct
  exact List.inj_on_of_nodup_map distinct hs ht same

lemma mem_entries {e : String × Json} :
    e ∈ slots.entries ↔ ∃ s ∈ slots, s.1.key = e.1 ∧ s.2 = some e.2 := by
  rw [entries, Fields.present, List.filterMap_map, List.mem_filterMap]
  refine exists_congr fun s => and_congr_right fun _ => ?_
  cases h : s.2 <;> simp [h, Prod.ext_iff]

lemma get?_entries (proper : Proper slots.fields) (hs : s ∈ slots) :
    slots.entries.get? s.1.key = s.2 := by
  cases found : slots.entries.get? s.1.key with
  | some v =>
    obtain ⟨before, after, split, -⟩ := List.lookup_eq_some_iff.mp found
    obtain ⟨t, ht, same, there⟩ := mem_entries.mp (split ▸ List.mem_append_right _ List.mem_cons_self)
    rw [← eq_of_key proper ht hs same, there]
  | none =>
    by_contra there
    obtain ⟨v, there⟩ := Option.ne_none_iff_exists'.mp (Ne.symm there)
    have isSome : s.2.isSome = true := by rw [there, Option.isSome_some]
    exact Fields.get?_eq_none_iff.mp found (mem_keys_entries.mpr ⟨s, hs, isSome, rfl⟩)

lemma notMem_keys_stored (fresh : Fresh slots.fields extras) (hs : s ∈ slots) :
    s.1.key ∉ extras.stored.keys := by
  intro there
  obtain ⟨e, he, same, -⟩ := Fields.mem_keys_stored there
  exact fresh e he s.1 (List.mem_map_of_mem hs) same

lemma written_of_plain (plain : ∀ s ∈ slots, s.1.spelling = s.1.key)
    (fresh : Fresh slots.fields extras) : ∀ key ∈ slots.unwritten, key ∉ extras.stored.keys := by
  intro key unwritten
  obtain ⟨s, hs, rfl⟩ := List.mem_map.mp unwritten
  have hs := (List.mem_filter.mp hs).1
  exact plain s hs ▸ notMem_keys_stored fresh hs

lemma get?_form (proper : Proper slots.fields) (fresh : Fresh slots.fields extras) (hs : s ∈ slots) :
    (slots.form extras).get? s.1.key = s.2 := by
  rw [form, Fields.get?_append, get?_entries proper hs,
    Fields.get?_eq_none_iff.mpr (notMem_keys_stored fresh hs), Option.or_none]

lemma find?_form (proper : Proper slots.fields) (fresh : Fresh slots.fields extras)
    (written : ∀ key ∈ slots.unwritten, key ∉ extras.stored.keys) (hs : s ∈ slots) :
    s.1.find? (slots.form extras) = s.2.map (s.1.key, ·) := by
  cases h : s.2 with
  | some v => exact Field.find?_of_key ((get?_form proper fresh hs).trans h)
  | none =>
    have absent : s.1.spelling ∉ slots.entries.keys := by
      intro there
      obtain ⟨t, ht, present, same⟩ := mem_keys_entries.mp there
      have same : s.1.key = t.1.key :=
        proper.apart _ (List.mem_map_of_mem hs) _ (List.mem_map_of_mem ht) same.symm
      rw [← eq_of_key proper hs ht same, h] at present
      cases present
    rw [Field.find?_of_spelling ((get?_form proper fresh hs).trans h), form, Fields.get?_append,
      Fields.get?_eq_none_iff.mpr absent,
      Fields.get?_eq_none_iff.mpr (written _ (mem_unwritten hs h))]
    rfl

lemma extras_form (proper : Proper slots.fields) (fresh : Fresh slots.fields extras)
    (written : ∀ key ∈ slots.unwritten, key ∉ extras.stored.keys) :
    Schema.extras slots.fields (slots.form extras) = extras.stored := by
  have used : (slots.fields.filterMap fun f => (f.find? (slots.form extras)).map (·.1)) =
      slots.entries.keys := by
    rw [fields, List.filterMap_map, keys_entries]
    refine List.filterMap_congr fun s hs => ?_
    rw [Function.comp_apply, find?_form proper fresh written hs, Option.map_map]
    rfl
  rw [Schema.extras, used, form]
  refine Fields.without_append_keys fun e he there => ?_
  obtain ⟨s, hs, -, same⟩ := mem_keys_entries.mp there
  exact notMem_keys_stored fresh hs (same ▸ List.mem_map_of_mem he)

lemma notMem_extras_form (proper : Proper slots.fields) (fresh : Fresh slots.fields extras)
    {key : String} (unwritten : key ∈ slots.unwritten) (stored : key ∈ extras.stored.keys) :
    key ∉ (Schema.extras slots.fields (slots.form extras)).keys := by
  obtain ⟨s, hs, rfl⟩ := List.mem_map.mp unwritten
  obtain ⟨hs, absent⟩ := List.mem_filter.mp hs
  rw [Option.isNone_iff_eq_none] at absent
  intro there
  obtain ⟨e, he, same⟩ := List.mem_map.mp there
  have listed : (slots.form extras).get? s.1.spelling ≠ none := by
    rw [Ne, Fields.get?_eq_none_iff, not_not, form, Fields.keys, List.map_append]
    exact List.mem_append_right _ stored
  obtain ⟨v, found⟩ := Option.ne_none_iff_exists'.mp listed
  refine (mem_extras.mp he).2 s.1 (List.mem_map_of_mem hs) (s.1.spelling, v) ?_ same
  rw [Field.find?_of_spelling ((get?_form proper fresh hs).trans absent), found, Option.map_some]

lemma filter_form (fresh : Fresh slots.fields extras) :
    (slots.form extras).filter (fun e => e.1 ∈ slots.fields.map (·.key)) = slots.entries := by
  have extra : extras.stored.filter (fun e => e.1 ∈ slots.fields.map (·.key)) = [] := by
    refine List.filter_eq_nil_iff.mpr fun e he there => ?_
    obtain ⟨f, hf, same⟩ := List.mem_map.mp (of_decide_eq_true there)
    obtain ⟨s, hs, rfl⟩ := List.mem_map.mp hf
    exact notMem_keys_stored fresh hs (same ▸ List.mem_map_of_mem he)
  rw [form, List.filter_append, extra, List.append_nil]
  refine List.filter_eq_self.mpr fun e he => decide_eq_true ?_
  obtain ⟨s, hs, same, -⟩ := mem_entries.mp he
  exact List.mem_map.mpr ⟨s.1, List.mem_map_of_mem hs, same⟩

lemma form_inj {more : Fields} (same : slots.fields = others.fields)
    (fresh : Fresh slots.fields extras) (freshToo : Fresh others.fields more) :
    slots.form extras = others.form more ↔
      slots.entries = others.entries ∧ extras.stored = more.stored := by
  constructor
  · intro equal
    have entries : slots.entries = others.entries := by
      rw [← filter_form fresh, ← filter_form freshToo, equal, same]
    refine ⟨entries, ?_⟩
    rw [form, form, entries] at equal
    exact List.append_cancel_left equal
  · rintro ⟨entries, stored⟩
    rw [form, form, entries, stored]

end Slots

end Dialogue
