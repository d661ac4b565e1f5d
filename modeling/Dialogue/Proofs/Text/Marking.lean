import Dialogue.Marker
import Dialogue.Proofs.Text.Trimming

/-! What is read back from the marker of an id, whatever follows it: the id without the blanks at its
ends, provided that it is not empty and does not close the marker early. -/

namespace Dialogue.Marker

open Text

variable {id after cs : List Char} {c : Char}

def Carried (id : List Char) : Prop := id ≠ [] ∧ ']' ∉ id ∧ strip id = id

instance : DecidablePred Carried := fun _ => inferInstanceAs (Decidable (_ ∧ _))

lemma takeWhile_unclosed (h : ']' ∉ id) :
    (id ++ ']' :: after).takeWhile (· != ']') = id := by
  rw [List.takeWhile_append_of_pos, List.takeWhile_cons_of_neg (by simp), List.append_nil]
  intro c hc
  simpa using ne_of_mem_of_not_mem hc h

lemma dropWhile_unclosed (h : ']' ∉ id) :
    (id ++ ']' :: after).dropWhile (· != ']') = ']' :: after := by
  rw [List.dropWhile_append_of_pos, List.dropWhile_cons_of_neg (by simp)]
  intro c hc
  simpa using ne_of_mem_of_not_mem hc h

lemma bracketed?_eq_some : bracketed? cs = some (id, after) ↔
    id ≠ [] ∧ ']' ∉ id ∧ cs = format id ++ after := by
  constructor
  · intro h
    obtain ⟨rest, lead, h⟩ := Option.bind_eq_some_iff.mp h
    dsimp only at h
    split_ifs at h with empty
    split at h
    · next closed =>
      obtain ⟨rfl, rfl⟩ := Prod.mk.inj (Option.some.inj h)
      have unclosed : ']' ∉ rest.takeWhile (· != ']') := by
        intro inside
        simpa using List.mem_takeWhile_imp inside
      have parts := List.takeWhile_append_dropWhile (p := (· != ']')) (l := rest)
      rw [closed] at parts
      refine ⟨by simpa using empty, unclosed, ?_⟩
      rw [afterLead?_eq_some.mp lead, format, ← parts]
      simp [takeWhile_unclosed unclosed]
    · cases h
  · rintro ⟨filled, unclosed, rfl⟩
    have lead : afterLead? opening (format id ++ after) = some (id ++ ']' :: ']' :: after) :=
      afterLead?_eq_some.mpr (by simp [format])
    have ids : id.isEmpty = false := by simpa using filled
    simp only [bracketed?, lead, takeWhile_unclosed unclosed, dropWhile_unclosed unclosed, ids,
      Option.bind_eq_bind, Option.bind_some, Bool.false_eq_true, if_false]

lemma toNat_of_bare (h : isBareChar c = true) : c.toNat < 123 := by
  simp only [isBareChar, Bool.or_eq_true, Bool.and_eq_true, decide_eq_true_eq] at h
  rcases h with (((⟨-, high⟩ | ⟨-, high⟩) | ⟨-, high⟩) | rfl) | rfl
  · exact Nat.lt_of_le_of_lt (m := 90) high (by decide)
  · exact Nat.lt_of_le_of_lt (m := 122) high (by decide)
  · exact Nat.lt_of_le_of_lt (m := 57) high (by decide)
  · decide
  · decide

lemma mark_of_bare (h : isBareChar c = true) : isBlank c = false ∧ c ≠ ']' := by
  have marks : ∀ n < 123, isBareChar (Char.ofNat n) = true →
      isBlank (Char.ofNat n) = false ∧ Char.ofNat n ≠ ']' := by
    decide +kernel
  rw [← Char.ofNat_toNat c] at h ⊢
  exact marks _ (toNat_of_bare (Char.ofNat_toNat c ▸ h)) h

lemma bare_of_mem (h : bare? cs = some (id, after)) (hc : c ∈ id) : isBareChar c = true := by
  obtain ⟨rest, -, h⟩ := Option.bind_eq_some_iff.mp h
  split_ifs at h
  obtain ⟨rfl, -⟩ := Prod.mk.inj (Option.some.inj h)
  exact List.mem_takeWhile_imp hc

lemma found_of_first {at? : List Char → Option (List Char × List Char)}
    (h : first? at? cs = some id) : ∃ before rest after, cs = before ++ rest ∧
      at? rest = some (id, after) := by
  induction cs with
  | nil => simp [first?] at h
  | cons c rest ih =>
    simp only [first?] at h
    split at h
    · next found after here =>
      obtain rfl := Option.some.inj h
      exact ⟨[], _, after, rfl, here⟩
    · obtain ⟨before, later, after, rfl, here⟩ := ih h
      exact ⟨c :: before, later, after, rfl, here⟩

lemma first?_of_found {at? : List Char → Option (List Char × List Char)}
    (filled : cs ≠ []) (h : at? cs = some (id, after)) : first? at? cs = some id := by
  obtain ⟨c, rest, rfl⟩ := List.exists_cons_of_ne_nil filled
  simp [first?, h]

lemma parse_format (filled : id ≠ []) (unclosed : ']' ∉ id) (after : List Char) :
    parse (format id ++ after) = some (strip id) := by
  have found : first? bracketed? (format id ++ after) = some id :=
    first?_of_found (by simp [format, opening]) (bracketed?_eq_some.mpr ⟨filled, unclosed, rfl⟩)
  simp [parse, found]

lemma trimmed_of_parse (h : parse cs = some id) : ']' ∉ id ∧ strip id = id := by
  unfold parse at h
  split at h
  · next inner found =>
    obtain rfl := Option.some.inj h
    obtain ⟨before, rest, after, -, here⟩ := found_of_first found
    obtain ⟨-, unclosed, -⟩ := bracketed?_eq_some.mp here
    exact ⟨fun inside => unclosed (mem_of_mem_strip inside), strip_strip _⟩
  · obtain ⟨before, rest, after, -, here⟩ := found_of_first h
    refine ⟨fun inside => (mark_of_bare (bare_of_mem here inside)).2 rfl, ?_⟩
    exact strip_of_marks fun c hc => (mark_of_bare (bare_of_mem here hc)).1

lemma parse_format_iff : (∀ after, parse (format id ++ after) = some id) ↔ Carried id := by
  constructor
  · intro read
    refine ⟨?_, trimmed_of_parse (read [])⟩
    rintro rfl
    exact absurd (read []) (by decide)
  · rintro ⟨filled, unclosed, trimmed⟩ after
    rw [parse_format filled unclosed, trimmed]

lemma parseText_formatText_iff {id : String} :
    (∀ s, parseText (formatText id ++ s) = some id) ↔ Carried id.toList := by
  rw [← parse_format_iff]
  have texts (s : String) : parseText (formatText id ++ s) = some id ↔
      parse (format id.toList ++ s.toList) = some id.toList := by
    rw [parseText, formatText, within, String.toList_append, String.toList_ofList,
      Option.map_eq_some_iff]
    constructor
    · rintro ⟨cs, read, rfl⟩
      simpa using read
    · intro read
      exact ⟨_, read, String.ofList_toList⟩
  simp only [texts]
  exact ⟨fun h after => by simpa using h (String.ofList after), fun h s => h s.toList⟩

end Dialogue.Marker
