import Dialogue.Proofs.Text.Fencing
import Dialogue.Proofs.Text.Marking
import Dialogue.Proofs.Text.Replacing

/-! Markers are taken out of a text by a scan from the left: each goes together with the blanks after
it, and every other character stays. The marker of an id in front of a text leaves no trace there, and
behind a text without an opening it is the first one that is read. -/

namespace Dialogue.Marker

open Text

variable {at? : List Char → Option (List Char × List Char)} {id after rest front margin cs : List Char}
  {c : Char}

def Advances (at? : List Char → Option (List Char × List Char)) : Prop :=
  ∀ ⦃cs id after⦄, at? cs = some (id, after) → ∃ m, m ≠ [] ∧ cs = m ++ after

lemma format_ne_nil (id : List Char) : format id ≠ [] := List.cons_ne_nil _ _

lemma advances_bracketed : Advances bracketed? := by
  intro cs id after h
  obtain ⟨-, -, rfl⟩ := bracketed?_eq_some.mp h
  exact ⟨format id, format_ne_nil id, rfl⟩

lemma bare?_eq_some : bare? cs = some (id, after) ↔ id ≠ [] ∧ (∀ c ∈ id, isBareChar c = true) ∧
    (∀ c ∈ after.head?, isBareChar c = false) ∧ cs = word ++ id ++ after := by
  constructor
  · intro h
    obtain ⟨rest, lead, h⟩ := Option.bind_eq_some_iff.mp h
    split_ifs at h with empty
    obtain ⟨rfl, rfl⟩ := Prod.mk.inj (Option.some.inj h)
    refine ⟨by simpa using empty, fun c => List.mem_takeWhile_imp, fun c hc => ?_, ?_⟩
    · have first := List.head?_dropWhile_not isBareChar rest
      rwa [Option.mem_def.mp hc] at first
    · rw [afterLead?_eq_some.mp lead, List.append_assoc, List.takeWhile_append_dropWhile]
  · rintro ⟨filled, bare, ends, rfl⟩
    have lead : afterLead? word (word ++ id ++ after) = some (id ++ after) := by
      rw [List.append_assoc]
      exact afterLead?_append word _
    have ended : after.takeWhile isBareChar = [] ∧ after.dropWhile isBareChar = after := by
      cases after with
      | nil => exact ⟨rfl, rfl⟩
      | cons c after =>
        have other : ¬ isBareChar c = true := by simp [ends c rfl]
        exact ⟨List.takeWhile_cons_of_neg other, List.dropWhile_cons_of_neg other⟩
    have ids : (id ++ after).takeWhile isBareChar = id := by
      rw [List.takeWhile_append_of_pos bare, ended.1, List.append_nil]
    have left : (id ++ after).dropWhile isBareChar = after := by
      rw [List.dropWhile_append_of_pos bare, ended.2]
    have some : id.isEmpty = false := by simpa using filled
    simp only [bare?, lead, Option.bind_eq_bind, Option.bind_some, ids, left, some,
      Bool.false_eq_true, if_false]

lemma advances_bare : Advances bare? := by
  intro cs id after h
  obtain ⟨-, -, -, rfl⟩ := bare?_eq_some.mp h
  exact ⟨word ++ id, List.cons_ne_nil _ _, rfl⟩

lemma stripLeft_suffix (adv : Advances at?) (h : at? (c :: rest) = some (id, after)) :
    stripLeft after <:+ rest := by
  obtain ⟨m, filled, split⟩ := adv h
  obtain ⟨d, m, rfl⟩ := List.exists_cons_of_ne_nil filled
  obtain ⟨-, rfl⟩ := List.cons.inj split
  exact (List.dropWhile_suffix isBlank).trans (List.suffix_append m after)

lemma eraseFrom_drop (n : ℕ) (cs : List Char) :
    eraseFrom at? n cs = eraseFrom at? 0 (cs.drop n) := by
  induction n generalizing cs with
  | zero => rfl
  | succ n ih =>
    cases cs with
    | nil => rfl
    | cons c rest => exact ih rest

lemma eraseFrom_found (adv : Advances at?) (h : at? cs = some (id, after)) :
    eraseFrom at? 0 cs = eraseFrom at? 0 (stripLeft after) := by
  cases cs with
  | nil =>
    obtain ⟨m, filled, split⟩ := adv h
    exact absurd (List.append_eq_nil_iff.mp split.symm).1 filled
  | cons c rest =>
    rw [eraseFrom, h]
    dsimp only
    rw [eraseFrom_drop, ← List.suffix_iff_eq_drop.mp (stripLeft_suffix adv h)]

lemma eraseFrom_kept (h : at? (c :: rest) = none) :
    eraseFrom at? 0 (c :: rest) = c :: eraseFrom at? 0 rest := by
  rw [eraseFrom, h]

lemma eraseFrom_margin (blanks : ∀ c rest, isBlank c = true → at? (c :: rest) = none)
    (h : Margin margin) (cs : List Char) :
    eraseFrom at? 0 (margin ++ cs) = margin ++ eraseFrom at? 0 cs := by
  induction margin with
  | nil => rfl
  | cons c margin ih =>
    rw [List.cons_append, eraseFrom_kept (blanks c _ (h c List.mem_cons_self)),
      ih fun d hd => h d (List.mem_cons_of_mem c hd), List.cons_append]

lemma bracketed?_of_head (h : c ≠ '[') : bracketed? (c :: rest) = none := by
  rw [Option.eq_none_iff_forall_ne_some]
  rintro ⟨id, after⟩ found
  obtain ⟨-, -, split⟩ := bracketed?_eq_some.mp found
  exact h (List.cons.inj split).1

lemma bare?_of_head (h : c ≠ 'N') : bare? (c :: rest) = none := by
  rw [Option.eq_none_iff_forall_ne_some]
  rintro ⟨id, after⟩ found
  obtain ⟨-, -, -, split⟩ := bare?_eq_some.mp found
  exact h (List.cons.inj split).1

lemma erase_margin (h : Margin margin) (cs : List Char) : erase (margin ++ cs) = erase cs := by
  have apart (c d : Char) (hc : isBlank c = true) (hd : isBlank d = false) : c ≠ d :=
    fun same => Bool.false_ne_true (hd.symm.trans (same ▸ hc))
  have first : eraseFrom bracketed? 0 (margin ++ cs) = margin ++ eraseFrom bracketed? 0 cs :=
    eraseFrom_margin (fun c _ hc => bracketed?_of_head (apart c '[' hc (by decide))) h cs
  have second (cs : List Char) : eraseFrom bare? 0 (margin ++ cs) = margin ++ eraseFrom bare? 0 cs :=
    eraseFrom_margin (fun c _ hc => bare?_of_head (apart c 'N' hc (by decide))) h cs
  have around := strip_margins h margin_nil (eraseFrom bare? 0 (eraseFrom bracketed? 0 cs))
  rw [List.append_nil] at around
  rw [erase, first, second, around, erase]

lemma erase_format (filled : id ≠ []) (unclosed : ']' ∉ id) (cs : List Char) :
    erase (format id ++ cs) = erase cs := by
  have found := eraseFrom_found advances_bracketed
    (bracketed?_eq_some.mpr ⟨filled, unclosed, rfl⟩ : bracketed? (format id ++ cs) = some (id, cs))
  have margin : Margin (cs.takeWhile isBlank) := fun c => List.mem_takeWhile_imp
  calc erase (format id ++ cs) = erase (stripLeft cs) := by rw [erase, found, erase]
    _ = erase (cs.takeWhile isBlank ++ stripLeft cs) := (erase_margin margin _).symm
    _ = erase cs := by rw [stripLeft, List.takeWhile_append_dropWhile]

lemma eraseText_formatText {id : String} (filled : id.toList ≠ []) (unclosed : ']' ∉ id.toList)
    (t : String) : eraseText (formatText id ++ t) = eraseText t := by
  rw [eraseText, formatText, within, within, String.toList_append, String.toList_ofList,
    erase_format filled unclosed, eraseText, within]

lemma opening_borderless : Borderless opening := by
  unfold Borderless
  decide

lemma parse_behind (filled : id ≠ []) (unclosed : ']' ∉ id) (clear : ¬ opening <:+: front)
    (after : List Char) : parse (front ++ format id ++ after) = some (strip id) := by
  have first : first? bracketed? (front ++ format id ++ after) = some id := by
    induction front with
    | nil =>
      exact first?_of_found (by simp [format_ne_nil])
        (bracketed?_eq_some.mpr ⟨filled, unclosed, rfl⟩)
    | cons c front ih =>
      have unmarked : bracketed? (c :: front ++ format id ++ after) = none := by
        rw [Option.eq_none_iff_forall_ne_some]
        rintro ⟨id', after'⟩ found
        obtain ⟨-, -, split⟩ := bracketed?_eq_some.mp found
        have begins : opening <+: c :: front ++ (opening ++ (id ++ [']', ']'] ++ after)) :=
          ⟨id' ++ [']', ']'] ++ after', by simpa [format] using split.symm⟩
        exact clear (opening_borderless.ahead (List.cons_ne_nil c front) begins).isInfix
      simp only [List.cons_append] at unmarked ⊢
      rw [first?, unmarked]
      exact ih fun inside => clear (List.infix_cons inside)
  rw [parse, first]

lemma parseText_behind {id : String} (carried : Carried id.toList) {p : String}
    (clear : ¬ opening <:+: p.toList) (t : String) :
    parseText (p ++ formatText id ++ t) = some id := by
  obtain ⟨filled, unclosed, trimmed⟩ := carried
  rw [parseText, formatText, within, String.toList_append, String.toList_append,
    String.toList_ofList, parse_behind filled unclosed clear, trimmed, Option.map_some,
    String.ofList_toList]

/-- A marker is read back as its id, whatever follows it, just if it carries the id. It is taken out
of the text in front of which it stands without a trace, and read behind every text without an
opening. -/
theorem marker_round_trips (id : String) :
    ((∀ t, parseText (formatText id ++ t) = some id) ↔ Carried id.toList) ∧
    (id.toList ≠ [] → ']' ∉ id.toList → ∀ t, eraseText (formatText id ++ t) = eraseText t) ∧
    (Carried id.toList → ∀ p t, ¬ opening <:+: p.toList →
      parseText (p ++ formatText id ++ t) = some id) :=
  ⟨parseText_formatText_iff, eraseText_formatText, fun carried _ t clear =>
    parseText_behind carried clear t⟩

theorem marker_of_opening_round_trips : Carried "[[NODE:a".toList ∧
    ¬ opening <:+: "Say [NODE:b [[NODE".toList ∧
    (∀ t, parseText ("Say [NODE:b [[NODE" ++ formatText "[[NODE:a" ++ t) = some "[[NODE:a") ∧
    ∀ t, eraseText (formatText "[[NODE:a" ++ t) = eraseText t := by
  have carried : Carried "[[NODE:a".toList := by decide
  have clear : ¬ opening <:+: "Say [NODE:b [[NODE".toList := by
    rw [← occursIn_iff_infix]
    decide
  obtain ⟨-, erases, reads⟩ := marker_round_trips "[[NODE:a"
  exact ⟨carried, clear, fun t => reads carried _ t clear, erases carried.1 carried.2.1⟩

end Dialogue.Marker
