import Dialogue.Proofs.Text.Erasing

/-! The markers that people see. Each of the two scans takes out all that it finds, but does not look
again at what it joins: a marker is left exactly where another one was taken out of the middle of its
word or of its brackets. -/

namespace Dialogue.Marker

open Text

variable {at? : List Char → Option (List Char × List Char)}
  {id after rest front back m p q cs : List Char} {c : Char}

def cutsFrom (at? : List Char → Option (List Char × List Char)) :
    ℕ → List Char → List (List Char × List Char)
  | _, [] => []
  | skip + 1, _ :: rest => cutsFrom at? skip rest
  | 0, c :: rest =>
    match at? (c :: rest) with
    | some (_, after) =>
      ([], stripLeft after) :: cutsFrom at? (rest.length - (stripLeft after).length) rest
    | none => (cutsFrom at? 0 rest).map fun cut => (c :: cut.1, cut.2)

lemma cutsFrom_drop (n : ℕ) (cs : List Char) : cutsFrom at? n cs = cutsFrom at? 0 (cs.drop n) := by
  induction n generalizing cs with
  | zero => rfl
  | succ n ih =>
    cases cs with
    | nil => rfl
    | cons c rest => exact ih rest

lemma at?_nil (adv : Advances at?) : at? [] = none := by
  rw [Option.eq_none_iff_forall_ne_some]
  rintro ⟨id, after⟩ found
  obtain ⟨m, filled, split⟩ := adv found
  exact filled (List.append_eq_nil_iff.mp split.symm).1

lemma cutsFrom_found (adv : Advances at?) (h : at? cs = some (id, after)) :
    cutsFrom at? 0 cs = ([], stripLeft after) :: cutsFrom at? 0 (stripLeft after) := by
  cases cs with
  | nil => simp [at?_nil adv] at h
  | cons c rest =>
    rw [cutsFrom, h]
    dsimp only
    rw [cutsFrom_drop, ← List.suffix_iff_eq_drop.mp (stripLeft_suffix adv h)]

lemma mem_cuts_kept (h : at? (c :: rest) = none) :
    (front, back) ∈ cutsFrom at? 0 (c :: rest) ↔
      ∃ f, front = c :: f ∧ (f, back) ∈ cutsFrom at? 0 rest := by
  rw [cutsFrom, h]
  simp only [List.mem_map, Prod.mk.injEq, Prod.exists]
  constructor
  · rintro ⟨f, b, hf, rfl, rfl⟩
    exact ⟨f, rfl, hf⟩
  · rintro ⟨f, rfl, hf⟩
    exact ⟨f, back, hf, rfl, rfl⟩

lemma scan_induction {motive : List Char → Prop} (adv : Advances at?) (nil : motive [])
    (found : ∀ cs id after, at? cs = some (id, after) → motive (stripLeft after) → motive cs)
    (kept : ∀ c rest, at? (c :: rest) = none → motive rest → motive (c :: rest))
    (cs : List Char) : motive cs := by
  induction size : cs.length using Nat.strong_induction_on generalizing cs with
  | h n ih =>
    cases cs with
    | nil => exact nil
    | cons c rest =>
      cases here : at? (c :: rest) with
      | none => exact kept c rest here (ih _ (by simp [← size]) rest rfl)
      | some found? =>
        refine found _ found?.1 found?.2 here (ih _ ?_ _ rfl)
        rw [← size]
        exact Nat.lt_succ_of_le (stripLeft_suffix adv here).length_le

lemma eraseFrom_of_cut (adv : Advances at?) (h : (front, back) ∈ cutsFrom at? 0 cs) :
    eraseFrom at? 0 cs = front ++ eraseFrom at? 0 back := by
  induction cs using scan_induction adv generalizing front with
  | nil => cases h
  | found cs id after here ih =>
    rw [eraseFrom_found adv here]
    rw [cutsFrom_found adv here] at h
    rcases List.mem_cons.mp h with first | later
    · obtain ⟨rfl, rfl⟩ := Prod.mk.inj first
      rfl
    · exact ih later
  | kept c rest here ih =>
    obtain ⟨f, rfl, hf⟩ := (mem_cuts_kept here).mp h
    rw [eraseFrom_kept here, ih hf, List.cons_append]

lemma exists_first_cut (adv : Advances at?) (h : (front, back) ∈ cutsFrom at? 0 cs) :
    ∃ before rest id after, cs = before ++ rest ∧ at? rest = some (id, after) ∧
      before <+: front := by
  induction cs using scan_induction adv generalizing front with
  | nil => cases h
  | found cs id after here ih => exact ⟨[], cs, id, after, rfl, here, List.nil_prefix⟩
  | kept c rest here ih =>
    obtain ⟨f, rfl, hf⟩ := (mem_cuts_kept here).mp h
    obtain ⟨before, later, id, after, rfl, found, kept⟩ := ih hf
    exact ⟨c :: before, later, id, after, rfl, found, List.cons_prefix_cons.mpr ⟨rfl, kept⟩⟩

lemma prefix_cases (adv : Advances at?) (h : m <+: eraseFrom at? 0 cs) : m <+: cs ∨
    ∃ p q back, m = p ++ q ∧ q ≠ [] ∧ (p, back) ∈ cutsFrom at? 0 cs ∧
      q <+: eraseFrom at? 0 back := by
  induction cs using scan_induction adv generalizing m with
  | nil => exact .inl h
  | found cs id after here ih =>
    rw [eraseFrom_found adv here] at h
    by_cases filled : m = []
    · exact .inl (filled ▸ List.nil_prefix)
    · exact .inr ⟨[], m, stripLeft after, rfl, filled, by simp [cutsFrom_found adv here], h⟩
  | kept c rest here ih =>
    rw [eraseFrom_kept here] at h
    rcases List.prefix_cons_iff.mp h with rfl | ⟨m, rfl, more⟩
    · exact .inl List.nil_prefix
    · rcases ih more with stood | ⟨p, q, back, rfl, filled, cut, onward⟩
      · exact .inl (List.cons_prefix_cons.mpr ⟨rfl, stood⟩)
      · exact .inr ⟨c :: p, q, back, rfl, filled, (mem_cuts_kept here).mpr ⟨p, rfl, cut⟩, onward⟩

lemma eraseFrom_sublist (n : ℕ) (cs : List Char) : (eraseFrom at? n cs).Sublist cs := by
  induction cs generalizing n with
  | nil => cases n <;> exact List.Sublist.refl []
  | cons c rest ih =>
    cases n with
    | succ n => exact (ih n).cons c
    | zero =>
      rw [eraseFrom]
      split
      · exact (ih _).cons c
      · exact (ih 0).cons_cons c

lemma eraseFrom_eq_self_iff (adv : Advances at?) :
    eraseFrom at? 0 cs = cs ↔ ∀ d, d <:+ cs → at? d = none := by
  induction cs using scan_induction adv with
  | nil =>
    refine iff_of_true rfl fun d suffix => ?_
    rw [List.suffix_nil.mp suffix, at?_nil adv]
  | found cs id after here _ =>
    refine iff_of_false (fun same => ?_) fun clear => ?_
    · obtain ⟨m, filled, split⟩ := adv here
      have shorter : (eraseFrom at? 0 (stripLeft after)).length ≤ after.length :=
        (eraseFrom_sublist 0 _).length_le.trans (List.dropWhile_suffix _).length_le
      have some : 0 < m.length := List.length_pos_of_ne_nil filled
      rw [← eraseFrom_found adv here, same, split, List.length_append] at shorter
      omega
    · rw [clear cs List.suffix_rfl] at here
      cases here
  | kept c rest here ih =>
    rw [eraseFrom_kept here, List.cons_inj_right, ih]
    constructor
    · rintro clear d suffix
      rcases List.suffix_cons_iff.mp suffix with rfl | later
      · exact here
      · exact clear d later
    · exact fun clear d suffix => clear d (suffix.trans (List.suffix_cons c rest))

lemma first?_eq_none_iff (adv : Advances at?) :
    first? at? cs = none ↔ ∀ d, d <:+ cs → at? d = none := by
  induction cs with
  | nil =>
    refine iff_of_true rfl fun d suffix => ?_
    rw [List.suffix_nil.mp suffix, at?_nil adv]
  | cons c rest ih =>
    rw [first?]
    simp only [List.suffix_cons_iff, forall_eq_or_imp]
    cases here : at? (c :: rest) with
    | none => simpa using ih
    | some _ => simp

lemma parse_eq_none_iff : parse cs = none ↔
    eraseFrom bracketed? 0 cs = cs ∧ eraseFrom bare? 0 cs = cs := by
  rw [eraseFrom_eq_self_iff advances_bracketed, eraseFrom_eq_self_iff advances_bare,
    ← first?_eq_none_iff advances_bracketed, ← first?_eq_none_iff advances_bare, parse]
  cases first? bracketed? cs <;> simp

lemma erase_eq_self_iff : erase cs = cs ↔ parse cs = none ∧ strip cs = cs := by
  rw [parse_eq_none_iff]
  constructor
  · intro same
    have first : (eraseFrom bracketed? 0 cs).Sublist cs := eraseFrom_sublist 0 cs
    have second : (eraseFrom bare? 0 (eraseFrom bracketed? 0 cs)).Sublist _ := eraseFrom_sublist 0 _
    have third : (erase cs).Sublist _ := (infix_strip _).sublist
    rw [same] at third
    have one : eraseFrom bracketed? 0 cs = cs :=
      first.eq_of_length_le (third.length_le.trans second.length_le)
    rw [one] at second third
    have two : eraseFrom bare? 0 cs = cs := second.eq_of_length_le third.length_le
    rw [erase, one, two] at same
    exact ⟨⟨one, two⟩, same⟩
  · rintro ⟨⟨one, two⟩, trimmed⟩
    rw [erase, one, two, trimmed]

lemma erase_erase_iff : erase (erase cs) = erase cs ↔ parse (erase cs) = none :=
  erase_eq_self_iff.trans (and_iff_left (strip_strip _))

inductive Bare : List Char → Prop
  | intro {c : Char} (hc : isBareChar c = true) : Bare (word ++ [c])

inductive Bracketed : List Char → Prop
  | intro {c : Char} {id : List Char} (hc : isBareChar c = false) (unclosed : ']' ∉ c :: id) :
      Bracketed (format (c :: id))

lemma Bare.edged (h : Bare m) : Edged m := by
  obtain ⟨hc⟩ := h
  have edge := mark_of_bare hc
  refine ⟨⟨'N', _, rfl, by decide⟩, ⟨word, _, rfl, isEdge_iff.mpr ⟨edge.1, ?_⟩⟩⟩
  rintro rfl
  exact absurd hc (by decide)

lemma Bracketed.edged (h : Bracketed m) : Edged m := by
  obtain @⟨c, id, -, -⟩ := h
  refine ⟨⟨'[', _, rfl, by decide⟩, ⟨opening ++ c :: id ++ [']'], ']', ?_, by decide⟩⟩
  simp [format]

lemma bare?_eq_none_iff : bare? cs = none ↔
    ∀ c rest, cs = word ++ c :: rest → isBareChar c = false := by
  constructor
  · rintro clear c rest rfl
    by_contra hc
    rw [bare?, afterLead?_append] at clear
    simp [hc] at clear
  · intro clear
    rw [Option.eq_none_iff_forall_ne_some]
    rintro ⟨id, after⟩ found
    obtain ⟨filled, bare, -, rfl⟩ := bare?_eq_some.mp found
    obtain ⟨c, id, rfl⟩ := List.exists_cons_of_ne_nil filled
    have other := clear c (id ++ after) (by simp)
    exact absurd (other.symm.trans (bare c List.mem_cons_self)) (by decide)

lemma bare?_of_not_bare (h : isBareChar c = false) : bare? (c :: rest) = none := by
  refine bare?_of_head ?_
  rintro rfl
  exact absurd h (by decide)

lemma bare?_ne_none (h : Bare m) (begins : m <+: cs) : bare? cs ≠ none := by
  obtain ⟨hc⟩ := h
  obtain ⟨rest, rfl⟩ := begins
  intro clear
  have other := bare?_eq_none_iff.mp clear _ rest (List.append_assoc _ _ _)
  exact absurd (other.symm.trans hc) (by decide)

lemma bracketed?_ne_none (filled : id ≠ []) (unclosed : ']' ∉ id) (begins : format id <+: cs) :
    bracketed? cs ≠ none := by
  obtain ⟨rest, rfl⟩ := begins
  simp [bracketed?_eq_some.mpr ⟨filled, unclosed, rfl⟩]

lemma parse_ne_none_iff :
    parse cs ≠ none ↔ (∃ m, Bare m ∧ m <:+: cs) ∨ ∃ m, Bracketed m ∧ m <:+: cs := by
  rw [ne_eq, parse_eq_none_iff, eraseFrom_eq_self_iff advances_bracketed,
    eraseFrom_eq_self_iff advances_bare]
  constructor
  · intro marked
    by_contra clear
    rw [not_or, not_exists, not_exists] at clear
    refine marked ⟨fun d suffix => ?_, fun d suffix => bare?_eq_none_iff.mpr ?_⟩
    · rw [Option.eq_none_iff_forall_ne_some]
      rintro ⟨id, after⟩ found
      obtain ⟨filled, unclosed, rfl⟩ := bracketed?_eq_some.mp found
      obtain ⟨c, id, rfl⟩ := List.exists_cons_of_ne_nil filled
      cases hc : isBareChar c with
      | true =>
        refine clear.1 _ ⟨⟨hc⟩, List.IsInfix.trans ?_ suffix.isInfix⟩
        exact ⟨['[', '['], id ++ [']', ']'] ++ after, by simp [format, opening]⟩
      | false =>
        exact clear.2 _ ⟨⟨hc, unclosed⟩, (List.prefix_append _ after).isInfix.trans suffix.isInfix⟩
    · rintro c rest rfl
      by_contra hc
      refine clear.1 _ ⟨⟨by simpa using hc⟩, List.IsInfix.trans ?_ suffix.isInfix⟩
      exact ⟨[], rest, by simp⟩
  · rintro (⟨m, mark, inside⟩ | ⟨m, mark, inside⟩) ⟨one, two⟩ <;>
      obtain ⟨d, begins, suffix⟩ := List.infix_iff_prefix_suffix.mp inside
    · exact bare?_ne_none mark begins (two d suffix)
    · obtain ⟨hc, unclosed⟩ := mark
      exact bracketed?_ne_none (List.cons_ne_nil _ _) unclosed begins (one d suffix)

lemma parse_strip_ne_none_iff : parse (strip cs) ≠ none ↔ parse cs ≠ none := by
  have bare : (∃ m, Bare m ∧ m <:+: strip cs) ↔ ∃ m, Bare m ∧ m <:+: cs :=
    exists_congr fun m => and_congr_right fun mark => mark.edged.infix_strip_iff
  have bracketed : (∃ m, Bracketed m ∧ m <:+: strip cs) ↔ ∃ m, Bracketed m ∧ m <:+: cs :=
    exists_congr fun m => and_congr_right fun mark => mark.edged.infix_strip_iff
  rw [parse_ne_none_iff, parse_ne_none_iff, bare, bracketed]

inductive BareHalves : List Char → List Char → Prop
  | intro {c : Char} {p q : List Char} (whole : word = p ++ q) (hp : p ≠ []) (hq : q ≠ [])
      (hc : isBareChar c = true) : BareHalves p (q ++ [c])

inductive BracketHalves : List Char → List Char → Prop
  | opened {c : Char} {p q id : List Char} (whole : opening = p ++ q) (hp : p ≠ []) (hq : q ≠ [])
      (hc : isBareChar c = false) (unclosed : ']' ∉ c :: id) :
      BracketHalves p (q ++ (c :: id ++ [']', ']']))
  | closed {c : Char} {id : List Char} (hc : isBareChar c = false) (unclosed : ']' ∉ c :: id) :
      BracketHalves (opening ++ (c :: id ++ [']'])) [']']

lemma BareHalves.bare (h : BareHalves p q) : Bare (p ++ q) := by
  obtain ⟨whole, -, -, hc⟩ := h
  rw [← List.append_assoc, ← whole]
  exact ⟨hc⟩

lemma BracketHalves.bracketed (h : BracketHalves p q) : Bracketed (p ++ q) := by
  cases h with
  | opened whole _ _ hc unclosed =>
    rw [← List.append_assoc, ← whole, ← List.append_assoc]
    exact ⟨hc, unclosed⟩
  | @closed c id hc unclosed =>
    have marker : opening ++ (c :: id ++ [']']) ++ [']'] = format (c :: id) := by simp [format]
    rw [marker]
    exact ⟨hc, unclosed⟩

def Joins (at? : List Char → Option (List Char × List Char)) (Halves : List Char → List Char → Prop)
    (cs : List Char) : Prop :=
  ∃ front back, (front, back) ∈ cutsFrom at? 0 cs ∧
    ∃ p q, Halves p q ∧ p <:+ front ∧ q <+: eraseFrom at? 0 back

lemma Joins.exists_infix {Halves : List Char → List Char → Prop} (adv : Advances at?)
    (h : Joins at? Halves cs) : ∃ p q, Halves p q ∧ p ++ q <:+: eraseFrom at? 0 cs := by
  obtain ⟨front, back, cut, p, q, halves, ⟨before, hp⟩, after, hq⟩ := h
  refine ⟨p, q, halves, before, after, ?_⟩
  rw [eraseFrom_of_cut adv cut, ← hp, ← hq]
  simp

lemma Joins.found {Halves : List Char → List Char → Prop} (adv : Advances at?)
    (here : at? cs = some (id, after)) (h : Joins at? Halves (stripLeft after)) :
    Joins at? Halves cs := by
  obtain ⟨front, back, cut, joined⟩ := h
  refine ⟨front, back, ?_, joined⟩
  rw [cutsFrom_found adv here]
  exact List.mem_cons_of_mem _ cut

lemma Joins.kept {Halves : List Char → List Char → Prop} (here : at? (c :: rest) = none)
    (h : Joins at? Halves rest) : Joins at? Halves (c :: rest) := by
  obtain ⟨front, back, cut, p, q, halves, hp, hq⟩ := h
  exact ⟨c :: front, back, (mem_cuts_kept here).mpr ⟨front, rfl, cut⟩, p, q, halves,
    hp.trans (List.suffix_cons c front), hq⟩

lemma exists_kept (adv : Advances at?) (filled : m ≠ []) (h : m <:+: eraseFrom at? 0 cs) :
    ∃ d, d <:+ cs ∧ at? d = none ∧ m <+: eraseFrom at? 0 d ∧
      ∀ Halves, Joins at? Halves d → Joins at? Halves cs := by
  induction cs using scan_induction adv with
  | nil => exact absurd (List.infix_nil.mp h) filled
  | found cs id after here ih =>
    rw [eraseFrom_found adv here] at h
    obtain ⟨d, suffix, kept, begins, joins⟩ := ih h
    obtain ⟨lead, -, rfl⟩ := adv here
    have later : d <:+ lead ++ after :=
      (suffix.trans (List.dropWhile_suffix _)).trans (List.suffix_append lead after)
    exact ⟨d, later, kept, begins, fun Halves joined => (joins Halves joined).found adv here⟩
  | kept c rest here ih =>
    rw [eraseFrom_kept here] at h
    rcases List.infix_cons_iff.mp h with first | later
    · rw [← eraseFrom_kept here] at first
      exact ⟨_, List.suffix_rfl, here, first, fun _ joined => joined⟩
    · obtain ⟨d, suffix, kept, begins, joins⟩ := ih later
      exact ⟨d, suffix.trans (List.suffix_cons c rest), kept, begins,
        fun Halves joined => (joins Halves joined).kept here⟩

lemma prefix_of_cut (adv : Advances at?) (cut : (p, back) ∈ cutsFrom at? 0 cs)
    (begins : p ++ q <+: eraseFrom at? 0 cs) : q <+: eraseFrom at? 0 back := by
  rw [eraseFrom_of_cut adv cut] at begins
  exact (List.prefix_append_right_inj p).mp begins

lemma cut_ne_nil (kept : at? cs = none) (cut : (p, back) ∈ cutsFrom at? 0 cs) : p ≠ [] := by
  cases cs with
  | nil => cases cut
  | cons c rest =>
    obtain ⟨f, rfl, -⟩ := (mem_cuts_kept kept).mp cut
    exact List.cons_ne_nil c f

lemma joins_of_opening (adv : Advances at?) (hc : isBareChar c = false) (unclosed : ']' ∉ c :: id)
    (begins : format (c :: id) <+: eraseFrom at? 0 cs) (whole : opening = p ++ q) (hp : p ≠ [])
    (hq : q ≠ []) (cut : (p, back) ∈ cutsFrom at? 0 cs) : Joins at? BracketHalves cs := by
  rw [format, whole, List.append_assoc, List.append_assoc] at begins
  exact ⟨p, back, cut, p, _, .opened whole hp hq hc unclosed, List.suffix_rfl,
    prefix_of_cut adv cut begins⟩

lemma opening_cases (adv : Advances at?) (hc : isBareChar c = false) (unclosed : ']' ∉ c :: id)
    (kept : at? cs = none) (begins : format (c :: id) <+: eraseFrom at? 0 cs) :
    (∃ rest, cs = opening ++ rest) ∨ Joins at? BracketHalves cs := by
  have lead : opening <+: format (c :: id) := ⟨c :: id ++ [']', ']'], by simp [format]⟩
  rcases prefix_cases adv (lead.trans begins) with ⟨rest, rfl⟩ | ⟨p, q, back, whole, hq, cut, -⟩
  · exact .inl ⟨rest, rfl⟩
  · exact .inr (joins_of_opening adv hc unclosed begins whole (cut_ne_nil kept cut) hq cut)

def Passes (at? : List Char → Option (List Char × List Char)) (lead rest : List Char) : Prop :=
  ∀ d, d <:+ lead → d ≠ [] → at? (d ++ rest) = none

lemma Passes.tail (h : Passes at? (c :: front) rest) : Passes at? front rest :=
  fun d suffix => h d (suffix.trans (List.suffix_cons c front))

lemma Passes.eraseFrom_eq (h : Passes at? front rest) :
    eraseFrom at? 0 (front ++ rest) = front ++ eraseFrom at? 0 rest := by
  induction front with
  | nil => rfl
  | cons c front ih =>
    have here : at? (c :: (front ++ rest)) = none := h _ List.suffix_rfl (List.cons_ne_nil c front)
    rw [List.cons_append, eraseFrom_kept here, ih h.tail, List.cons_append]

lemma Passes.cut (h : Passes at? front rest) (cut : (p, back) ∈ cutsFrom at? 0 rest) :
    (front ++ p, back) ∈ cutsFrom at? 0 (front ++ rest) := by
  induction front with
  | nil => exact cut
  | cons c front ih =>
    have here : at? (c :: (front ++ rest)) = none := h _ List.suffix_rfl (List.cons_ne_nil c front)
    exact (mem_cuts_kept here).mpr ⟨front ++ p, rfl, ih h.tail⟩

lemma suffix_word_cases {d : List Char} (h : d <:+ word) (filled : d ≠ []) :
    d = word ∨ ∃ c rest, d = c :: rest ∧ c ≠ 'N' ∧ c ≠ '[' := by
  simp only [word, List.suffix_cons_iff, List.suffix_nil] at h
  rcases h with rfl | rfl | rfl | rfl | rfl | rfl
  · exact .inl rfl
  iterate 4 exact .inr ⟨_, _, rfl, by decide, by decide⟩
  · exact absurd rfl filled

lemma passes_word (clear : bare? (word ++ rest) = none) : Passes bare? word rest := by
  intro d suffix filled
  rcases suffix_word_cases suffix filled with rfl | ⟨c, more, rfl, hc, -⟩
  · exact clear
  · exact bare?_of_head hc

lemma passes_opening_bare (clear : bare? (word ++ rest) = none) : Passes bare? opening rest := by
  intro d suffix filled
  rcases List.suffix_cons_iff.mp suffix with rfl | suffix
  · exact bare?_of_head (by decide)
  rcases List.suffix_cons_iff.mp suffix with rfl | suffix
  · exact bare?_of_head (by decide)
  · exact passes_word clear d suffix filled

lemma passes_opening (clear : bracketed? (opening ++ rest) = none) :
    Passes bracketed? opening rest := by
  intro d suffix filled
  rcases List.suffix_cons_iff.mp suffix with rfl | suffix
  · exact clear
  rcases List.suffix_cons_iff.mp suffix with rfl | suffix
  · rfl
  rcases suffix_word_cases suffix filled with rfl | ⟨c, more, rfl, -, hc⟩
  · exact bracketed?_of_head (by decide)
  · exact bracketed?_of_head hc

lemma bare_left_iff :
    (∃ m, Bare m ∧ m <:+: eraseFrom bare? 0 cs) ↔ Joins bare? BareHalves cs := by
  constructor
  · rintro ⟨_, @⟨c, hc⟩, inside⟩
    obtain ⟨d, -, kept, begins, joins⟩ := exists_kept advances_bare (Bare.intro hc).edged.ne_nil inside
    rcases prefix_cases advances_bare ((List.prefix_append word [c]).trans begins) with
      ⟨rest, rfl⟩ | ⟨p, q, back, whole, hq, cut, -⟩
    · -- The word stood there without an id, and the character behind it is kept too.
      exfalso
      rw [(passes_word kept).eraseFrom_eq, List.prefix_append_right_inj] at begins
      cases rest with
      | nil => simp [eraseFrom] at begins
      | cons e rest =>
        have he : isBareChar e = false := bare?_eq_none_iff.mp kept e rest rfl
        rw [eraseFrom_kept (bare?_of_not_bare he)] at begins
        obtain rfl := (List.cons_prefix_cons.mp begins).1
        exact absurd (he.symm.trans hc) (by decide)
    · rw [whole, List.append_assoc] at begins
      exact joins _ ⟨p, back, cut, p, q ++ [c], ⟨whole, cut_ne_nil kept cut, hq, hc⟩,
        List.suffix_rfl, prefix_of_cut advances_bare cut begins⟩
  · intro joins
    obtain ⟨p, q, halves, inside⟩ := joins.exists_infix advances_bare
    exact ⟨_, halves.bare, inside⟩

lemma prefix_of_ahead {x : List Char} (whole : x ++ [']', ']'] = p ++ q) (hq : q ≠ [])
    (last : q ≠ [']']) : p <+: x := by
  rcases List.eq_nil_or_concat q with rfl | ⟨q, e, rfl⟩
  · exact absurd rfl hq
  · have split : x ++ [']'] ++ [']'] = p ++ q ++ [e] := by simpa using whole
    obtain ⟨split, closing⟩ := List.append_inj' split rfl
    rcases List.eq_nil_or_concat q with rfl | ⟨q, e', rfl⟩
    · exact absurd closing.symm last
    · rw [List.concat_eq_append, ← List.append_assoc] at split
      exact ⟨q, (List.append_inj' split rfl).1.symm⟩

lemma joins_of_kept_opening (hc : isBareChar c = false) (unclosed : ']' ∉ c :: id)
    (kept : bracketed? (opening ++ rest) = none)
    (begins : format (c :: id) <+: eraseFrom bracketed? 0 (opening ++ rest)) :
    Joins bracketed? BracketHalves (opening ++ rest) := by
  have passes := passes_opening kept
  rw [passes.eraseFrom_eq, format, List.append_assoc, List.prefix_append_right_inj] at begins
  rcases prefix_cases advances_bracketed begins with stood | ⟨p, q, back, whole, hq, cut, onward⟩
  · have marker : format (c :: id) <+: opening ++ rest := by
      rwa [format, List.append_assoc, List.prefix_append_right_inj]
    exact absurd kept (bracketed?_ne_none (List.cons_ne_nil c id) unclosed marker)
  by_cases last : q = [']']
  · obtain rfl : c :: id ++ [']'] = p := by
      rw [last, ← List.singleton_append (l := [']']), ← List.append_assoc] at whole
      exact List.append_cancel_right whole
    exact ⟨_, back, passes.cut cut, _, q, last ▸ .closed hc unclosed, List.suffix_rfl, onward⟩
  · -- Otherwise the opening makes one marker with the first one behind it.
    exfalso
    obtain ⟨front, more, inner, after, rfl, found, first⟩ := exists_first_cut advances_bracketed cut
    obtain ⟨-, unclosed', rfl⟩ := bracketed?_eq_some.mp found
    have within : front ⊆ c :: id := (first.trans (prefix_of_ahead whole hq last)).subset
    have clear : ']' ∉ front ++ opening ++ inner := by
      simp only [List.mem_append, not_or]
      exact ⟨⟨fun h => unclosed (within h), by decide⟩, unclosed'⟩
    exact bracketed?_ne_none (by simp [opening]) clear ⟨after, by simp [format]⟩ kept

lemma bracketed_first_iff :
    (∃ m, Bracketed m ∧ m <:+: eraseFrom bracketed? 0 cs) ↔ Joins bracketed? BracketHalves cs := by
  constructor
  · rintro ⟨_, @⟨c, id, hc, unclosed⟩, inside⟩
    obtain ⟨d, -, kept, begins, joins⟩ :=
      exists_kept advances_bracketed (format_ne_nil (c :: id)) inside
    rcases opening_cases advances_bracketed hc unclosed kept begins with ⟨rest, rfl⟩ | joined
    · exact joins _ (joins_of_kept_opening hc unclosed kept begins)
    · exact joins _ joined
  · intro joins
    obtain ⟨p, q, halves, inside⟩ := joins.exists_infix advances_bracketed
    exact ⟨_, halves.bracketed, inside⟩

lemma ending_cases (h : id ++ [']', ']'] <+: eraseFrom bare? 0 cs) :
    (∃ inner, (']' ∉ id → ']' ∉ inner) ∧ inner ++ [']', ']'] <+: cs) ∨
      ∃ back, (id ++ [']'], back) ∈ cutsFrom bare? 0 cs ∧ [']'] <+: eraseFrom bare? 0 back := by
  induction cs using scan_induction advances_bare generalizing id with
  | nil => simp [eraseFrom] at h
  | found cs taken after here ih =>
    rw [eraseFrom_found advances_bare here] at h
    rw [cutsFrom_found advances_bare here]
    rcases ih h with ⟨inner, clear, begins⟩ | ⟨back, cut, onward⟩
    · obtain ⟨-, bare, -, rfl⟩ := bare?_eq_some.mp here
      refine .inl ⟨word ++ taken ++ after.takeWhile isBlank ++ inner, fun unclosed => ?_, ?_⟩
      · simp only [List.mem_append, not_or]
        refine ⟨⟨⟨by decide, fun h => (mark_of_bare (bare _ h)).2 rfl⟩, fun h => ?_⟩, clear unclosed⟩
        exact absurd (List.mem_takeWhile_imp h) (by decide)
      · have onward : after.takeWhile isBlank ++ (inner ++ [']', ']']) <+:
            after.takeWhile isBlank ++ stripLeft after := (List.prefix_append_right_inj _).mpr begins
        rw [stripLeft, List.takeWhile_append_dropWhile] at onward
        simpa only [List.append_assoc, List.prefix_append_right_inj] using onward
    · exact .inr ⟨back, List.mem_cons_of_mem _ cut, onward⟩
  | kept c rest here ih =>
    rw [eraseFrom_kept here] at h
    cases id with
    | nil =>
      obtain ⟨rfl, last⟩ := List.cons_prefix_cons.mp h
      rcases prefix_cases advances_bare last with stood | ⟨p, q, back, whole, hq, cut, onward⟩
      · exact .inl ⟨[], fun clear => clear, List.cons_prefix_cons.mpr ⟨rfl, stood⟩⟩
      · rcases List.append_eq_cons_iff.mp whole.symm with ⟨rfl, rfl⟩ | ⟨_, rfl, ends⟩
        · exact .inr ⟨back, (mem_cuts_kept here).mpr ⟨[], rfl, cut⟩, onward⟩
        · exact absurd (List.append_eq_nil_iff.mp ends.symm).2 hq
    | cons e id =>
      obtain ⟨rfl, begins⟩ := List.cons_prefix_cons.mp h
      rcases ih begins with ⟨inner, clear, stood⟩ | ⟨back, cut, onward⟩
      · refine .inl ⟨e :: inner, fun unclosed => ?_, List.cons_prefix_cons.mpr ⟨rfl, stood⟩⟩
        rw [List.mem_cons, not_or] at unclosed ⊢
        exact ⟨unclosed.1, clear unclosed.2⟩
      · exact .inr ⟨back, (mem_cuts_kept here).mpr ⟨_, rfl, cut⟩, onward⟩

lemma eraseFrom_bare_append (hw : c ∉ word) (hc : isBareChar c = false) (hb : isBlank c = false)
    (cs rest : List Char) : eraseFrom bare? 0 (cs ++ c :: rest) =
      eraseFrom bare? 0 cs ++ eraseFrom bare? 0 (c :: rest) := by
  induction cs using scan_induction advances_bare with
  | nil => rfl
  | found cs id after here ih =>
    obtain ⟨filled, bare, ends, split⟩ := bare?_eq_some.mp here
    have ends' : ∀ d ∈ (after ++ c :: rest).head?, isBareChar d = false := by
      cases after with
      | nil => simpa using hc
      | cons d after => exact ends
    have found : bare? (cs ++ c :: rest) = some (id, after ++ c :: rest) :=
      bare?_eq_some.mpr ⟨filled, bare, ends', by simp [split]⟩
    have blanks : stripLeft (after ++ c :: rest) = stripLeft after ++ c :: rest := by
      rw [stripLeft, List.dropWhile_append]
      split_ifs with spent
      · rw [List.dropWhile_cons_of_neg (by simp [hb]), stripLeft, List.isEmpty_iff.mp spent]
        rfl
      · rfl
    rw [eraseFrom_found advances_bare found, blanks, ih, ← eraseFrom_found advances_bare here]
  | kept d cs here ih =>
    have clear : bare? (d :: (cs ++ c :: rest)) = none := by
      refine bare?_eq_none_iff.mpr fun e more split => ?_
      by_contra he
      have whole : word ++ [e] ++ more = d :: cs ++ c :: rest := by simp [split]
      have absent : c ∉ word ++ [e] := by
        rw [List.mem_append, List.mem_singleton, not_or]
        exact ⟨hw, by rintro rfl; exact he hc⟩
      rcases List.append_eq_append_iff.mp whole with ⟨a, split, -⟩ | ⟨a, split, tail⟩
      · exact bare?_ne_none ⟨by simpa using he⟩ ⟨a, split.symm⟩ here
      · rcases List.cons_eq_append_iff.mp tail with ⟨rfl, -⟩ | ⟨a, rfl, -⟩
        · exact bare?_ne_none ⟨by simpa using he⟩ ⟨[], by simpa using split⟩ here
        · exact absent (by rw [split]; simp)
    rw [List.cons_append, eraseFrom_kept clear, ih, eraseFrom_kept here, List.cons_append]

lemma Bracketed.remains (h : Bracketed m) (inside : m <:+: cs) :
    ∃ m, Bracketed m ∧ m <:+: eraseFrom bare? 0 cs := by
  obtain @⟨c, id, hc, unclosed⟩ := h
  obtain ⟨before, after, rfl⟩ := inside
  refine ⟨format (c :: eraseFrom bare? 0 id), ⟨hc, fun closed => unclosed ?_⟩, ?_⟩
  · rcases List.mem_cons.mp closed with rfl | closed
    · exact List.mem_cons_self
    · exact List.mem_cons_of_mem c ((eraseFrom_sublist 0 id).subset closed)
  · have clear : bare? (word ++ c :: (id ++ ']' :: ']' :: after)) = none := by
      refine bare?_eq_none_iff.mpr fun d rest split => ?_
      obtain rfl := (List.cons.inj (List.append_cancel_left split)).1
      exact hc
    have whole := (passes_opening_bare clear).eraseFrom_eq
    have front : eraseFrom bare? 0 (before ++ (opening ++ c :: (id ++ ']' :: ']' :: after))) =
        eraseFrom bare? 0 before ++ eraseFrom bare? 0 (opening ++ c :: (id ++ ']' :: ']' :: after)) :=
      eraseFrom_bare_append (c := '[') (by decide) (by decide) (by decide) before _
    rw [whole, eraseFrom_kept (bare?_of_not_bare hc),
      eraseFrom_bare_append (by decide) (by decide) (by decide) id (']' :: after),
      eraseFrom_kept (bare?_of_head (by decide)), eraseFrom_kept (bare?_of_head (by decide))] at front
    have text : before ++ format (c :: id) ++ after =
        before ++ (opening ++ c :: (id ++ ']' :: ']' :: after)) := by simp [format]
    refine ⟨eraseFrom bare? 0 before, eraseFrom bare? 0 after, ?_⟩
    rw [text, front]
    simp [format]

lemma bracketed_or_joins (hc : isBareChar c = false) (unclosed : ']' ∉ c :: id)
    (begins : format (c :: id) <+: eraseFrom bare? 0 (opening ++ rest)) :
    (∃ m, Bracketed m ∧ m <+: opening ++ rest) ∨ Joins bare? BracketHalves (opening ++ rest) := by
  cases clear : bare? (word ++ rest) with
  | some found =>
    have brackets : Passes bare? ['[', '['] (word ++ rest) := by
      intro d suffix filled
      obtain ⟨e, d, rfl⟩ := List.exists_cons_of_ne_nil filled
      obtain rfl : e = '[' := by simpa using suffix.subset List.mem_cons_self
      exact bare?_of_head (by decide)
    have cut : ([], stripLeft found.2) ∈ cutsFrom bare? 0 (word ++ rest) := by
      simp [cutsFrom_found advances_bare clear]
    exact .inr (joins_of_opening advances_bare hc unclosed begins (p := ['[', '[']) (q := word) rfl
      (by simp) (by simp [word]) (brackets.cut cut))
  | none =>
    have passes := passes_opening_bare clear
    rw [passes.eraseFrom_eq, format, List.append_assoc, List.prefix_append_right_inj] at begins
    cases rest with
    | nil => simp [eraseFrom] at begins
    | cons e rest =>
      have here : bare? (e :: rest) = none :=
        bare?_of_not_bare (bare?_eq_none_iff.mp clear e rest rfl)
      rw [eraseFrom_kept here] at begins
      obtain ⟨rfl, ends⟩ := List.cons_prefix_cons.mp begins
      rcases ending_cases ends with ⟨inner, unclosed', stood⟩ | ⟨back, cut, onward⟩
      · rw [List.mem_cons, not_or] at unclosed
        refine .inl ⟨format (c :: inner), ⟨hc, ?_⟩, ?_⟩
        · exact List.not_mem_cons_of_ne_of_not_mem unclosed.1 (unclosed' unclosed.2)
        · rw [format, List.append_assoc, List.prefix_append_right_inj]
          exact List.cons_prefix_cons.mpr ⟨rfl, stood⟩
      · exact .inr ⟨_, back, passes.cut ((mem_cuts_kept here).mpr ⟨_, rfl, cut⟩), _, _,
          .closed hc unclosed, List.suffix_rfl, onward⟩

lemma bracketed_left_iff :
    (∃ m, Bracketed m ∧ m <:+: eraseFrom bare? 0 cs) ↔
      (∃ m, Bracketed m ∧ m <:+: cs) ∨ Joins bare? BracketHalves cs := by
  constructor
  · rintro ⟨_, @⟨c, id, hc, unclosed⟩, inside⟩
    obtain ⟨d, suffix, kept, begins, joins⟩ :=
      exists_kept advances_bare (format_ne_nil (c :: id)) inside
    rcases opening_cases advances_bare hc unclosed kept begins with ⟨rest, rfl⟩ | joined
    · rcases bracketed_or_joins hc unclosed begins with ⟨m, mark, stood⟩ | joined
      · exact .inl ⟨m, mark, stood.isInfix.trans suffix.isInfix⟩
      · exact .inr (joins _ joined)
    · exact .inr (joins _ joined)
  · rintro (⟨m, mark, inside⟩ | joins)
    · exact mark.remains inside
    · obtain ⟨p, q, halves, inside⟩ := joins.exists_infix advances_bare
      exact ⟨_, halves.bracketed, inside⟩

/-- A marker is put together where one was taken out: in its brackets by the first scan, which leaves
it to people if it is none without them, or by the second scan. -/
def Rejoined (cs : List Char) : Prop :=
  Joins bracketed? BracketHalves cs ∨ Joins bare? BracketHalves (eraseFrom bracketed? 0 cs) ∨
    Joins bare? BareHalves (eraseFrom bracketed? 0 cs)

lemma parse_erase_ne_none_iff : parse (erase cs) ≠ none ↔ Rejoined cs := by
  rw [erase, parse_strip_ne_none_iff, parse_ne_none_iff, bare_left_iff, bracketed_left_iff,
    bracketed_first_iff, Rejoined, or_comm, or_assoc]

def seams : List Char := ['[', 'N', 'O', 'D', 'E', ']']

def Apart (at? : List Char → Option (List Char × List Char)) (cs : List Char) : Prop :=
  ∀ cut ∈ cutsFrom at? 0 cs, ∀ c ∈ cut.1.getLast?, c ∉ seams

instance (at? : List Char → Option (List Char × List Char)) (cs : List Char) :
    Decidable (Apart at? cs) :=
  decidable_of_iff (∀ cut ∈ cutsFrom at? 0 cs, cut.1.getLast?.all (!seams.contains ·) = true)
    (by simp [Apart, Option.all_eq_true])

lemma Apart.not_joins {Halves : List Char → List Char → Prop} (h : Apart at? cs)
    (ends : ∀ {p q}, Halves p q → ∃ front c, p = front ++ [c] ∧ c ∈ seams) :
    ¬ Joins at? Halves cs := by
  rintro ⟨_, back, cut, p, q, halves, ⟨before, rfl⟩, -⟩
  obtain ⟨front, c, rfl, hc⟩ := ends halves
  refine h _ cut c ?_ hc
  simp [← List.append_assoc]

lemma ends_in_seam {lead : List Char} (letters : lead.dropLast ⊆ seams) (whole : lead = p ++ q)
    (hp : p ≠ []) (hq : q ≠ []) : ∃ front c, p = front ++ [c] ∧ c ∈ seams := by
  refine ⟨p.dropLast, p.getLast hp, (List.dropLast_append_getLast hp).symm, letters ?_⟩
  rw [whole, List.dropLast_append_of_ne_nil hq]
  exact List.mem_append_left _ (List.getLast_mem hp)

lemma BareHalves.ends (h : BareHalves p q) : ∃ front c, p = front ++ [c] ∧ c ∈ seams := by
  obtain ⟨whole, hp, hq, -⟩ := h
  exact ends_in_seam (by decide) whole hp hq

lemma BracketHalves.ends (h : BracketHalves p q) : ∃ front c, p = front ++ [c] ∧ c ∈ seams := by
  cases h with
  | opened whole hp hq => exact ends_in_seam (by decide) whole hp hq
  | @closed c id => exact ⟨opening ++ c :: id, ']', by simp, by decide⟩

lemma not_rejoined_of_apart (first : Apart bracketed? cs)
    (second : Apart bare? (eraseFrom bracketed? 0 cs)) : ¬ Rejoined cs := by
  rintro (joins | joins | joins)
  · exact first.not_joins BracketHalves.ends joins
  · exact second.not_joins BracketHalves.ends joins
  · exact second.not_joins BareHalves.ends joins

lemma parseText_eraseText_eq_none_iff (s : String) :
    parseText (eraseText s) = none ↔ ¬ Rejoined s.toList := by
  rw [← parse_erase_ne_none_iff, not_not, parseText, eraseText, within, String.toList_ofList,
    Option.map_eq_none_iff]

lemma eraseText_eraseText_iff (s : String) :
    eraseText (eraseText s) = eraseText s ↔ ¬ Rejoined s.toList := by
  rw [← parse_erase_ne_none_iff, not_not, ← erase_erase_iff, eraseText, eraseText, within, within,
    String.toList_ofList, String.ofList_inj]

/-- No marker is left for people, and taking them out again changes nothing, just if none is put
together where another one was taken out; so it is where none is taken out right after a bracket or a
letter of the word. -/
theorem erased_text_is_unmarked_iff (s : String) :
    (parseText (eraseText s) = none ↔ ¬ Rejoined s.toList) ∧
    (eraseText (eraseText s) = eraseText s ↔ ¬ Rejoined s.toList) ∧
    (Apart bracketed? s.toList → Apart bare? (eraseFrom bracketed? 0 s.toList) →
      ¬ Rejoined s.toList) :=
  ⟨parseText_eraseText_eq_none_iff s, eraseText_eraseText_iff s, not_rejoined_of_apart⟩

theorem spoken_markers_are_erased :
    Apart bracketed? "[[NODE:message-1]] Hello! NODE:end-1 Goodbye".toList ∧
      Apart bare?
        (eraseFrom bracketed? 0 "[[NODE:message-1]] Hello! NODE:end-1 Goodbye".toList) ∧
      parseText (eraseText "[[NODE:message-1]] Hello! NODE:end-1 Goodbye") = none := by
  have first : Apart bracketed? "[[NODE:message-1]] Hello! NODE:end-1 Goodbye".toList := by
    decide +kernel
  have second : Apart bare?
      (eraseFrom bracketed? 0 "[[NODE:message-1]] Hello! NODE:end-1 Goodbye".toList) := by
    decide +kernel
  obtain ⟨unmarked, -, apart⟩ :=
    erased_text_is_unmarked_iff "[[NODE:message-1]] Hello! NODE:end-1 Goodbye"
  exact ⟨first, second, unmarked.mpr (apart first second)⟩

theorem marker_around_marker_is_left :
    parseText (eraseText "NONODE:a DE:b") = some "b" ∧
      eraseText (eraseText "NONODE:a DE:b") ≠ eraseText "NONODE:a DE:b" := by
  constructor
  · rfl
  · decide +kernel

end Dialogue.Marker
