import Dialogue.Json.Reader
import Dialogue.Proofs.Text.Fencing

/-! The grammar of JSON, with the three names for numbers that are none, for texts of any depth and
numbers of any length. Each relation says that something of its kind comes before the rest of a text.
Whatever is read is of the grammar, and a value of it begins and ends with an edge. -/

namespace Dialogue.Json.Grammar

open Text Reader Decimal

def Run (p : Char → Bool) (cs rest : List Char) : Prop :=
  ∃ run, cs = run ++ rest ∧ ∀ c ∈ run, p c = true

def Gap (cs rest : List Char) : Prop := Run isSpace cs rest

inductive Digits : List Char → List Char → Prop
  | intro {c : Char} {cs rest : List Char} : isAsciiDigit c = true → Run isAsciiDigit cs rest →
      Digits (c :: cs) rest

inductive Letters : List Char → List Char → Prop
  | close {rest : List Char} : Letters ('"' :: rest) rest
  | plain {c : Char} {cs rest : List Char} : c ≠ '"' → c ≠ '\\' → 32 ≤ c.toNat →
      Letters cs rest → Letters (c :: cs) rest
  | escape {c : Char} {cs rest : List Char} : (simpleEscape c).isSome = true →
      Letters cs rest → Letters ('\\' :: c :: cs) rest
  | unit {a b c d : Char} {cs rest : List Char} : (unit? a b c d).isSome = true →
      Letters cs rest → Letters ('\\' :: 'u' :: a :: b :: c :: d :: cs) rest

inductive Whole : List Char → List Char → Prop
  | zero {rest : List Char} : Whole ('0' :: rest) rest
  | digits {cs rest : List Char} : cs.head? ≠ some '0' → Digits cs rest → Whole cs rest

inductive Places : List Char → List Char → Prop
  | none {rest : List Char} : Places rest rest
  | point {cs rest : List Char} : Digits cs rest → Places ('.' :: cs) rest

inductive Power : List Char → List Char → Prop
  | none {rest : List Char} : Power rest rest
  | letter {c : Char} {cs digits rest : List Char} : c = 'e' ∨ c = 'E' →
      cs = digits ∨ cs = '+' :: digits ∨ cs = '-' :: digits → Digits digits rest →
      Power (c :: cs) rest

inductive Number : List Char → List Char → Prop
  | intro {cs body whole places rest : List Char} : cs = body ∨ cs = '-' :: body →
      Whole body whole → Places whole places → Power places rest → Number cs rest

def names : List (List Char) :=
  ["null", "true", "false", "NaN", "Infinity", "-Infinity"].map String.toList

mutual

inductive Value : List Char → List Char → Prop
  | name {w rest : List Char} : w ∈ names → Value (w ++ rest) rest
  | number {cs rest : List Char} : Number cs rest → Value cs rest
  | text {cs rest : List Char} : Letters cs rest → Value ('"' :: cs) rest
  | emptyList {cs rest : List Char} : Gap cs (']' :: rest) → Value ('[' :: cs) rest
  | list {cs inside rest : List Char} : Gap cs inside → Items inside rest → Value ('[' :: cs) rest
  | emptyObject {cs rest : List Char} : Gap cs ('\x7d' :: rest) → Value ('\x7b' :: cs) rest
  | object {cs inside rest : List Char} : Gap cs inside → Members inside rest →
      Value ('\x7b' :: cs) rest

inductive Items : List Char → List Char → Prop
  | last {cs after rest : List Char} : Value cs after → Gap after (']' :: rest) → Items cs rest
  | more {cs after next items rest : List Char} : Value cs after → Gap after (',' :: next) →
      Gap next items → Items items rest → Items cs rest

inductive Members : List Char → List Char → Prop
  | last {cs after rest : List Char} : Member cs after → Gap after ('\x7d' :: rest) →
      Members cs rest
  | more {cs after next members rest : List Char} : Member cs after → Gap after (',' :: next) →
      Gap next members → Members members rest → Members cs rest

inductive Member : List Char → List Char → Prop
  | intro {cs after next content rest : List Char} : Letters cs after → Gap after (':' :: next) →
      Gap next content → Value content rest → Member ('"' :: cs) rest

end

variable {p : Char → Bool} {cs rest after : List Char} {c : Char}

namespace Run

lemma suffix (h : Run p cs rest) : rest <:+ cs := by
  obtain ⟨run, rfl, -⟩ := h
  exact List.suffix_append run rest

lemma dropWhile (p : Char → Bool) (cs : List Char) : Run p cs (cs.dropWhile p) :=
  ⟨cs.takeWhile p, List.takeWhile_append_dropWhile.symm, fun _ => List.mem_takeWhile_imp⟩

end Run

lemma gap_skip (cs : List Char) : Gap cs (skip cs) := Run.dropWhile isSpace cs

/-! What is read is of the grammar. -/

lemma digits_of_takeWhile (h : cs.takeWhile isAsciiDigit ≠ []) :
    Digits cs (cs.dropWhile isAsciiDigit) := by
  cases cs with
  | nil => exact absurd rfl h
  | cons c cs =>
    have digit : isAsciiDigit c = true := by
      by_contra other
      exact h (List.takeWhile_cons_of_neg other)
    rw [List.dropWhile_cons_of_pos digit]
    exact .intro digit (Run.dropWhile _ _)

lemma letters_of_stringBody {start done s : List Char}
    (h : stringBody start done cs = .ok (s, rest)) : Letters cs rest := by
  fun_induction stringBody start done cs with
  | case2 done left =>
    obtain ⟨-, rfl⟩ := Prod.mk.inj (Except.ok.inj h)
    exact .close
  | case6 _ _ _ _ _ _ _ _ _ _ _ _ unit _ _ low _ ih =>
    exact .unit (by simp [unit]) (.unit (by simp [low]) (ih h))
  | case7 _ _ _ _ _ _ _ _ _ _ _ _ unit _ _ _ _ ih => exact .unit (by simp [unit]) (ih h)
  | case8 _ _ _ _ _ _ _ _ _ _ _ _ unit _ ih => exact .unit (by simp [unit]) (ih h)
  | case10 _ _ _ _ _ _ _ _ _ unit ih => exact .unit (by simp [unit]) (ih h)
  | case12 _ _ _ _ _ _ _ simple ih => exact .escape (by simp [simple]) (ih h)
  | case15 _ c left quote lone _ _ _ slash printed ih =>
    have other : c ≠ '\\' := by
      rintro rfl
      cases left with
      | nil => exact lone rfl rfl
      | cons d left => exact slash d left rfl rfl
    exact .plain quote other (Nat.not_lt.mp printed) (ih h)
  | case1 | case3 | case4 | case5 | case9 | case11 | case13 | case14 => cases h

lemma whole_of_wholePart {digits : List Char} (h : wholePart cs = some (digits, rest)) :
    Whole cs rest := by
  unfold wholePart at h
  split at h
  · obtain ⟨-, rfl⟩ := Prod.mk.inj (Option.some.inj h)
    exact .zero
  · next nonzero =>
    split_ifs at h with none
    obtain ⟨-, rfl⟩ := Prod.mk.inj (Option.some.inj h)
    refine .digits ?_ (digits_of_takeWhile (by simpa using none))
    intro zero
    obtain ⟨tail, rfl⟩ := List.head?_eq_some_iff.mp zero
    exact nonzero tail rfl

lemma places_of_read (cs : List Char) : Places cs (places cs).2 := by
  unfold places
  split
  · next c rest =>
    split_ifs with digit
    · exact .point (digits_of_takeWhile (by simp [digit]))
    · exact .none
  · exact .none

lemma takeSign_cases (cs : List Char) :
    cs = (takeSign cs).2 ∨ cs = '+' :: (takeSign cs).2 ∨ cs = '-' :: (takeSign cs).2 := by
  unfold takeSign
  split
  · exact .inr (.inr rfl)
  · exact .inr (.inl rfl)
  · exact .inl rfl

lemma power_of_exponent (cs : List Char) : Power cs (exponent cs).2 := by
  unfold exponent
  split
  · next c rest =>
    split_ifs with letter
    · by_cases none : ((takeSign rest).2.takeWhile isAsciiDigit).isEmpty = true
      · simp only [none, if_true]
        exact .none
      · simp only [none]
        exact .letter (by simpa using letter) (takeSign_cases rest)
          (digits_of_takeWhile (by simpa using none))
    · exact .none
  · exact .none

lemma number_of_read {v : Json} (h : number cs = .ok (v, rest)) : Number cs rest := by
  unfold number at h
  split at h
  next negative body signed =>
    have sign : cs = body ∨ cs = '-' :: body := by
      split at signed
      · obtain ⟨-, rfl⟩ := Prod.mk.inj signed
        exact .inr rfl
      · obtain ⟨-, rfl⟩ := Prod.mk.inj signed
        exact .inl rfl
    cases whole : wholePart body with
    | none => simp [whole, malformedAt] at h
    | some q =>
      obtain ⟨digits, left⟩ := q
      obtain rfl : (exponent (places left).2).2 = rest := by
        simp only [whole] at h
        split at h
        · next after =>
          by_cases many : digitLimit < digits.length
          · simp [many] at h
          · rw [if_neg many] at h
            rw [after]
            exact (Prod.mk.inj (Except.ok.inj h)).2
        · next after =>
          rw [after]
          exact (Prod.mk.inj (Except.ok.inj h)).2
      exact .intro sign (whole_of_wholePart whole) (places_of_read left) (power_of_exponent _)

lemma value_of_scalar {v : Json} (h : scalar cs = .ok (v, rest)) : Value cs rest := by
  unfold scalar at h
  split at h
  case h_7 => exact .number (number_of_read h)
  all_goals
    obtain ⟨-, rfl⟩ := Prod.mk.inj (Except.ok.inj h)
  · exact .name (w := ['n', 'u', 'l', 'l']) (by decide)
  · exact .name (w := ['t', 'r', 'u', 'e']) (by decide)
  · exact .name (w := ['f', 'a', 'l', 's', 'e']) (by decide)
  · exact .name (w := ['N', 'a', 'N']) (by decide)
  · exact .name (w := ['I', 'n', 'f', 'i', 'n', 'i', 't', 'y']) (by decide)
  · exact .name (w := ['-', 'I', 'n', 'f', 'i', 'n', 'i', 't', 'y']) (by decide)

lemma bind_eq_ok {α β : Type} {x : Result α} {f : α → Result β} {b : β} :
    x >>= f = .ok b ↔ ∃ a, x = .ok a ∧ f a = .ok b := by
  cases x with
  | error => simp [bind, Except.bind]
  | ok a => simp [bind, Except.bind]

structure Sound (fuel : Nat) : Prop where
  value : ∀ {depth cs v rest}, Reader.value depth fuel cs = .ok (v, rest) → Value cs rest
  items : ∀ {depth cs vs rest}, Reader.items depth fuel cs = .ok (vs, rest) → Items cs rest
  members : ∀ {depth fs cs gs rest}, Reader.members depth fuel fs cs = .ok (gs, rest) →
    Members cs rest

namespace Sound

variable {depth fuel : Nat}

lemma value_next {v : Json} (h : Sound fuel)
    (read : Reader.value depth (fuel + 1) cs = .ok (v, rest)) : Value cs rest := by
  rw [Reader.value.eq_def] at read
  dsimp only at read
  split at read
  · obtain ⟨⟨s, left⟩, body, ends⟩ := bind_eq_ok.mp read
    obtain ⟨-, rfl⟩ := Prod.mk.inj (Except.ok.inj ends)
    exact .text (letters_of_stringBody body)
  · next inside =>
    have gap := gap_skip inside
    split at read
    · cases read
    split at read
    · next closed =>
      obtain ⟨-, rfl⟩ := Prod.mk.inj (Except.ok.inj read)
      exact .emptyList (closed ▸ gap)
    · obtain ⟨⟨vs, left⟩, body, ends⟩ := bind_eq_ok.mp read
      obtain ⟨-, rfl⟩ := Prod.mk.inj (Except.ok.inj ends)
      exact .list gap (h.items body)
  · next inside =>
    have gap := gap_skip inside
    split at read
    · cases read
    split at read
    · next closed =>
      obtain ⟨-, rfl⟩ := Prod.mk.inj (Except.ok.inj read)
      exact .emptyObject (closed ▸ gap)
    · obtain ⟨⟨fs, left⟩, body, ends⟩ := bind_eq_ok.mp read
      obtain ⟨-, rfl⟩ := Prod.mk.inj (Except.ok.inj ends)
      exact .object gap (h.members body)
  · exact value_of_scalar read

lemma items_next {vs : List Json} (h : Sound fuel)
    (read : Reader.items depth (fuel + 1) cs = .ok (vs, rest)) : Items cs rest := by
  rw [Reader.items] at read
  obtain ⟨⟨v, after⟩, head, read⟩ := bind_eq_ok.mp read
  have first := h.value head
  have gap := gap_skip after
  dsimp only at read
  split at read
  · next closed =>
    obtain ⟨-, rfl⟩ := Prod.mk.inj (Except.ok.inj read)
    exact .last first (closed ▸ gap)
  · next next comma =>
    obtain ⟨⟨ws, left⟩, tail, ends⟩ := bind_eq_ok.mp read
    obtain ⟨-, rfl⟩ := Prod.mk.inj (Except.ok.inj ends)
    exact .more first (comma ▸ gap) (gap_skip next) (h.items tail)
  · cases read

lemma members_next {fs gs : Fields} (h : Sound fuel)
    (read : Reader.members depth (fuel + 1) fs cs = .ok (gs, rest)) : Members cs rest := by
  rw [Reader.members.eq_def] at read
  dsimp only at read
  split at read
  · obtain ⟨⟨key, after⟩, body, read⟩ := bind_eq_ok.mp read
    have gap := gap_skip after
    dsimp only at read
    split at read
    · next next colon =>
      obtain ⟨⟨v, left⟩, content, read⟩ := bind_eq_ok.mp read
      have first : Member _ left :=
        .intro (letters_of_stringBody body) (colon ▸ gap) (gap_skip next) (h.value content)
      have gap := gap_skip left
      dsimp only at read
      split at read
      · next closed =>
        obtain ⟨-, rfl⟩ := Prod.mk.inj (Except.ok.inj read)
        exact .last first (closed ▸ gap)
      · next next comma => exact .more first (comma ▸ gap) (gap_skip next) (h.members read)
      · cases read
    · cases read
  · cases read

end Sound

lemma sound (fuel : Nat) : Sound fuel := by
  induction fuel with
  | zero => exact ⟨nofun, nofun, nofun⟩
  | succ fuel ih => exact ⟨ih.value_next, ih.items_next, ih.members_next⟩

/-! A value begins and ends with an edge. -/

lemma isEdge_of_digit (h : isAsciiDigit c = true) : isEdge c = true := by
  have edges : ∀ n < 58, isAsciiDigit (Char.ofNat n) = true → isEdge (Char.ofNat n) = true := by
    decide +kernel
  have low : c.toNat < 58 := by
    simp only [isAsciiDigit, Bool.and_eq_true, decide_eq_true_eq] at h
    exact Nat.lt_of_le_of_lt (m := 57) h.2 (by decide)
  rw [← Char.ofNat_toNat c] at h ⊢
  exact edges _ low h

lemma isBlank_of_isSpace (h : isSpace c = true) : isBlank c = true := by
  simp only [isSpace, Bool.or_eq_true, decide_eq_true_eq] at h
  rcases h with ((rfl | rfl) | rfl) | rfl <;> decide

lemma Gap.exists_margin (h : Gap cs rest) : ∃ margin, cs = margin ++ rest ∧ Margin margin := by
  obtain ⟨margin, split, spaces⟩ := h
  exact ⟨margin, split, fun c hc => isBlank_of_isSpace (spaces c hc)⟩

lemma begins_of_edges {w : List Char} (filled : w ≠ []) (edges : ∀ c ∈ w, isEdge c = true)
    (rest : List Char) : Begins (w ++ rest) := by
  cases w with
  | nil => exact absurd rfl filled
  | cons c w => exact ⟨c, w ++ rest, rfl, edges c List.mem_cons_self⟩

lemma ends_of_edges {w : List Char} (filled : w ≠ []) (edges : ∀ c ∈ w, isEdge c = true)
    (rest : List Char) : Ends (w ++ rest) rest := by
  refine ⟨w.dropLast, w.getLast filled, ?_, edges _ (List.getLast_mem filled)⟩
  rw [List.append_cons, List.dropLast_append_getLast filled]

lemma edges_of_mem_names {w : List Char} (known : w ∈ names) :
    w ≠ [] ∧ ∀ c ∈ w, isEdge c = true := by
  have all : ∀ w ∈ names, w ≠ [] ∧ w.all isEdge = true := by decide
  exact ⟨(all w known).1, List.all_eq_true.mp (all w known).2⟩

lemma Digits.exists_edges (h : Digits cs rest) :
    ∃ w, cs = w ++ rest ∧ w ≠ [] ∧ ∀ c ∈ w, isEdge c = true := by
  obtain ⟨first, run, rfl, digits⟩ := h
  refine ⟨_ :: run, rfl, List.cons_ne_nil _ _, fun d hd => isEdge_of_digit ?_⟩
  rcases List.mem_cons.mp hd with rfl | hd
  · exact first
  · exact digits d hd

lemma Digits.begins (h : Digits cs rest) : Begins cs := by
  obtain ⟨w, rfl, filled, edges⟩ := h.exists_edges
  exact begins_of_edges filled edges rest

lemma Digits.ends (h : Digits cs rest) : Ends cs rest := by
  obtain ⟨w, rfl, filled, edges⟩ := h.exists_edges
  exact ends_of_edges filled edges rest

lemma Letters.ends (h : Letters cs rest) : Ends cs rest := by
  induction h with
  | close => exact ⟨[], '"', rfl, rfl⟩
  | plain _ _ _ _ ih => exact ih.mono (List.suffix_cons _ _)
  | escape _ _ ih => exact ih.mono ⟨['\\', _], rfl⟩
  | unit _ _ ih => exact ih.mono ⟨['\\', 'u', _, _, _, _], rfl⟩

lemma Whole.begins (h : Whole cs rest) : Begins cs := by
  cases h with
  | zero => exact ⟨'0', _, rfl, rfl⟩
  | digits _ some => exact some.begins

lemma Whole.ends (h : Whole cs rest) : Ends cs rest := by
  cases h with
  | zero => exact ⟨[], '0', rfl, rfl⟩
  | digits _ some => exact some.ends

lemma Places.ends (h : Places cs rest) : rest = cs ∨ Ends cs rest := by
  cases h with
  | none => exact .inl rfl
  | point some => exact .inr (some.ends.mono (List.suffix_cons _ _))

lemma Power.ends (h : Power cs rest) : rest = cs ∨ Ends cs rest := by
  cases h with
  | none => exact .inl rfl
  | letter _ sign some =>
    refine .inr (Ends.mono ?_ (List.suffix_cons _ _))
    rcases sign with rfl | rfl | rfl
    · exact some.ends
    · exact some.ends.mono (List.suffix_cons _ _)
    · exact some.ends.mono (List.suffix_cons _ _)

lemma Number.begins (h : Number cs rest) : Begins cs := by
  obtain ⟨rfl | rfl, whole, -, -⟩ := h
  · exact whole.begins
  · exact ⟨'-', _, rfl, rfl⟩

lemma Number.ends (h : Number cs rest) : Ends cs rest := by
  obtain ⟨sign, whole, places, power⟩ := h
  have body := (whole.ends.andThen places.ends).andThen power.ends
  rcases sign with rfl | rfl
  · exact body
  · exact body.mono (List.suffix_cons _ _)

lemma Value.begins (h : Value cs rest) : Begins cs := by
  cases h with
  | name known => exact begins_of_edges (edges_of_mem_names known).1 (edges_of_mem_names known).2 _
  | number n => exact n.begins
  | text => exact ⟨'"', _, rfl, rfl⟩
  | emptyList | list => exact ⟨'[', _, rfl, rfl⟩
  | emptyObject | object => exact ⟨'\x7b', _, rfl, rfl⟩

lemma Gap.closed {c : Char} (h : Gap cs (c :: rest)) (edge : isEdge c = true) : Ends cs rest :=
  Ends.mono ⟨[], c, rfl, edge⟩ h.suffix

-- By recursion on the derivation, over the four kinds at once.
mutual

lemma Value.ends {cs rest : List Char} : Value cs rest → Ends cs rest
  | .name known => ends_of_edges (edges_of_mem_names known).1 (edges_of_mem_names known).2 _
  | .number n => n.ends
  | .text letters => letters.ends.mono (List.suffix_cons _ _)
  | .emptyList gap => (gap.closed rfl).mono (List.suffix_cons _ _)
  | .list gap inside => (inside.ends.mono gap.suffix).mono (List.suffix_cons _ _)
  | .emptyObject gap => (gap.closed rfl).mono (List.suffix_cons _ _)
  | .object gap inside => (inside.ends.mono gap.suffix).mono (List.suffix_cons _ _)

lemma Items.ends {cs rest : List Char} : Items cs rest → Ends cs rest
  | .last first gap => first.ends.andThen (.inr (gap.closed rfl))
  | .more first comma gap items =>
    first.ends.andThen (.inr ((comma.closed rfl).andThen (.inr (items.ends.mono gap.suffix))))

lemma Members.ends {cs rest : List Char} : Members cs rest → Ends cs rest
  | .last first gap => first.ends.andThen (.inr (gap.closed rfl))
  | .more first comma gap members =>
    first.ends.andThen (.inr ((comma.closed rfl).andThen (.inr (members.ends.mono gap.suffix))))

lemma Member.ends {cs rest : List Char} : Member cs rest → Ends cs rest
  | .intro letters colon gap content =>
    (letters.ends.andThen (.inr ((colon.closed rfl).andThen
      (.inr (content.ends.mono gap.suffix))))).mono (List.suffix_cons _ _)

end

end Dialogue.Json.Grammar

namespace Dialogue.Json

open Text Reader Grammar

def IsDocument (cs : List Char) : Prop :=
  ∃ content rest, Gap cs content ∧ Value content rest ∧ Gap rest []

variable {s : String} {cs : List Char} {v : Json}

lemma IsDocument.edged (h : IsDocument cs) : Edged (strip cs) := by
  obtain ⟨content, rest, ahead, value, behind⟩ := h
  obtain ⟨before, rfl, hb⟩ := ahead.exists_margin
  obtain ⟨after, split, ha⟩ := behind.exists_margin
  obtain ⟨front, c, rfl, edge⟩ := value.ends
  obtain rfl : rest = after := by simpa using split
  have edged : Edged (front ++ [c]) := ⟨value.begins.of_append edge, front, c, rfl, edge⟩
  rw [List.append_cons, ← List.append_assoc, strip_margins hb ha, edged.strip_eq]
  exact edged

lemma isDocument_of_document [Limits] (h : document cs = .ok v) : IsDocument cs := by
  obtain ⟨⟨w, rest⟩, body, ends⟩ := bind_eq_ok.mp h
  have spent : skip rest = [] := by
    dsimp only at ends
    split at ends
    · assumption
    · cases ends
  exact ⟨skip cs, rest, gap_skip cs, (sound _).value body, spent ▸ gap_skip rest⟩

lemma isDocument_of_read [Limits] (h : read s = .ok v) : IsDocument s.toList := by
  unfold read at h
  split at h
  · next body => exact isDocument_of_document body
  all_goals cases h

end Dialogue.Json
