import Dialogue.Proofs.Json.Grammar
import Mathlib.Data.List.Infix

/-! What the reading of a text says about it. A value ends with an edge; a refusal for its size has its
cause in the text: a run of too many digits, or more opening brackets than may stand inside one
another. -/

namespace Dialogue.Json.Reader

open Text Decimal

variable {α β : Type} {depth fuel : Nat} {cs more rest left : List Char} {c : Char}

def opens (c : Char) : Bool := c == '[' || c == '\x7b'

lemma wholePart_eq_some {digits : List Char} (h : wholePart cs = some (digits, rest)) :
    digits <:+: cs ∧ digits.all isAsciiDigit = true := by
  unfold wholePart at h
  split at h
  · obtain ⟨rfl, rfl⟩ := Prod.mk.inj (Option.some.inj h)
    exact ⟨⟨[], _, rfl⟩, rfl⟩
  · split_ifs at h
    obtain ⟨rfl, rfl⟩ := Prod.mk.inj (Option.some.inj h)
    exact ⟨(List.takeWhile_prefix _).isInfix, List.all_takeWhile⟩

def HasLongNumber (cs : List Char) : Prop :=
  ∃ digits, digits <:+: cs ∧ digits.all isAsciiDigit = true ∧ digitLimit < digits.length

lemma HasLongNumber.mono (h : HasLongNumber cs) (inside : cs <:+: more) : HasLongNumber more := by
  obtain ⟨digits, within, all, many⟩ := h
  exact ⟨digits, within.trans inside, all, many⟩

/-- What the result of reading says about the text: a value ends in an edge before the rest, and a
refusal has its cause in the text. -/
def Grounded (depth : Nat) (cs : List Char) : Result (α × List Char) → Prop
  | .ok (_, rest) => Ends cs rest
  | .error (.malformed _) => True
  | .error (.tooManyDigits _) => HasLongNumber cs
  | .error (.tooDeep _) => depth < cs.countP opens

lemma Grounded.mono {r : Result (α × List Char)} (h : Grounded depth rest r)
    (suffix : rest <:+ cs) : Grounded depth cs r := by
  match r with
  | .ok (_, left) => exact Ends.mono h suffix
  | .error (.malformed _) => trivial
  | .error (.tooManyDigits _) => exact HasLongNumber.mono h suffix.isInfix
  | .error (.tooDeep _) => exact Nat.lt_of_lt_of_le h (suffix.sublist.countP_le)

lemma Grounded.past {r : Result (α × List Char)} (n : Nat) (h : Grounded depth (cs.drop n) r) :
    Grounded depth cs r :=
  h.mono (List.drop_suffix n cs)

lemma Grounded.onward {r : Result (α × List Char)} (h : Grounded depth (skip rest) r) :
    Grounded depth rest r :=
  h.mono (List.dropWhile_suffix _)

lemma Grounded.next {r : Result (α × List Char)} (h : Grounded depth rest r) :
    Grounded depth (c :: rest) r :=
  h.mono (List.suffix_cons _ _)

lemma Grounded.opened {r : Result (α × List Char)} (h : Grounded (depth - 1) rest r)
    (mark : opens c = true) (isObject : Bool) :
    Grounded depth (c :: rest) (if depth = 0 then .error (.tooDeep isObject) else r) := by
  have count : (c :: rest).countP opens = rest.countP opens + 1 := List.countP_cons_of_pos mark
  split_ifs with room
  · show depth < (c :: rest).countP opens
    omega
  · match r with
    | .ok _ => exact Ends.mono h (List.suffix_cons _ _)
    | .error (.malformed _) => trivial
    | .error (.tooManyDigits _) => exact HasLongNumber.mono h (List.suffix_cons c rest).isInfix
    | .error (.tooDeep _) =>
      have deep : depth - 1 < rest.countP opens := h
      show depth < (c :: rest).countP opens
      omega

lemma Grounded.map {x : Result (α × List Char)} (h : Grounded depth cs x) (f : α → β) :
    Grounded depth cs (x >>= fun p => pure (f p.1, p.2)) := by
  match x with
  | .ok (a, rest) => exact h
  | .error (.malformed _) => trivial
  | .error (.tooManyDigits _) => exact h
  | .error (.tooDeep _) => exact h

lemma Grounded.bind {x : Result (α × List Char)} {f : α × List Char → Result (β × List Char)}
    (h : Grounded depth cs x) (hf : ∀ p : α × List Char, Grounded depth p.2 (f p)) :
    Grounded depth cs (x >>= f) := by
  match x with
  | .ok p => exact (hf p).mono (Ends.suffix h)
  | .error (.malformed _) => trivial
  | .error (.tooManyDigits _) => exact h
  | .error (.tooDeep _) => exact h

lemma grounded_stringBody (depth : Nat) (start done cs : List Char) :
    Grounded depth cs (stringBody start done cs) := by
  fun_induction stringBody start done cs with
  | case2 done rest => exact ⟨[], '"', rfl, rfl⟩
  | case6 _ _ _ _ _ _ _ _ _ _ _ _ _ _ _ _ _ ih => exact .past 12 ih
  | case7 _ _ _ _ _ _ _ _ _ _ _ _ _ _ _ _ _ ih => exact .past 6 ih
  | case8 _ _ _ _ _ _ _ _ _ _ _ _ _ _ ih => exact .past 6 ih
  | case10 _ _ _ _ _ _ _ _ _ _ ih => exact .past 6 ih
  | case12 _ _ _ _ _ _ _ _ ih => exact .past 2 ih
  | case15 _ _ _ _ _ _ _ _ _ _ ih => exact ih.next
  | case1 | case3 | case4 | case5 | case9 | case11 | case13 | case14 => trivial

lemma grounded_number (depth : Nat) (cs : List Char) : Grounded depth cs (number cs) := by
  unfold number
  split
  next negative body hb =>
    have suffix : body <:+ cs := by
      split at hb
      · obtain ⟨-, rfl⟩ := Prod.mk.inj hb
        exact List.suffix_cons _ _
      · obtain ⟨-, rfl⟩ := Prod.mk.inj hb
        exact List.suffix_rfl
    cases whole : wholePart body with
    | none => trivial
    | some p =>
      obtain ⟨digits, rest⟩ := p
      obtain ⟨inside, all⟩ := wholePart_eq_some whole
      have ends : Ends body rest := (Grammar.whole_of_wholePart whole).ends
      have onward : Ends cs (exponent (places rest).2).2 :=
        ((ends.andThen (Grammar.places_of_read rest).ends).andThen
          (Grammar.power_of_exponent _).ends).mono suffix
      dsimp only
      split
      · next _ _ _ after =>
        rw [after] at onward
        by_cases many : digitLimit < digits.length
        · rw [if_pos many]
          exact ⟨digits, inside.trans suffix.isInfix, all, many⟩
        · rw [if_neg many]
          exact onward
      · next _ after =>
        rw [after] at onward
        exact onward

lemma grounded_scalar (depth : Nat) (cs : List Char) : Grounded depth cs (scalar cs) := by
  unfold scalar
  split
  · exact ⟨['n', 'u', 'l'], 'l', rfl, rfl⟩
  · exact ⟨['t', 'r', 'u'], 'e', rfl, rfl⟩
  · exact ⟨['f', 'a', 'l', 's'], 'e', rfl, rfl⟩
  · exact ⟨['N', 'a'], 'N', rfl, rfl⟩
  · exact ⟨['I', 'n', 'f', 'i', 'n', 'i', 't'], 'y', rfl, rfl⟩
  · exact ⟨['-', 'I', 'n', 'f', 'i', 'n', 'i', 't'], 'y', rfl, rfl⟩
  · exact grounded_number depth _

lemma grounded (fuel : Nat) :
    (∀ depth cs, Grounded depth cs (value depth fuel cs)) ∧
    (∀ depth cs, Grounded depth cs (items depth fuel cs)) ∧
    ∀ depth fs cs, Grounded depth cs (members depth fuel fs cs) := by
  induction fuel with
  | zero => exact ⟨fun _ _ => trivial, fun _ _ => trivial, fun _ _ _ => trivial⟩
  | succ fuel ih =>
    obtain ⟨value_ih, items_ih, members_ih⟩ := ih
    refine ⟨?_, ?_, ?_⟩
    · intro depth cs
      rw [value.eq_def]
      dsimp only
      split
      · exact ((grounded_stringBody depth _ [] _).map fun s => Json.text (String.ofList s)).next
      · next rest =>
        refine Grounded.opened (.onward ?_) rfl false
        generalize skip rest = left
        split
        · exact ⟨[], ']', rfl, rfl⟩
        · exact (items_ih (depth - 1) left).map Json.list
      · next rest =>
        refine Grounded.opened (.onward ?_) rfl true
        generalize skip rest = left
        split
        · exact ⟨[], '\x7d', rfl, rfl⟩
        · exact (members_ih (depth - 1) [] left).map Json.object
      · exact grounded_scalar depth _
    · intro depth cs
      rw [items]
      refine (value_ih depth cs).bind fun p => .onward ?_
      dsimp only
      generalize skip p.2 = left
      split
      · exact ⟨[], ']', rfl, rfl⟩
      · next rest => exact ((items_ih depth _).onward.map fun vs => p.1 :: vs).next
      · trivial
    · intro depth fs cs
      rw [members.eq_def]
      dsimp only
      split
      · refine ((grounded_stringBody depth _ [] _).bind fun p => .onward ?_).next
        generalize skip p.2 = left
        split
        · refine Grounded.next ((value_ih depth _).onward.bind fun q => .onward ?_)
          generalize skip q.2 = left
          split
          · exact ⟨[], '\x7d', rfl, rfl⟩
          · exact (members_ih depth _ _).onward.next
          · trivial
        · trivial
      · trivial

end Dialogue.Json.Reader

namespace Dialogue.Json

open Text Reader

variable [Limits] {s : String}

lemma edged_of_read {v : Json} (h : read s = .ok v) : Edged (strip s.toList) :=
  (isDocument_of_read h).edged

lemma grounded_document (cs : List Char) {e : Fault} (h : document cs = .error e) :
    Grounded (α := Json) Limits.read cs (.error e) := by
  unfold document at h
  have whole := ((grounded (2 * cs.length + 2)).1 Limits.read (skip cs)).onward
  cases body : value Limits.read (2 * cs.length + 2) (skip cs) with
  | error e' =>
    simp only [body, bind, Except.bind, Except.error.injEq] at h
    rw [body, h] at whole
    exact whole
  | ok p =>
    simp only [body, bind, Except.bind] at h
    split at h
    · cases h
    · cases h
      trivial

lemma longNumber_of_read {n : Nat} (h : read s = .error (.tooManyDigits n)) :
    HasLongNumber s.toList := by
  unfold read at h
  split at h
  · cases h
  · cases h
  · next body => exact grounded_document _ body
  · cases h

lemma deep_of_read {pass : Pass} (h : read s = .error (.tooDeep pass)) :
    Limits.read < s.toList.countP opens := by
  unfold read at h
  split at h
  · cases h
  · cases h
  · cases h
  · next body => exact grounded_document _ body

end Dialogue.Json
