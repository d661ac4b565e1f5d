import Dialogue.Json.Reader
import Dialogue.Json.Writer
import Mathlib.Data.List.Basic

/-! Reading what was written. An escape gives its character back whatever follows it, and so a text
comes back, alone or as the only field of an object. -/

namespace Dialogue.Json.Reader

open Text

variable {rest start done tail : List Char} {c e : Char} {n : Nat}

lemma unit?_hex (h : n < 65536) : ∃ a b c d, hex 4 n = [a, b, c, d] ∧ unit? a b c d = some n := by
  refine ⟨_, _, _, _, rfl, ?_⟩
  have value (m : Nat) : hexValue (hexDigit (m % 16)) = some (m % 16) :=
    hexValue_hexDigit _ (Nat.mod_lt _ (by decide))
  simp only [unit?, value, Option.bind_eq_bind, Option.bind_some, Option.pure_def,
    Option.some.injEq]
  omega

lemma stringBody_unit (h : n < 65536) (single : isHighUnit n = false) :
    stringBody start done ('\\' :: 'u' :: hex 4 n ++ e :: tail) =
      stringBody start (ofUnit n :: done) (e :: tail) := by
  obtain ⟨a, b, c, d, written, read⟩ := unit?_hex h
  rw [written]
  by_cases pair : ∃ a' b' c' d' e' rest, e = '\\' ∧
      tail = 'u' :: a' :: b' :: c' :: d' :: e' :: rest
  · obtain ⟨a', b', c', d', e', rest, rfl, rfl⟩ := pair
    simp [stringBody, read, single]
  · have alone : ∀ a' b' c' d' e' rest, e = '\\' →
        tail = 'u' :: a' :: b' :: c' :: d' :: e' :: rest → False :=
      fun a' b' c' d' e' rest he ht => pair ⟨a', b', c', d', e', rest, he, ht⟩
    simp only [List.cons_append, List.nil_append]
    rw [stringBody]
    · simp only [read]
    · exact alone

lemma stringBody_pair {m : Nat} (hn : n < 65536) (hm : m < 65536) (high : isHighUnit n = true)
    (low : isLowUnit m = true) :
    stringBody start done ('\\' :: 'u' :: hex 4 n ++ ('\\' :: 'u' :: hex 4 m ++ e :: tail)) =
      stringBody start (ofPair n m :: done) (e :: tail) := by
  obtain ⟨a, b, c, d, written, read⟩ := unit?_hex hn
  obtain ⟨a', b', c', d', written', read'⟩ := unit?_hex hm
  simp [written, written', stringBody, read, read', high, low]

lemma ofPair_halves (h : 0x10000 ≤ c.toNat) :
    ofPair (0xD800 + (c.toNat - 0x10000) / 1024) (0xDC00 + (c.toNat - 0x10000) % 1024) = c := by
  have whole : 0x10000 + (0xD800 + (c.toNat - 0x10000) / 1024 - 0xD800) * 1024 +
      (0xDC00 + (c.toNat - 0x10000) % 1024 - 0xDC00) = c.toNat := by omega
  rw [ofPair, whole, Char.ofNat_toNat]

lemma stringBody_unitEscape :
    stringBody start done (unitEscape c ++ e :: tail) = stringBody start (c :: done) (e :: tail) := by
  have valid : c.toNat < 0xD800 ∨ 0xDFFF < c.toNat ∧ c.toNat < 0x110000 := c.valid
  unfold unitEscape
  dsimp only
  split_ifs with plane
  · have single : isHighUnit c.toNat = false ∧ isLowUnit c.toNat = false := by
      simp only [isHighUnit, isLowUnit, Bool.and_eq_false_iff, decide_eq_false_iff_not]
      omega
    rw [stringBody_unit plane single.1]
    simp [ofUnit, single, Char.ofNat_toNat]
  · have high : isHighUnit (0xD800 + (c.toNat - 0x10000) / 1024) = true := by
      simp only [isHighUnit, decide_eq_true_eq, Bool.and_eq_true]
      omega
    have low : isLowUnit (0xDC00 + (c.toNat - 0x10000) % 1024) = true := by
      simp only [isLowUnit, decide_eq_true_eq, Bool.and_eq_true]
      omega
    rw [List.append_assoc, stringBody_pair (by omega) (by omega) high low, ofPair_halves (by omega)]

lemma stringBody_escaped :
    stringBody start done (escaped c ++ e :: tail) = stringBody start (c :: done) (e :: tail) := by
  unfold escaped
  split_ifs with h1 h2 h3 h4 h5 h6 h7 h8
  · simp [h1, stringBody, simpleEscape]
  · simp [h2, stringBody, simpleEscape]
  · simp [h3, stringBody, simpleEscape]
  · simp [h4, stringBody, simpleEscape]
  · simp [h5, stringBody, simpleEscape]
  · simp [h6, stringBody, simpleEscape]
  · simp [h7, stringBody, simpleEscape]
  · have printed : ¬ c.toNat < 32 := by
      have range := Bool.and_eq_true_iff.mp h8
      exact Nat.not_lt.mpr (of_decide_eq_true range.1)
    simp [h2, stringBody, printed]
  · exact stringBody_unitEscape

lemma stringBody_written (cs : List Char) :
    stringBody start done (cs.flatMap escaped ++ '"' :: rest) = .ok (done.reverse ++ cs, rest) := by
  induction cs generalizing done with
  | nil => simp [stringBody]
  | cons c cs ih =>
    have more : ∃ e tail, cs.flatMap escaped ++ '"' :: rest = e :: tail :=
      List.exists_cons_of_ne_nil (by simp)
    obtain ⟨e, tail, split⟩ := more
    rw [List.flatMap_cons, List.append_assoc, split, stringBody_escaped, ← split, ih]
    simp

end Dialogue.Json.Reader

namespace Dialogue.Json

open Reader

def fieldText (key s : String) : List Char :=
  '"' :: (key.toList.flatMap Json.escaped ++
    '"' :: ':' :: ' ' :: '"' :: (s.toList.flatMap Json.escaped ++ ['"', '\x7d']))

lemma write_field (key s : String) :
    (write spaced (.object [(key, .text s)])).toList = '\x7b' :: fieldText key s := by
  simp [write, writeFields, stringText, spaced, fieldText]

lemma members_fieldText (depth fuel : Nat) (key s : String) :
    members depth (fuel + 2) [] (fieldText key s) = .ok ([(key, .text s)], []) := by
  have colon (cs : List Char) : skip (':' :: cs) = ':' :: cs := rfl
  have quote (cs : List Char) : skip (' ' :: '"' :: cs) = '"' :: cs := rfl
  have closed : skip ['\x7d'] = ['\x7d'] := rfl
  have read : value depth (fuel + 1) ('"' :: (s.toList.flatMap Json.escaped ++ ['"', '\x7d'])) =
      .ok (.text s, ['\x7d']) := by
    rw [value, stringBody_written]
    simp
  rw [fieldText, members, stringBody_written]
  simp [bind, Except.bind, pure, Except.pure, colon, quote, read, closed, Fields.set]

lemma read_written_field [Limits] (key s : String) :
    read (write spaced (.object [(key, .text s)])) = .ok (.object [(key, .text s)]) := by
  have front : skip ('\x7b' :: fieldText key s) = '\x7b' :: fieldText key s := rfl
  have quote : skip (fieldText key s) = fieldText key s := rfl
  have room : ∃ fuel, 2 * ('\x7b' :: fieldText key s).length + 2 = fuel + 3 := ⟨_, rfl⟩
  obtain ⟨fuel, hfuel⟩ := room
  have body : value Limits.read (fuel + 3) ('\x7b' :: fieldText key s) =
      .ok (.object [(key, .text s)], []) := by
    have read : members (Limits.read - 1) (fuel + 2) [] (fieldText key s) = _ :=
      members_fieldText _ _ key s
    rw [value, quote, if_neg (Nat.pos_iff_ne_zero.mp Limits.read_pos)]
    show (members (Limits.read - 1) (fuel + 2) [] (fieldText key s) >>=
      fun p => pure (Json.object p.1, p.2)) = _
    rw [read]
    rfl
  rw [read, write_field, document, front, hfuel, body]
  rfl

end Dialogue.Json
