import Dialogue.Text.Percent
import Mathlib.Tactic.Common

/-! Percent-encoding writes a text with unreserved characters and escapes only, and decoding gives
the text back. -/

namespace Dialogue.Text.Percent

variable {c : Char} {cs rest : List Char}

def isUnreserved (c : Char) : Bool := c.isAlphanum || ['_', '.', '-', '~'].contains c

def isUpperHex (c : Char) : Bool := c.isDigit || ('A' ≤ c && c ≤ 'F')

inductive Escaped : List Char → Prop
  | nil : Escaped []
  | plain {c : Char} {rest : List Char} : isUnreserved c = true → Escaped rest → Escaped (c :: rest)
  | escape {high low : Char} {rest : List Char} : isUpperHex high = true → isUpperHex low = true →
      Escaped rest → Escaped ('%' :: high :: low :: rest)

lemma Escaped.notMem (h : Escaped cs) (reserved : isUnreserved c = false) (sign : c ≠ '%')
    (digit : isUpperHex c = false) : c ∉ cs := by
  have other {d : Char} {p : Char → Bool} (hd : p d = true) (hc : p c = false) : c ≠ d := by
    rintro rfl
    exact Bool.false_ne_true (hc.symm.trans hd)
  induction h with
  | nil => exact List.not_mem_nil
  | plain unreserved _ ih => simp [other unreserved reserved, ih]
  | escape high low _ ih => simp [sign, other high digit, other low digit, ih]

lemma isUpperHex_hexDigitUpper : ∀ n < 16, isUpperHex (hexDigitUpper n) = true := by decide

lemma spec_of_isPlain {b : UInt8} (h : isPlain b = true) :
    isUnreserved (Char.ofNat b.toNat) = true ∧ Char.ofNat b.toNat ≠ '%' ∧
      String.utf8EncodeChar (Char.ofNat b.toNat) = [b] := by
  have each : ∀ n < 256, isPlain (UInt8.ofNat n) = true → isUnreserved (Char.ofNat n) = true ∧
      Char.ofNat n ≠ '%' ∧ String.utf8EncodeChar (Char.ofNat n) = [UInt8.ofNat n] := by
    decide +kernel
  have spec := each b.toNat b.toNat_lt
  rw [UInt8.ofNat_toNat] at spec
  exact spec h

lemma high_lt (b : UInt8) : b.toNat / 16 < 16 := by
  have := b.toNat_lt
  omega

lemma low_lt (b : UInt8) : b.toNat % 16 < 16 := Nat.mod_lt _ (by decide)

lemma escaped_encodeByte_append (b : UInt8) (h : Escaped rest) :
    Escaped (encodeByte b ++ rest) := by
  unfold encodeByte
  split_ifs with plain
  · exact .plain (spec_of_isPlain plain).1 h
  · exact .escape (isUpperHex_hexDigitUpper _ (high_lt b)) (isUpperHex_hexDigitUpper _ (low_lt b)) h

lemma escaped_encode (cs : List Char) : Escaped (encode cs) := by
  rw [encode]
  induction cs.flatMap String.utf8EncodeChar with
  | nil => exact .nil
  | cons b bs ih => exact escaped_encodeByte_append b ih

lemma encode_cons (c : Char) (rest : List Char) :
    encode (c :: rest) = encode [c] ++ encode rest := by
  simp [encode]

lemma encode_eq_self (plain : ∀ c ∈ cs, encode [c] = [c]) : encode cs = cs := by
  induction cs with
  | nil => rfl
  | cons c rest ih =>
    rw [encode_cons, plain c (by simp), ih fun d hd => plain d (List.mem_cons_of_mem c hd)]
    rfl

lemma encode_ne_nil (h : cs ≠ []) : encode cs ≠ [] := by
  obtain ⟨c, rest, rfl⟩ := List.exists_cons_of_ne_nil h
  obtain ⟨b, bs, bytes⟩ := List.exists_cons_of_ne_nil (String.utf8EncodeChar_ne_nil (c := c))
  rw [encode, List.flatMap_cons, bytes, List.cons_append, List.flatMap_cons, encodeByte]
  split_ifs <;> simp

lemma bytes_cons (h : c ≠ '%') (rest : List Char) :
    bytes (c :: rest) = String.utf8EncodeChar c ++ bytes rest := by
  rw [bytes]
  exact fun _ _ _ sign _ => h sign

lemma bytes_encodeByte_append (b : UInt8) (rest : List Char) :
    bytes (encodeByte b ++ rest) = b :: bytes rest := by
  unfold encodeByte
  split_ifs with plain
  · obtain ⟨-, sign, byte⟩ := spec_of_isPlain plain
    rw [List.singleton_append, bytes_cons sign, byte, List.singleton_append]
  · rw [List.cons_append, List.cons_append, List.singleton_append, bytes,
      hexValue_hexDigitUpper _ (high_lt b), hexValue_hexDigitUpper _ (low_lt b)]
    dsimp only
    rw [Nat.div_add_mod, UInt8.ofNat_toNat]

lemma bytes_encode (cs : List Char) : bytes (encode cs) = cs.flatMap String.utf8EncodeChar := by
  rw [encode]
  induction cs.flatMap String.utf8EncodeChar with
  | nil => rfl
  | cons b bs ih => rw [List.flatMap_cons, bytes_encodeByte_append, ih]

lemma bytes_of_unescaped (h : '%' ∉ cs) : bytes cs = cs.flatMap String.utf8EncodeChar := by
  induction cs with
  | nil => rfl
  | cons c rest ih =>
    rw [List.mem_cons, not_or] at h
    rw [bytes_cons (Ne.symm h.1), ih h.2, List.flatMap_cons]

lemma textOfBytes_utf8 (cs : List Char) :
    textOfBytes (cs.flatMap String.utf8EncodeChar) = String.ofList cs := by
  have encoded : ByteArray.mk (cs.flatMap String.utf8EncodeChar).toArray =
      (String.ofList cs).toByteArray := by
    rw [String.toByteArray_ofList, List.utf8Encode, ByteArray.ext_iff, List.data_toByteArray]
  rw [textOfBytes, encoded, String.fromUTF8?, dif_pos (String.ofList cs).isValidUTF8]
  rfl

lemma decode_encode (cs : List Char) : decode (String.ofList (encode cs)) = String.ofList cs := by
  rw [decode, String.toList_ofList, bytes_encode, textOfBytes_utf8]

lemma decode_of_unescaped (h : '%' ∉ cs) : decode (String.ofList cs) = String.ofList cs := by
  rw [decode, String.toList_ofList, bytes_of_unescaped h, textOfBytes_utf8]

lemma encode_eq_self_of_unescaped (h : '%' ∉ encode cs) : encode cs = cs :=
  String.ofList_injective ((decode_of_unescaped h).symm.trans (decode_encode cs))

end Dialogue.Text.Percent
