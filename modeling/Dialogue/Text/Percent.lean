import Dialogue.Text.Digit

/-!
Percent-encoding of a text as UTF-8. Letters, digits and `_.-~` stand for themselves; every other
byte is written as a percent sign and two upper-case hexadecimal digits.
-/

namespace Dialogue.Text.Percent

def isPlain (b : UInt8) : Bool :=
  let n := b.toNat
  (48 ≤ n && n ≤ 57) || (65 ≤ n && n ≤ 90) || (97 ≤ n && n ≤ 122) ||
    n == 95 || n == 46 || n == 45 || n == 126

def encodeByte (b : UInt8) : List Char :=
  if isPlain b then [Char.ofNat b.toNat]
  else ['%', hexDigitUpper (b.toNat / 16), hexDigitUpper (b.toNat % 16)]

def encode (cs : List Char) : List Char :=
  (cs.flatMap String.utf8EncodeChar).flatMap encodeByte

def bytes : List Char → List UInt8
  | '%' :: a :: b :: rest =>
    match hexValue a, hexValue b with
    | some x, some y => UInt8.ofNat (16 * x + y) :: bytes rest
    | _, _ => String.utf8EncodeChar '%' ++ bytes (a :: b :: rest)
  | c :: rest => String.utf8EncodeChar c ++ bytes rest
  | [] => []

structure Partial where
  value : Nat
  low : Nat
  high : Nat
  more : Nat

def Partial.ofLead? (b : Nat) : Option Partial :=
  if b < 0xC2 then none
  else if b < 0xE0 then some ⟨b % 32, 0x80, 0xBF, 0⟩
  else if b = 0xE0 then some ⟨b % 16, 0xA0, 0xBF, 1⟩
  else if b = 0xED then some ⟨b % 16, 0x80, 0x9F, 1⟩
  else if b < 0xF0 then some ⟨b % 16, 0x80, 0xBF, 1⟩
  else if b = 0xF0 then some ⟨b % 8, 0x90, 0xBF, 2⟩
  else if b < 0xF4 then some ⟨b % 8, 0x80, 0xBF, 2⟩
  else if b = 0xF4 then some ⟨b % 8, 0x80, 0x8F, 2⟩
  else none

def lead (b : Nat) : List Char × Option Partial :=
  if b < 0x80 then ([Char.ofNat b], none)
  else match Partial.ofLead? b with
    | some p => ([], some p)
    | none => (['\uFFFD'], none)

def follow (p : Partial) (b : Nat) : List Char × Option Partial :=
  if p.low ≤ b && b ≤ p.high then
    let value := 64 * p.value + b % 64
    if p.more = 0 then ([Char.ofNat value], none) else ([], some ⟨value, 0x80, 0xBF, p.more - 1⟩)
  else
    let (cs, next) := lead b
    ('\uFFFD' :: cs, next)

def repaired : Option Partial → List UInt8 → List Char
  | none, [] => []
  | some _, [] => ['\uFFFD']
  | none, b :: rest =>
    let (cs, next) := lead b.toNat
    cs ++ repaired next rest
  | some p, b :: rest =>
    let (cs, next) := follow p b.toNat
    cs ++ repaired next rest

def textOfBytes (bs : List UInt8) : String :=
  match String.fromUTF8? (ByteArray.mk bs.toArray) with
  | some s => s
  | none => String.ofList (repaired none bs)

def decode (s : String) : String := textOfBytes (bytes s.toList)

end Dialogue.Text.Percent
