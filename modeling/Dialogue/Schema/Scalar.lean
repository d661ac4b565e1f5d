import Dialogue.Decimal.Shortest
import Dialogue.Json.Value
import Dialogue.Decimal.Read
import Dialogue.Schema.Checked
import Dialogue.Text.Blank

/-!
Scalars of structured data. Texts are taken as they are; numbers, booleans and whole numbers are
also read from texts and from one another where nothing is lost.
-/

namespace Dialogue.Schema

open Dialogue.Text

abbrev Decoder (α : Type) := Json → Checked α

def text : Decoder String
  | .text s => .ok s
  | _ => .fail .notText

def nullable {α : Type} (d : Decoder α) : Decoder (Option α)
  | .null => .ok none
  | v => (d v).map some

def among (options : List String) : Decoder String
  | .text s => if options.contains s then .ok s else .fail (.notAmong options)
  | _ => .fail (.notAmong options)

def items {α : Type} (d : Decoder α) : Decoder (List α)
  | .list vs => .all (vs.zipIdx.map fun (v, i) => (d v).under (.index i))
  | _ => .fail .notList

def isMargin (c : Char) : Bool := isBlank c && !(28 ≤ c.toNat && c.toNat ≤ 31)

def trimMargin (cs : List Char) : List Char :=
  ((cs.dropWhile isMargin).reverse.dropWhile isMargin).reverse

def withoutUnderscores? (cs : List Char) : Option (List Char) :=
  if cs.head? == some '_' || cs.getLast? == some '_' || occursIn ['_', '_'] cs then none
  else some (cs.filter (· != '_'))

def numberText? (s : String) : Option Float :=
  match Decimal.number? (trimMargin s.toList) with
  | some x => some x
  | none => (withoutUnderscores? s.toList).bind fun cs => Decimal.number? (trimMargin cs)

def number : Decoder Float
  | .real x => .ok x
  | .whole n => match Decimal.ofInt? n with
    | some x => .ok x
    | none => .fail .notNumber
  | .bool b => .ok (if b then 1.0 else 0.0)
  | .text s => match numberText? s with
    | some x => .ok x
    | none => .fail .unreadableNumber
  | _ => .fail .notNumber

def wholeValue? (x : Float) : Option Int :=
  if x.isNaN || x.isInf then none
  else match Decimal.ofBits x.toBits.toNat with
    | (_, none) => some 0
    | (negative, some b) =>
      let size := if 0 ≤ b.exponent then some (b.mantissa * Nat.pow 2 b.exponent.toNat)
        else if b.mantissa % Nat.pow 2 (-b.exponent).toNat = 0 then
          some (b.mantissa / Nat.pow 2 (-b.exponent).toNat)
        else none
      size.map fun n => if negative then -Int.ofNat n else Int.ofNat n

def truthOfInt (n : Int) : Checked Bool :=
  if n = 0 then .ok false
  else if n = 1 then .ok true
  else if (Decimal.ofInt? n).isSome then .fail .unreadableBoolean
  else .fail .notBoolean

def truthOfWord (s : String) : Checked Bool :=
  let word := String.ofList (s.toList.map Decimal.asciiLower)
  if ["0", "off", "f", "false", "n", "no"].contains word then .ok false
  else if ["1", "on", "t", "true", "y", "yes"].contains word then .ok true
  else .fail .unreadableBoolean

def boolean : Decoder Bool
  | .bool b => .ok b
  | .whole n => truthOfInt n
  | .real x => match wholeValue? x with
    | some n => truthOfInt n
    | none => .fail .notBoolean
  | .text s => truthOfWord s
  | _ => .fail .notBoolean

def integerText? (s : String) : Option Int :=
  let (negative, body) := Decimal.takeSign (trimMargin s.toList)
  let whole := body.takeWhile (· != '.')
  let fraction := (body.dropWhile (· != '.')).drop 1
  match withoutUnderscores? whole with
  | some digits =>
    if !digits.isEmpty && digits.all Decimal.isAsciiDigit && fraction.all (· == '0') then
      let n := Int.ofNat (digitsValue digits)
      some (if negative then -n else n)
    else none
  | none => none

def integer : Decoder Int
  | .whole n => .ok n
  | .bool b => .ok (if b then 1 else 0)
  | .real x => match wholeValue? x with
    | some n => .ok n
    | none => .fail (if x.isNaN || x.isInf then .notFinite else .fractional)
  | .text s => match integerText? s with
    | some n => .ok n
    | none => .fail .unreadableInteger
  | _ => .fail .notInteger

end Dialogue.Schema
