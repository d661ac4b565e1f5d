import Dialogue.Decimal.Shortest

/-!
Decimal notation of doubles: the shortest digits, written positionally for exponents from -4 to 15
and with an exponent of at least two digits otherwise. A whole value keeps one place, as in `1.0`.
-/

namespace Dialogue.Decimal

def zeroes (n : Nat) : String := String.ofList (List.replicate n '0')

def exponentText (e : Int) : String :=
  let digits := toString e.natAbs
  (if e < 0 then "e-" else "e+") ++ (if digits.length < 2 then "0" ++ digits else digits)

def positional (digits : List Char) (point : Int) : String :=
  if point ≤ 0 then "0." ++ zeroes (-point).toNat ++ String.ofList digits
  else if digits.length ≤ point.toNat then
    String.ofList digits ++ zeroes (point.toNat - digits.length) ++ ".0"
  else
    String.ofList (digits.take point.toNat) ++ "." ++ String.ofList (digits.drop point.toNat)

def scientific (digits : List Char) (exponent : Int) : String :=
  String.ofList (digits.take 1) ++
    (if digits.length ≤ 1 then "" else "." ++ String.ofList (digits.drop 1)) ++
    exponentText exponent

def Scaled.text (s : Scaled) : String :=
  let digits := (toString s.digits).toList
  let point := digits.length + s.scale
  if -4 < point && point ≤ 16 then positional digits point else scientific digits (point - 1)

structure Words where
  notANumber : String
  infinity : String

def text (words : Words) (x : Float) : String :=
  if x.isNaN then words.notANumber
  else
    let (negative, magnitude) := ofBits x.toBits.toNat
    let body :=
      if x.isInf then words.infinity
      else match magnitude with
        | none => "0.0"
        | some b => b.shortest.text
    if negative then "-" ++ body else body

end Dialogue.Decimal
