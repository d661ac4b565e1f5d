import Dialogue.Text.Digit
import Dialogue.Text.Search

/-!
Doubles from decimal text. The value is the double nearest to the decimal; magnitudes outside the
range of doubles become infinite or zero before any large power is formed. Doubles stand for shares,
from zero to one, and for times in seconds, which are kept as whole microseconds: a timer set for a
while from now is due at the nearest one, a half going to the even one.
-/

namespace Dialogue.Decimal

open Dialogue.Text

def nearest (digits : Nat) (exponent : Int) : Float :=
  if digits = 0 then 0.0
  else
    let top := Int.ofNat (toString digits).length + exponent
    if 400 < top then 1.0 / 0.0
    else if top < -400 then 0.0
    else if exponent < 0 then Float.ofScientific digits true exponent.natAbs
    else Float.ofScientific digits false exponent.natAbs

def signed (negative : Bool) (x : Float) : Float := if negative then -x else x

def ofInt? (n : Int) : Option Float :=
  let x := signed (n < 0) (nearest n.natAbs 0)
  if x.isInf then none else some x

def isAsciiDigit (c : Char) : Bool := '0' ≤ c && c ≤ '9'

def takeSign : List Char → Bool × List Char
  | '-' :: rest => (true, rest)
  | '+' :: rest => (false, rest)
  | cs => (false, cs)

def exponent? : List Char → Option Int
  | [] => some 0
  | c :: rest =>
    if c = 'e' || c = 'E' then
      let (negative, digits) := takeSign rest
      if !digits.isEmpty && digits.all isAsciiDigit then
        some (if negative then -Int.ofNat (digitsValue digits) else Int.ofNat (digitsValue digits))
      else none
    else none

def unsigned? (cs : List Char) : Option Float :=
  let whole := cs.takeWhile isAsciiDigit
  let (places, rest) := match cs.dropWhile isAsciiDigit with
    | '.' :: rest => (rest.takeWhile isAsciiDigit, rest.dropWhile isAsciiDigit)
    | rest => ([], rest)
  if whole.isEmpty && places.isEmpty then none
  else (exponent? rest).map fun e => nearest (digitsValue (whole ++ places)) (e - places.length)

def asciiLower (c : Char) : Char := c.toLower

def number? (cs : List Char) : Option Float :=
  let (negative, body) := takeSign cs
  let word := String.ofList (body.map asciiLower)
  if word = "inf" || word = "infinity" then some (signed negative (1.0 / 0.0))
  else if word = "nan" then some (0.0 / 0.0)
  else (unsigned? body).map (signed negative)

end Dialogue.Decimal

namespace Dialogue

/-- The nearest value from zero to one; what is no number stays as it is. -/
def Share.clamp (x : Float) : Float :=
  let y := if 0.0 > x then 0.0 else x
  if 1.0 < y then 1.0 else y

abbrev Micros := Nat

namespace Micros

def seconds (t : Micros) : Float := Float.ofNat t / 1000000.0

def roundEven (x : Float) : Nat :=
  let n := x.toUInt64.toNat
  let rest := x - Float.ofNat n
  if rest > 0.5 || (rest == 0.5 && n % 2 = 1) then n + 1 else n

def after (now : Micros) (delay : Float) : Micros :=
  if delay > 0.0 then roundEven ((seconds now + delay) * 1000000.0) else now

end Micros

end Dialogue
