/-!
The shortest decimal of a double: the decimal with the fewest digits among those that round to the
double, and of several the nearest. A finite double is `mantissa * 2 ^ exponent`; all tests are made
in exact natural numbers.
-/

namespace Dialogue.Decimal

structure Binary where
  mantissa : Nat
  exponent : Int
  narrow : Bool

structure Scaled where
  digits : Nat
  scale : Int
deriving DecidableEq

def ratio (e k : Int) : Nat × Nat :=
  (Nat.pow 2 e.toNat * Nat.pow 10 (-k).toNat, Nat.pow 2 (-e).toNat * Nat.pow 10 k.toNat)

namespace Binary

/-- A multiple `d` of the grid rounds to the double: four times its distance to the double stays
within half a unit, or a quarter below a narrow one, and the ends count for an even mantissa. -/
def admits (b : Binary) (num den d : Nat) : Bool :=
  let point := 4 * d * den
  let low := (4 * b.mantissa - if b.narrow then 1 else 2) * num
  let high := (4 * b.mantissa + 2) * num
  if b.mantissa % 2 = 0 then low ≤ point && point ≤ high else low < point && point < high

def onGrid (b : Binary) (k : Int) : Option Scaled :=
  let (num, den) := ratio b.exponent k
  let value := b.mantissa * num
  let d := value / den
  let below := value - d * den
  let above := (d + 1) * den - value
  match b.admits num den d, b.admits num den (d + 1) with
  | true, true =>
    some ⟨if below < above || below = above && d % 2 = 0 then d else d + 1, k⟩
  | true, false => some ⟨d, k⟩
  | false, true => some ⟨d + 1, k⟩
  | false, false => none

def coarsest (b : Binary) : Nat → Int → Scaled
  | 0, k => ⟨b.mantissa, k⟩
  | steps + 1, k => (b.onGrid k).getD (b.coarsest steps (k - 1))

def ceiling (b : Binary) : Int :=
  (Int.ofNat b.mantissa.log2 + b.exponent) * 30103 / 100000 + 2

def shortest (b : Binary) : Scaled := b.coarsest 21 b.ceiling

end Binary

def ofBits (bits : Nat) : Bool × Option Binary :=
  let field := bits / Nat.pow 2 52 % Nat.pow 2 11
  let fraction := bits % Nat.pow 2 52
  let negative := bits / Nat.pow 2 63 % 2 = 1
  if field = 0 then
    (negative, if fraction = 0 then none else some ⟨fraction, -1074, false⟩)
  else (negative, some ⟨Nat.pow 2 52 + fraction, Int.ofNat field - 1075, fraction = 0 && 1 < field⟩)

end Dialogue.Decimal
