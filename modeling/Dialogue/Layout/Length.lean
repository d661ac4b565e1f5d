import Dialogue.Decimal.Read

/-!
Lengths on the canvas. Placement is written over any kind of extent, so that it can be computed in doubles
and reasoned about in exact arithmetic. A length is whole as long as only whole lengths meet.
-/

namespace Dialogue.Layout

class Extent (α : Type) extends Add α, Sub α, Mul α where
  ofNat : Nat → α
  half : α → α

inductive Length where
  | whole (n : Int)
  | real (x : Float)

namespace Length

def toFloat : Length → Float
  | whole n => Decimal.signed (n < 0) (Decimal.nearest n.natAbs 0)
  | real x => x

def combine (exact : Int → Int → Int) (rounded : Float → Float → Float) : Length → Length → Length
  | whole m, whole n => whole (exact m n)
  | a, b => real (rounded a.toFloat b.toFloat)

def half : Length → Length
  | whole n => real (Decimal.signed (n < 0) (Decimal.nearest (5 * n.natAbs) (-1)))
  | real x => real (x / 2.0)

instance : Extent Length where
  add := combine (· + ·) (· + ·)
  sub := combine (· - ·) (· - ·)
  mul := combine (· * ·) (· * ·)
  ofNat n := whole n
  half := half

end Length

end Dialogue.Layout
