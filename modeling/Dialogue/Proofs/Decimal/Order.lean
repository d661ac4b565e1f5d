import Dialogue.Decimal.Read
import Mathlib

/-!
The order of doubles. Any two numbers compare, so the nearest share of a number lies from zero to
one; what is no number compares with nothing, and clamping leaves it so.
-/

namespace Dialogue.Decimal

open Float.Model

theorem compare_swap (a b : UnpackedFloat) : b.compare a = (a.compare b).map Ordering.swap := by
  cases a with
  | notANumber => cases b <;> rfl
  | infinity s => cases b with
    | infinity t => cases s <;> cases t <;> rfl
    | _ => cases s <;> rfl
  | zero s => cases b with
    | infinity t | finite t => cases t <;> rfl
    | _ => rfl
  | finite s m e h => cases b with
    | notANumber => rfl
    | infinity t => cases t <;> rfl
    | zero t => cases s <;> rfl
    | finite t n f k =>
      have he : compare f e = (compare e f).swap := Std.OrientedOrd.eq_swap
      have hm : compare n m = (compare m n).swap := Std.OrientedOrd.eq_swap
      cases s <;> cases t <;>
        simp [UnpackedFloat.compare, he, hm, Ordering.swap_then]

theorem compare_isSome (a b : UnpackedFloat) :
    (a.compare b).isSome = (!a.isNaN && !b.isNaN) := by
  cases a with
  | notANumber => cases b <;> rfl
  | infinity s | zero s | finite s => cases b with
    | notANumber => cases s <;> rfl
    | infinity t | zero t | finite t => cases s <;> cases t <;> rfl

theorem le_iff (x y : Float) :
    x ≤ y ↔ (x.toModel.unpack.compare y.toModel.unpack).any (·.isLE) = true :=
  decide_eq_true_iff (p := x.toModel.unpack.le y.toModel.unpack = true)

theorem lt_iff (x y : Float) :
    x < y ↔ x.toModel.unpack.compare y.toModel.unpack = some .lt :=
  (decide_eq_true_iff (p := x.toModel.unpack.lt y.toModel.unpack = true)).trans beq_iff_eq

theorem beq_iff (x y : Float) :
    (x == y) = true ↔ x.toModel.unpack.compare y.toModel.unpack = some .eq :=
  beq_iff_eq (a := x.toModel.unpack.compare y.toModel.unpack)

theorem compared_iff (x y : Float) :
    (x.toModel.unpack.compare y.toModel.unpack).isSome ↔ x.isNaN = false ∧ y.isNaN = false := by
  rw [compare_isSome, Bool.and_eq_true, Bool.not_eq_true', Bool.not_eq_true']
  rfl

theorem le_of_not_below {x y : Float} (hx : x.isNaN = false) (hy : y.isNaN = false)
    (h : ¬ y < x) : x ≤ y := by
  obtain ⟨o, ho⟩ := Option.isSome_iff_exists.1 ((compared_iff x y).2 ⟨hx, hy⟩)
  rw [lt_iff, compare_swap x.toModel.unpack, ho] at h
  rw [le_iff, ho]
  cases o <;> simp_all

theorem numbers_of_le {x y : Float} (h : x ≤ y) : x.isNaN = false ∧ y.isNaN = false := by
  rw [le_iff, Option.any_eq_true] at h
  obtain ⟨o, ho, _⟩ := h
  exact (compared_iff x y).1 (by rw [ho]; rfl)

theorem numbers_of_lt {x y : Float} (h : x < y) : x.isNaN = false ∧ y.isNaN = false :=
  (compared_iff x y).1 (by rw [(lt_iff x y).1 h]; rfl)

theorem numbers_of_beq {x y : Float} (h : (x == y) = true) :
    x.isNaN = false ∧ y.isNaN = false :=
  (compared_iff x y).1 (by rw [(beq_iff x y).1 h]; rfl)

end Dialogue.Decimal

namespace Dialogue.Share

open Decimal

def IsShare (x : Float) : Prop := 0.0 ≤ x ∧ x ≤ 1.0

instance (x : Float) : Decidable (IsShare x) := inferInstanceAs (Decidable (_ ∧ _))

theorem isShare_zero : IsShare 0.0 := by decide

theorem isShare_one : IsShare 1.0 := by decide

theorem clamp_of_isNaN {x : Float} (hx : x.isNaN = true) : clamp x = x := by
  have low : ¬ x < 0.0 := fun h => Bool.false_ne_true ((numbers_of_lt h).1.symm.trans hx)
  have high : ¬ 1.0 < x := fun h => Bool.false_ne_true ((numbers_of_lt h).2.symm.trans hx)
  simp only [clamp, gt_iff_lt, if_neg low, if_neg high]

theorem isShare_clamp {x : Float} (hx : x.isNaN = false) : IsShare (clamp x) := by
  simp only [clamp, gt_iff_lt]
  by_cases low : x < 0.0
  · rw [if_pos low, if_neg (by decide)]
    exact isShare_zero
  · rw [if_neg low]
    split
    · exact isShare_one
    · next high =>
      exact ⟨le_of_not_below (by decide) hx low, le_of_not_below hx (by decide) high⟩

end Dialogue.Share
