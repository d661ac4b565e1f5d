import Dialogue.Decimal.Read
import Dialogue.Proofs.Decimal.Rounding

/-! The range of doubles: a whole number has a nearest double unless it lies half a unit or more
above the largest one, and that double is a number. -/

namespace Dialogue.Decimal

open Float.Model (Format UnpackedFloat totalExponent)
open Float.Model.UnpackedFloat

/-- The least whole number that rounds beyond every double: half a unit above the largest one. -/
def overflow : Nat := 2 ^ 1024 - 2 ^ 970

theorem le_rounded_whole {m : Nat} (hm : 0 < m) :
    2 ^ 52 ≤ roundedAt (m * 2 ^ 53) (m.log2 + 1) := by
  rw [even_le_roundedAt_iff (by decide)]
  have : 2 ^ 53 ≤ 2 * (m * 2 ^ 53) / 2 ^ (m.log2 + 1) := by
    rw [Nat.le_div_iff_mul_le (Nat.two_pow_pos _), Nat.pow_succ]
    have := Nat.log2_self_le hm.ne'
    omega
  omega

theorem carry_iff {m : Nat} :
    2 ^ 53 ≤ roundedAt (m * 2 ^ 53) 1024 ↔ overflow ≤ m := by
  have halved : 2 * (m * 2 ^ 53) / 2 ^ 1024 = m / 2 ^ 970 := by
    calc 2 * (m * 2 ^ 53) / 2 ^ 1024 = m * 2 ^ 54 / (2 ^ 970 * 2 ^ 54) := by
          rw [← Nat.pow_add, show 2 * (m * 2 ^ 53) = m * 2 ^ 54 by omega]
      _ = m / 2 ^ 970 := Nat.mul_div_mul_right _ _ (by decide)
  have bound : overflow = (2 ^ 54 - 1) * 2 ^ 970 := by decide +kernel
  rw [even_le_roundedAt_iff (by decide), halved, bound,
    ← Nat.le_div_iff_mul_le (Nat.two_pow_pos _)]
  omega

theorem isInf_round_whole {m : Nat} (hm : 0 < m) :
    (Float.Model.pack (roundWithAccuracy Format.binary64 .positive (m * 2 ^ 53) (-53)
      .exact)).unpack.isInf = true ↔ overflow ≤ m := by
  have t : max (((m * 2 ^ 53).log2 : Int) - 52 + -53) (-1074) = m.log2 - 52 := by
    rw [log2_mul_pow hm]
    omega
  have k : ((m.log2 : Int) - 52 - -53).toNat = m.log2 + 1 := by omega
  have pos := le_rounded_whole hm
  rw [isInf_round .positive (by omega) t k]
  rcases Nat.lt_trichotomy m.log2 1023 with low | mid | high
  · have : m < overflow := calc
      m < 2 ^ (m.log2 + 1) := Nat.lt_log2_self
      _ ≤ 2 ^ 1023 := Nat.pow_le_pow_right (by decide) low
      _ ≤ overflow := by decide +kernel
    omega
  · simp only [mid, Nat.reduceAdd] at pos ⊢
    rw [← carry_iff]
    omega
  · have : overflow ≤ m := calc
      overflow ≤ 2 ^ 1024 := by decide +kernel
      _ ≤ 2 ^ m.log2 := Nat.pow_le_pow_right (by decide) high
      _ ≤ m := Nat.log2_self_le hm.ne'
    omega

def unpackedOne : UnpackedFloat := .finite .positive (2 ^ 52) (-52) (by decide)

theorem AtMost.mul_one {u : Float.Model} {k : Int} (h : AtMost k u.unpack) (hk : -1074 ≤ k) :
    AtMost (k + 1) (mul Format.binary64 u.unpack unpackedOne) := by
  cases hu : u.unpack with
  | notANumber | infinity => rw [hu] at h; exact h.elim
  | zero s => trivial
  | finite s m e hm =>
    rw [hu] at h
    have hm' := (unpack_finite hu).1
    refine AtMost.round _ (by omega) (by omega) ?_
    rw [log2_mul_pow hm]
    have := (Nat.log2_lt hm.ne').2 hm'
    simp only [AtMost] at h
    omega

theorem atMost_ofUInt64 {w : UInt64} (hw : 0 < w.toNat) (small : w.toNat < 2 ^ 53) :
    AtMost 1 (ofUInt64 Format.binary64 w) := by
  have hl : w.toNat.log2 ≤ 52 := Nat.lt_succ_iff.1 ((Nat.log2_lt hw.ne').2 small)
  have hc : compare (w.toNat : Int) 0 = .gt := Int.compare_eq_gt.2 (by omega)
  have hk : (0 - max ((w.toNat.log2 : Int) - 52 + 0) (-1074)).toNat = 52 - w.toNat.log2 := by omega
  have filled : 2 ^ 52 ≤ w.toNat * 2 ^ (52 - w.toNat.log2) := calc
    2 ^ 52 = 2 ^ w.toNat.log2 * 2 ^ (52 - w.toNat.log2) := by rw [← Nat.pow_add]; congr 1; omega
    _ ≤ _ := Nat.mul_le_mul_right _ (Nat.log2_self_le hw.ne')
  simp only [ofUInt64, ofNat, ofInt, UnpackedFloat.normalize, UnpackedFloat.round, hc,
    targetExponent_eq, decreaseExponent, hk, Int.toNat_natCast, Nat.shiftLeft_eq]
  refine AtMost.round _ filled (by omega) ?_
  rw [log2_mul_pow hw]
  omega

theorem unpack_one_bits : (Float.ofBits 0x3FF0000000000000).toModel.unpack = unpackedOne := rfl

theorem unpack_mul (x y : Float) :
    (x * y).toModel.unpack =
      (Float.Model.pack (mul Format.binary64 x.toModel.unpack y.toModel.unpack)).unpack := rfl

theorem atMost_narrow {m : Nat} (hm : 0 < m) (small : m < 2 ^ 53) :
    AtMost 2 (Float.ofScientific m false 0).toModel.unpack := by
  have hw : m.toUInt64.toNat = m := Nat.mod_eq_of_lt (by omega)
  have hx : AtMost 1 m.toUInt64.toFloat.toModel.unpack :=
    (atMost_ofUInt64 (by omega) (by omega)).repack (by decide) (by decide)
  rw [Float.ofScientific, dif_pos ⟨small, by decide⟩]
  change AtMost 2 (m.toUInt64.toFloat * Float.ofBits 0x3FF0000000000000).toModel.unpack
  rw [unpack_mul, unpack_one_bits]
  exact (hx.mul_one (by decide)).repack (by decide) (by decide)

theorem ofScientific_wide {m : Nat} (hm : 2 ^ 53 ≤ m) :
    (Float.ofScientific m false 0).toModel = Float.Model.pack
      (roundWithAccuracy Format.binary64 .positive (m * 2 ^ 53) (-53) .exact) := by
  rw [Float.ofScientific, dif_neg (by omega)]
  change Float.Model.pack (ofScientific Format.binary64 m 0) = _
  have hm0 : m ≠ 0 := by omega
  have high : ¬ (0 : Int) > 2 ^ Format.binary64.exponentBits := by decide
  have low : ¬ (0 : Int) < -(2 ^ Format.binary64.exponentBits + m.log2) := by
    change ¬ (0 : Int) < -(2 ^ 11 + m.log2)
    omega
  rw [ofScientific, dif_neg hm0, if_neg high, if_neg low, if_pos (Int.le_refl 0), mul]
  have places : Format.binary64.mantissaBits = 53 := rfl
  have sign : Sign.positive * Sign.positive = Sign.positive := rfl
  simp only [Int.toNat_zero, Nat.pow_zero, Nat.mul_one, Int.add_zero, Nat.shiftLeft_eq, places,
    sign, Int.cast_ofNat_Int]

theorem ofScientific_whole {m : Nat} (hm : 0 < m) :
    (Float.ofScientific m false 0).isNaN = false ∧
      ((Float.ofScientific m false 0).isInf = true ↔ overflow ≤ m) := by
  change (Float.ofScientific m false 0).toModel.unpack.isNaN = false ∧
    ((Float.ofScientific m false 0).toModel.unpack.isInf = true ↔ _)
  rcases Nat.lt_or_ge m (2 ^ 53) with small | wide
  · obtain ⟨number, finite⟩ := (atMost_narrow hm small).finite
    have : m < overflow := Nat.lt_trans small (by decide +kernel)
    exact ⟨number, iff_of_false (by simp [finite]) (Nat.not_le.2 this)⟩
  · rw [ofScientific_wide wide, isNaN_repack]
    exact ⟨isNaN_round _ _ _ _, isInf_round_whole hm⟩

theorem nearest_whole (m : Nat) :
    (nearest m 0).isNaN = false ∧ ((nearest m 0).isInf = true ↔ overflow ≤ m) := by
  rw [nearest]
  split
  · next h =>
    subst h
    exact ⟨by decide, by decide +kernel⟩
  · next h =>
    simp only [Int.add_zero]
    split
    · next long =>
      have : ¬ m < 10 ^ 400 := fun h => by
        have := (Nat.length_repr_le_iff (by decide)).2 h
        change (400 : Int) < (m.repr.length : Int) at long
        omega
      have : overflow ≤ 10 ^ 400 := by decide +kernel
      exact ⟨by decide, iff_of_true (by decide) (by omega)⟩
    · have : ¬ Int.ofNat (toString m).length < -400 := by
        have := Int.natCast_nonneg (toString m).length
        simp only [Int.ofNat_eq_natCast]
        omega
      rw [if_neg this, if_neg (by decide)]
      exact ofScientific_whole (Nat.pos_of_ne_zero h)

theorem signed_spec (negative : Bool) (x : Float) :
    (signed negative x).isNaN = x.isNaN ∧ (signed negative x).isInf = x.isInf := by
  cases negative
  · exact ⟨rfl, rfl⟩
  · exact ⟨isNaN_neg x, isInf_neg x⟩

theorem ofInt?_eq_none_iff (n : Int) : ofInt? n = none ↔ overflow ≤ n.natAbs := by
  rw [← (nearest_whole n.natAbs).2, ← (signed_spec (n < 0) _).2, ofInt?]
  simp

theorem isNaN_of_ofInt? {n : Int} {x : Float} (h : ofInt? n = some x) : x.isNaN = false := by
  simp only [ofInt?] at h
  split at h
  · cases h
  · cases h
    rw [(signed_spec _ _).1]
    exact (nearest_whole _).1

end Dialogue.Decimal
