import Mathlib

/-! Rounding to doubles: bits beyond the target exponent are shifted out, the mantissa is rounded to
the nearest, ties to even, and the result is packed. A value overflows when its exponent does, and
rounding makes a number of every number. -/

namespace Dialogue.Decimal

open Float.Model (Format UnpackedFloat totalExponent)
open Float.Model.UnpackedFloat

def halves (em : ExtendedMantissa) : Nat := 2 * em.mantissa + em.roundBit.toNat

theorem halves_div_two (em : ExtendedMantissa) : halves em / 2 = em.mantissa := by
  have : em.roundBit.toNat < 2 := Bool.toNat_lt em.roundBit
  simp only [halves]
  omega

theorem halves_shiftRightOne (em : ExtendedMantissa) :
    halves em.shiftRightOne = halves em / 2 := by
  rw [halves_div_two, halves, ExtendedMantissa.shiftRightOne]
  rcases Nat.mod_two_eq_zero_or_one em.mantissa with h | h <;> simp [h] <;> omega

theorem halves_shiftRight (em : ExtendedMantissa) (n : Nat) :
    halves (em >>> n) = halves em / 2 ^ n := by
  induction n with
  | zero => simp [HShiftRight.hShiftRight, Nat.repeat]
  | succ n ih =>
    calc halves (em >>> (n + 1)) = halves (em >>> n).shiftRightOne := rfl
      _ = halves em / 2 ^ n / 2 := by rw [halves_shiftRightOne, ih]
      _ = halves em / 2 ^ (n + 1) := by rw [Nat.div_div_eq_div_mul, Nat.pow_succ]

theorem even_le_rounded_iff (em : ExtendedMantissa) {n : Nat} (even : n % 2 = 0) :
    n ≤ em.roundedMantissa ↔ 2 * n ≤ halves em + 1 := by
  obtain ⟨m, roundBit, stickyBit⟩ := em
  cases roundBit <;> cases stickyBit <;>
    simp [halves, ExtendedMantissa.roundedMantissa, ExtendedMantissa.accuracy,
      Accuracy.roundToNearestEven] <;> omega

theorem rounded_le (em : ExtendedMantissa) : em.roundedMantissa ≤ em.mantissa + 1 := by
  obtain ⟨m, roundBit, stickyBit⟩ := em
  cases roundBit <;> cases stickyBit <;>
    simp [ExtendedMantissa.roundedMantissa, ExtendedMantissa.accuracy,
      Accuracy.roundToNearestEven]
  omega

theorem log2_mul_pow {m : Nat} (hm : 0 < m) (k : Nat) : (m * 2 ^ k).log2 = m.log2 + k := by
  rw [Nat.log2_eq_iff (Nat.mul_pos hm (Nat.two_pow_pos k)).ne']
  constructor
  · rw [Nat.pow_add]
    exact Nat.mul_le_mul_right _ (Nat.log2_self_le hm.ne')
  · rw [Nat.add_right_comm, Nat.pow_add]
    exact Nat.mul_lt_mul_of_pos_right Nat.lt_log2_self (Nat.two_pow_pos k)

theorem targetExponent_eq (m : Nat) (e : Int) :
    Format.binary64.targetExponent (totalExponent m e) = max (m.log2 - 52 + e) (-1074) := by
  simp only [Format.targetExponent, totalExponent, Format.mantissaBits, Format.minExponent]
  omega

theorem shift_of_lt {m : Nat} {e : Int} (hm : m < 2 ^ 53) (he : -1074 ≤ e) :
    shiftToTargetExponent Format.binary64 m e .exact = (⟨m, false, false⟩, e) := by
  have hl : m.log2 ≤ 52 := by
    rcases Nat.eq_zero_or_pos m with rfl | h
    · simp
    · exact Nat.lt_succ_iff.1 ((Nat.log2_lt h.ne').2 hm)
  have : (max ((m.log2 : Int) - 52 + e) (-1074) - e).toNat = 0 := by omega
  simp only [shiftToTargetExponent, targetExponent_eq, shiftToExponent, this]
  simp [HShiftRight.hShiftRight, Nat.repeat, ExtendedMantissa.ofMantissaAndAccuracy]

theorem shift_carry {e : Int} (he : -1074 ≤ e) :
    shiftToTargetExponent Format.binary64 (2 ^ 53) e .exact = (⟨2 ^ 52, false, false⟩, e + 1) := by
  have : (max (((2 ^ 53 : Nat).log2 : Int) - 52 + e) (-1074) - e).toNat = 1 := by
    rw [Nat.log2_two_pow]
    omega
  simp only [shiftToTargetExponent, targetExponent_eq, shiftToExponent, this]
  rfl

def roundedAt (m k : Nat) : Nat :=
  (ExtendedMantissa.ofMantissaAndAccuracy m .exact >>> k).roundedMantissa

theorem halves_exact_shiftRight (m k : Nat) :
    halves (ExtendedMantissa.ofMantissaAndAccuracy m .exact >>> k) = 2 * m / 2 ^ k := by
  rw [halves_shiftRight]
  rfl

theorem even_le_roundedAt_iff {m k n : Nat} (even : n % 2 = 0) :
    n ≤ roundedAt m k ↔ 2 * n ≤ 2 * m / 2 ^ k + 1 := by
  rw [roundedAt, even_le_rounded_iff _ even, halves_exact_shiftRight]

theorem roundedAt_le {m k : Nat} (h : m < 2 ^ (53 + k)) : roundedAt m k ≤ 2 ^ 53 := by
  have := rounded_le (ExtendedMantissa.ofMantissaAndAccuracy m .exact >>> k)
  rw [← halves_div_two, halves_exact_shiftRight, Nat.div_right_comm,
    Nat.mul_div_cancel_left m (by decide)] at this
  have : m / 2 ^ k < 2 ^ 53 := Nat.div_lt_of_lt_mul (by rwa [← Nat.pow_add, Nat.add_comm])
  rw [roundedAt]
  omega

theorem round_eq (s : Sign) {m : Nat} (hm : 2 ^ 52 ≤ m) (e : Int) :
    let t : Int := max (m.log2 - 52 + e) (-1074)
    let q := roundedAt m (t - e).toNat
    roundWithAccuracy Format.binary64 s m e .exact =
      if h : q = 0 then .zero s
      else if q < 2 ^ 53 then .finite s q t (Nat.pos_of_ne_zero h)
      else .finite s (2 ^ 52) (t + 1) (by decide) := by
  intro t q
  have hl : 52 ≤ m.log2 := (Nat.le_log2 (by omega)).2 hm
  have ht : e + (t - e).toNat = t := by omega
  have hq : q ≤ 2 ^ 53 := roundedAt_le <|
    Nat.lt_of_lt_of_le Nat.lt_log2_self (Nat.pow_le_pow_right (by decide) (by omega))
  have first : shiftToTargetExponent Format.binary64 m e .exact =
      (ExtendedMantissa.ofMantissaAndAccuracy m .exact >>> (t - e).toNat, t) := by
    simp only [shiftToTargetExponent, targetExponent_eq, shiftToExponent]
    rw [ht]
  have second : roundWithAccuracy Format.binary64 s m e .exact =
      let r := shiftToTargetExponent Format.binary64 q t .exact
      if h : r.1.mantissa = 0 then .zero s
      else .finite s r.1.mantissa r.2 (Nat.pos_of_ne_zero h) := by
    simp only [roundWithAccuracy, first]
    rfl
  rw [second]
  rcases Nat.lt_or_eq_of_le hq with small | full
  · simp only [shift_of_lt small (by omega : -1074 ≤ t), small, if_true]
  · rw [full, shift_carry (by omega)]
    rfl

theorem isInf_unpack (b : BitVec Format.binary64.numBits) :
    (unpack Format.binary64 b).isInf = true ↔
      unpackExponent b = 2047#11 ∧ unpackMantissa b = 0#52 := by
  simp only [unpack]
  split_ifs <;> simp_all [isInf]

theorem isNaN_unpack (b : BitVec Format.binary64.numBits) :
    (unpack Format.binary64 b).isNaN = true ↔
      unpackExponent b = 2047#11 ∧ unpackMantissa b ≠ 0#52 := by
  simp only [unpack]
  split_ifs <;> simp_all [isNaN]

theorem unpack_finite {b : BitVec Format.binary64.numBits} {s : Sign} {m : Nat} {e : Int}
    {h : 0 < m} (hb : unpack Format.binary64 b = .finite s m e h) :
    m < 2 ^ 53 ∧ e = max ((unpackExponent b).toNat : Int) 1 - 1075 ∧ e < 972 := by
  have lt : (unpackMantissa b).toNat < 2 ^ 52 := (unpackMantissa b).isLt
  have le : (unpackExponent b).toNat < 2048 := (unpackExponent b).isLt
  have bias : ((Format.binary64.exponentBias : Int) +
      Format.binary64.mantissaBitsWithoutImplicit) = 1075 := rfl
  simp only [unpack] at hb
  split_ifs at hb with ones hm zero hm
  · simp only [UnpackedFloat.finite.injEq] at hb
    obtain ⟨-, rfl, rfl⟩ := hb
    rw [bias, zero]
    exact ⟨by omega, rfl, by decide⟩
  · simp only [UnpackedFloat.finite.injEq] at hb
    obtain ⟨-, rfl, rfl⟩ := hb
    have pos : (unpackExponent b).toNat ≠ 0 := fun h => zero (BitVec.eq_of_toNat_eq h)
    have top : (unpackExponent b).toNat ≠ 2047 := fun h => ones (BitVec.eq_of_toNat_eq h)
    rw [bias, BitVec.toNat_append, ← Nat.shiftLeft_add_eq_or_of_lt lt]
    refine ⟨?_, by omega, by omega⟩
    change 2 ^ 52 + (unpackMantissa b).toNat < 2 ^ 53
    omega

def field (m : Nat) (e : Int) : BitVec 11 :=
  if m.log2 + 1 = 53 then BitVec.ofNat 11 (e + 1075).toNat else 0#11

theorem pack_finite (s : Sign) {m : Nat} {e : Int} (h : 0 < m) :
    pack Format.binary64 (.finite s m e h) =
      if 972 ≤ e then packedInfinity Format.binary64 s
      else packComponents Format.binary64 s (field m e) (BitVec.ofNat 52 m) := by
  by_cases he : 972 ≤ e
  · rw [if_pos he]
    exact if_pos (show 2048 ≤ (e + 1023 + 52).toNat + 1 by omega)
  · rw [if_neg he, field, show e + 1075 = e + 1023 + 52 by omega]
    refine (if_neg (show ¬ 2048 ≤ (e + 1023 + 52).toNat + 1 by omega)).trans ?_
    by_cases hm : m.log2 + 1 = 53
    · rw [if_pos hm]
      exact if_pos hm
    · rw [if_neg hm]
      exact if_neg hm

theorem field_ne_ones {m : Nat} {e : Int} (he : ¬ 972 ≤ e) : field m e ≠ 2047#11 := by
  rw [field]
  split
  · intro h
    have : (e + 1075).toNat % 2048 = 2047 := congrArg BitVec.toNat h
    omega
  · decide

theorem field_le (m : Nat) (e : Int) : (field m e).toNat ≤ (e + 1075).toNat := by
  rw [field]
  split
  · rw [BitVec.toNat_ofNat]
    exact Nat.mod_le _ _
  · exact Nat.zero_le _

theorem isInf_repack {s : Sign} {m : Nat} {e : Int} (h : 0 < m) :
    (Float.Model.pack (.finite s m e h)).unpack.isInf = true ↔ 972 ≤ e := by
  change (unpack _ (pack _ _)).isInf = true ↔ _
  rw [isInf_unpack, pack_finite]
  split
  · next he => simp [packedInfinity, he]
  · next he => simp [he, field_ne_ones he]

theorem isNaN_repack (u : UnpackedFloat) : (Float.Model.pack u).unpack.isNaN = u.isNaN := by
  cases u with
  | notANumber => rfl
  | infinity s | zero s => cases s <;> rfl
  | finite s m e h =>
    rw [Bool.eq_iff_iff]
    change (unpack _ (pack _ _)).isNaN = true ↔ _
    rw [isNaN_unpack, pack_finite]
    split
    · simp [packedInfinity, isNaN]
    · next he => simp [field_ne_ones he, isNaN]

theorem isInf_round (s : Sign) {m : Nat} (hm : 2 ^ 52 ≤ m) {e t : Int}
    (ht : max (m.log2 - 52 + e) (-1074) = t) {k : Nat} (hk : (t - e).toNat = k) :
    (Float.Model.pack (roundWithAccuracy Format.binary64 s m e .exact)).unpack.isInf = true ↔
      roundedAt m k ≠ 0 ∧ (972 ≤ t ∨ 2 ^ 53 ≤ roundedAt m k ∧ 971 ≤ t) := by
  have := round_eq s hm e
  simp only [ht, hk] at this
  rw [this]
  split
  · next hq => cases s <;> simp [hq] <;> rfl
  · split <;> rw [isInf_repack] <;> omega

theorem isNaN_round (s : Sign) (m : Nat) (e : Int) (a : Accuracy) :
    (roundWithAccuracy Format.binary64 s m e a).isNaN = false := by
  simp only [roundWithAccuracy]
  split <;> rfl

def AtMost (k : Int) : UnpackedFloat → Prop
  | .zero _ => True
  | .finite _ _ e _ => e ≤ k
  | _ => False

theorem AtMost.round (s : Sign) {m : Nat} (hm : 2 ^ 52 ≤ m) {e k : Int} (hk : -1074 < k)
    (h : m.log2 - 52 + e < k) : AtMost k (roundWithAccuracy Format.binary64 s m e .exact) := by
  rw [round_eq s hm e]
  split
  · trivial
  · split <;> simp only [AtMost] <;> omega

theorem AtMost.repack {u : UnpackedFloat} {k : Int} (h : AtMost k u) (low : -1074 ≤ k)
    (high : k < 972) : AtMost k (Float.Model.pack u).unpack := by
  cases u with
  | notANumber | infinity => exact h.elim
  | zero s => cases s <;> trivial
  | finite s m e hm =>
    have he : ¬ 972 ≤ e := Int.not_le.2 (Int.lt_of_le_of_lt h high)
    have hi := (isInf_repack hm (s := s)).not.2 he
    have hn := isNaN_repack (.finite s m e hm)
    cases hu : (Float.Model.pack (.finite s m e hm)).unpack with
    | notANumber => simp [hu, isNaN] at hn
    | infinity => simp [hu, isInf] at hi
    | zero => trivial
    | finite s' m' e' hm' =>
      have hf : unpackExponent (pack Format.binary64 (.finite s m e hm)) = field m e := by
        rw [pack_finite, if_neg he]
        exact unpackExponent_packComponents
      have hb : e' = max ((field m e).toNat : Int) 1 - 1075 := hf ▸ (unpack_finite hu).2.1
      have := field_le m e
      simp only [AtMost] at h ⊢
      omega

theorem AtMost.finite {u : UnpackedFloat} {k : Int} (h : AtMost k u) :
    u.isNaN = false ∧ u.isInf = false := by
  cases u with
  | notANumber | infinity => exact h.elim
  | zero | finite => exact ⟨rfl, rfl⟩

theorem isNaN_neg (x : Float) : (-x).isNaN = x.isNaN := by
  change (Float.Model.pack x.toModel.unpack.neg).unpack.isNaN = x.toModel.unpack.isNaN
  rw [isNaN_repack]
  cases x.toModel.unpack <;> rfl

theorem isInf_neg (x : Float) : (-x).isInf = x.isInf := by
  change (Float.Model.pack x.toModel.unpack.neg).unpack.isInf = x.toModel.unpack.isInf
  cases hx : x.toModel.unpack with
  | notANumber => rfl
  | infinity s | zero s => cases s <;> rfl
  | finite s m e h =>
    have he : ¬ 972 ≤ e := Int.not_le.2 (unpack_finite hx).2.2
    simpa [neg, isInf] using (isInf_repack h (s := -s)).not.2 he

end Dialogue.Decimal
