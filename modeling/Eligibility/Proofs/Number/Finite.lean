import Mathlib.Algebra.Ring.Nat
import Eligibility.Number.Binary

/-!
Large whole numbers as doubles. A natural number that fits a word of 64 bits is
rounded to a finite double, since rounding never raises the exponent far.
-/

set_option autoImplicit false

namespace Eligibility.Number

open Float.Model (Format UnpackedFloat totalExponent)
open Float.Model.UnpackedFloat

theorem isFinite_iff (x : Float) :
    isFinite x = true ↔
      @unpackExponent Format.binary64 x.toBits.toBitVec ≠ -1#_ := by
  have biased : (@unpackExponent Format.binary64 x.toBits.toBitVec).toNat =
      x.toBits.toNat / leadingBit % 2048 := by
    simp [unpackExponent, leadingBit, Nat.shiftRight_eq_div_pow]
  have full : @unpackExponent Format.binary64 x.toBits.toBitVec = -1#_ ↔
      x.toBits.toNat / leadingBit % 2048 = 2047 := by
    rw [← BitVec.toNat_inj, biased]
    rfl
  rw [ne_eq, full, isFinite, read]
  by_cases set : x.toBits.toNat / leadingBit % 2048 = 2047
  · by_cases whole : x.toBits.toNat % leadingBit = 0 <;> simp [set, whole]
  · by_cases low : x.toBits.toNat / leadingBit % 2048 = 0 <;> simp [set, low]

/-! ## Rounding -/

theorem mantissa_shift_le (em : ExtendedMantissa) (places : Nat) :
    (em >>> places).mantissa ≤ em.mantissa := by
  induction places with
  | zero => exact Nat.le_refl _
  | succ places ih => exact Nat.le_trans (Nat.div_le_self _ 2) ih

theorem roundedMantissa_le (em : ExtendedMantissa) : em.roundedMantissa ≤ em.mantissa + 1 := by
  obtain ⟨mantissa, round, sticky⟩ := em
  cases round <;> cases sticky <;>
    simp [ExtendedMantissa.roundedMantissa, ExtendedMantissa.accuracy, Accuracy.roundToNearestEven]
  omega

theorem mantissa_ofMantissaAndAccuracy (mantissa : Nat) (accuracy : Accuracy) :
    (ExtendedMantissa.ofMantissaAndAccuracy mantissa accuracy).mantissa = mantissa := by
  rcases accuracy with _ | (_ | _ | _) <;> rfl

theorem shiftToTargetExponent_le (mantissa : Nat) (exponent : Int) (accuracy : Accuracy) :
    let (shifted, raised) := shiftToTargetExponent Format.binary64 mantissa exponent accuracy
    shifted.mantissa ≤ mantissa ∧
      raised = max exponent (max (mantissa.log2 + exponent - 52) (-1074)) := by
  constructor
  · have dropped := mantissa_shift_le
      (ExtendedMantissa.ofMantissaAndAccuracy mantissa accuracy)
      (Format.binary64.targetExponent (totalExponent mantissa exponent) - exponent).toNat
    rwa [mantissa_ofMantissaAndAccuracy] at dropped
  · have target : Format.binary64.targetExponent (totalExponent mantissa exponent) =
        max (mantissa.log2 + exponent - 52) (-1074) := by
      change max (((mantissa.log2 : Int) + 1 + exponent) - 53) (-1074) = _
      omega
    change exponent + ((Format.binary64.targetExponent (totalExponent mantissa exponent) -
      exponent).toNat : Int) = _
    rw [target]
    omega

theorem pack_finite (sign : Sign) (mantissa : Nat) (exponent : Int) (positive : 0 < mantissa) :
    pack Format.binary64 (.finite sign mantissa exponent positive) =
      let biased := (exponent + Format.binary64.exponentBias +
        Format.binary64.mantissaBitsWithoutImplicit).toNat
      if 2 ^ Format.binary64.exponentBits ≤ biased + 1 then packedInfinity Format.binary64 sign
      else if mantissa.log2 + 1 = Format.binary64.mantissaBits then
        packComponents Format.binary64 sign (BitVec.ofNat _ biased) (BitVec.ofNat _ mantissa)
      else packComponents Format.binary64 sign 0#_ (BitVec.ofNat _ mantissa) :=
  rfl

theorem isFinite_pack {sign : Sign} {mantissa : Nat} {exponent : Int} {positive : 0 < mantissa}
    (small : exponent ≤ 970) :
    isFinite (.ofModel (.pack (.finite sign mantissa exponent positive))) = true := by
  rw [isFinite_iff]
  change unpackExponent (pack Format.binary64 (.finite sign mantissa exponent positive)) ≠ -1#_
  have biased : (exponent + Format.binary64.exponentBias +
      Format.binary64.mantissaBitsWithoutImplicit).toNat + 1 <
        2 ^ Format.binary64.exponentBits := by
    change (exponent + 1023 + 52).toNat + 1 < 2048
    omega
  rw [pack_finite, if_neg (Nat.not_le.mpr biased)]
  split
  · -- The exponent is written as it is, and stays below that of the infinities.
    rw [unpackExponent_packComponents, ne_eq, ← BitVec.toNat_inj, BitVec.toNat_ofNat,
      Nat.mod_eq_of_lt (Nat.lt_of_succ_lt biased)]
    change _ ≠ 2047
    change _ < 2048 at biased
    omega
  · rw [unpackExponent_packComponents]
    decide

theorem log2_le {n k : Nat} (bound : n ≤ 2 ^ k) : n.log2 ≤ k := by
  by_cases zero : n = 0
  · simp [zero]
  · have below : n < 2 ^ (k + 1) := Nat.lt_of_le_of_lt bound (Nat.pow_lt_pow_succ (by decide))
    exact Nat.le_of_lt_succ ((Nat.log2_lt zero).mpr below)

/-- Rounding shifts twice, the second time because a carry may have made the
mantissa too long. Neither shift gets near the largest exponent. -/
theorem isFinite_round {sign : Sign} {mantissa : Nat} {exponent : Int} {accuracy : Accuracy}
    (small : mantissa < 2 ^ 128) (low : exponent ≤ 0) :
    isFinite (.ofModel (.pack
      (roundWithAccuracy Format.binary64 sign mantissa exponent accuracy))) = true := by
  have first := shiftToTargetExponent_le mantissa exponent accuracy
  have bits : mantissa.log2 ≤ 128 := log2_le (Nat.le_of_lt small)
  unfold roundWithAccuracy
  generalize shiftToTargetExponent Format.binary64 mantissa exponent accuracy = shifted at first
  obtain ⟨kept, raised⟩ := shifted
  dsimp only at first ⊢
  have second := shiftToTargetExponent_le kept.roundedMantissa raised .exact
  have bits' : kept.roundedMantissa.log2 ≤ 128 := by
    have carried := roundedMantissa_le kept
    exact log2_le (by omega)
  generalize shiftToTargetExponent Format.binary64 kept.roundedMantissa raised .exact = shifted
    at second
  obtain ⟨final, top⟩ := shifted
  dsimp only at second ⊢
  by_cases gone : final.mantissa = 0
  · rw [dif_pos gone, isFinite_iff]
    change unpackExponent (packComponents Format.binary64 sign 0 0) ≠ -1#_
    rw [unpackExponent_packComponents]
    decide
  · rw [dif_neg gone]
    exact isFinite_pack (by omega)

theorem isFinite_ofNat {n : Nat} (large : 2 ^ 53 ≤ n) (word : n < 2 ^ 64) :
    isFinite (Float.ofNat n) = true := by
  have rounded : Float.ofNat n = .ofModel (.pack (roundWithAccuracy Format.binary64
      (.positive * .positive) ((n <<< 53) * 10 ^ 0) (-53 + 0) .exact)) := by
    have notExact : ¬(n < 2 ^ 53 ∧ 0 ≤ 22) := fun small => by omega
    have nonzero : n ≠ 0 := by omega
    change Float.ofScientific n false 0 = _
    -- A large number is read as itself times a power of ten, which here is one.
    rw [Float.ofScientific, dif_neg notExact]
    change Float.ofModel (.pack (ofScientific Format.binary64 n 0)) = _
    have inRange : ¬((0 : Int) < -(2 ^ Format.binary64.exponentBits + n.log2)) := by
      change ¬((0 : Int) < -(2048 + n.log2))
      omega
    rw [ofScientific, dif_neg nonzero, if_neg (by decide), if_neg inRange, if_pos (by decide)]
    rfl
  rw [rounded]
  refine isFinite_round ?_ (by decide)
  rw [Nat.pow_zero, Nat.mul_one, Nat.shiftLeft_eq]
  calc n * 2 ^ 53 < 2 ^ 64 * 2 ^ 53 := Nat.mul_lt_mul_of_pos_right word (by decide)
    _ ≤ 2 ^ 128 := by decide

end Eligibility.Number
