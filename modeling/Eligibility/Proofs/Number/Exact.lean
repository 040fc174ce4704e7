import Eligibility.Proofs.Number.Finite

/-!
Whole numbers below `2 ^ 53` as doubles. Such a number has its 53 bits in the place
where rounding wants them, so no shift drops a bit, and the double is the number:
read back it is the same one, of either sign.
-/

set_option autoImplicit false

namespace Eligibility.Number

open Float.Model (Format UnpackedFloat totalExponent)
open Float.Model.UnpackedFloat

/-! ## Rounding -/

theorem log2_shiftLeft {n : Nat} (nonzero : n ≠ 0) (places : Nat) :
    (n <<< places).log2 = n.log2 + places := by
  induction places with
  | zero => rfl
  | succ places ih =>
    have shifted : n <<< places ≠ 0 := by simp [Nat.shiftLeft_eq, nonzero]
    rw [Nat.shiftLeft_succ, Nat.log2_two_mul shifted, ih, Nat.add_assoc]

theorem shiftRight_shiftLeft (mantissa places : Nat) :
    (⟨mantissa <<< places, false, false⟩ : ExtendedMantissa) >>> places =
      ⟨mantissa, false, false⟩ := by
  induction places generalizing mantissa with
  | zero => rfl
  | succ places ih =>
    have twice : mantissa <<< (places + 1) = (mantissa * 2) <<< places := by
      rw [Nat.shiftLeft_succ_inside, Nat.mul_comm]
    -- A shift is one step repeated; the last step comes off at the outside.
    change ExtendedMantissa.shiftRightOne
      ((⟨mantissa <<< (places + 1), false, false⟩ : ExtendedMantissa) >>> places) = _
    rw [twice, ih]
    simp [ExtendedMantissa.shiftRightOne]

section
variable {mantissa : Nat} {exponent : Int} (bits : mantissa.log2 = 52) (normal : -1074 ≤ exponent)
include bits normal

theorem shiftToTargetExponent_shiftLeft (places : Nat) :
    shiftToTargetExponent Format.binary64 (mantissa <<< places) (exponent - places) .exact =
      (⟨mantissa, false, false⟩, exponent) := by
  have nonzero : mantissa ≠ 0 := by
    rintro rfl
    cases bits
  have target : Format.binary64.targetExponent
      (totalExponent (mantissa <<< places) (exponent - places)) = exponent := by
    change max (((mantissa <<< places).log2 + 1 + (exponent - places)) - 53) (-1074) = exponent
    rw [log2_shiftLeft nonzero, bits]
    omega
  have amount : (exponent - (exponent - places)).toNat = places := by omega
  have raised : exponent - places + places = exponent := by omega
  unfold shiftToTargetExponent shiftToExponent
  simp only [target, amount, raised]
  exact congrArg (·, exponent) (shiftRight_shiftLeft mantissa places)

theorem roundWithAccuracy_shiftLeft (sign : Sign) (places : Nat) (positive : 0 < mantissa) :
    roundWithAccuracy Format.binary64 sign (mantissa <<< places) (exponent - places) .exact =
      .finite sign mantissa exponent positive := by
  have again := shiftToTargetExponent_shiftLeft bits normal 0
  rw [Nat.shiftLeft_zero, Int.natCast_zero, Int.sub_zero] at again
  have kept : ExtendedMantissa.roundedMantissa ⟨mantissa, false, false⟩ = mantissa := rfl
  unfold roundWithAccuracy
  rw [shiftToTargetExponent_shiftLeft bits normal]
  dsimp only
  -- Nothing was rounded up, so the second shift has nothing to do.
  rw [kept, again]
  exact dif_neg (Nat.ne_of_gt positive)

/-! ## Packing -/

theorem pack_normal (sign : Sign) (positive : 0 < mantissa) (small : exponent ≤ 970) :
    pack Format.binary64 (.finite sign mantissa exponent positive) =
      packComponents Format.binary64 sign (BitVec.ofNat 11 (exponent + 1075).toNat)
        (BitVec.ofNat 52 mantissa) := by
  have biased : (exponent + Format.binary64.exponentBias +
      Format.binary64.mantissaBitsWithoutImplicit).toNat = (exponent + 1075).toNat := by
    change (exponent + 1023 + 52).toNat = _
    omega
  have inRange : ¬ 2 ^ Format.binary64.exponentBits ≤ (exponent + 1075).toNat + 1 := by
    change ¬ 2048 ≤ _
    omega
  have whole : mantissa.log2 + 1 = Format.binary64.mantissaBits := by
    rw [bits]
    rfl
  rw [pack_finite]
  simp only [biased]
  rw [if_neg inRange, if_pos whole]

end

theorem unpackSign_packComponents (sign : Sign) (biased : BitVec 11) (fraction : BitVec 52) :
    unpackSign (packComponents Format.binary64 sign biased fraction) = sign.toBitVec := by
  change BitVec.extractLsb' 63 1 (sign.toBitVec ++ biased ++ fraction) = _
  rw [BitVec.extractLsb'_append_eq_of_le (by decide),
    BitVec.extractLsb'_append_eq_of_le (by decide)]
  exact BitVec.extractLsb'_eq_self

theorem toNat_packComponents (sign : Sign) (biased : BitVec 11) (fraction : BitVec 52) :
    (packComponents Format.binary64 sign biased fraction).toNat =
      sign.toBitVec.toNat * signBit + biased.toNat * leadingBit + fraction.toNat := by
  change (sign.toBitVec ++ biased ++ fraction).toNat = _
  rw [BitVec.toNat_append, BitVec.toNat_append, ← Nat.shiftLeft_add_eq_or_of_lt biased.isLt,
    ← Nat.shiftLeft_add_eq_or_of_lt fraction.isLt]
  simp only [Nat.shiftLeft_eq, signBit, leadingBit]
  omega

theorem finite_congr {sign sign' : Sign} {mantissa mantissa' : Nat} {exponent exponent' : Int}
    {positive : 0 < mantissa} {positive' : 0 < mantissa'} (signs : sign = sign')
    (mantissas : mantissa = mantissa') (exponents : exponent = exponent') :
    UnpackedFloat.finite sign mantissa exponent positive =
      .finite sign' mantissa' exponent' positive' := by
  subst signs mantissas exponents
  rfl

theorem ofBitVec_toBitVec (sign : Sign) : Sign.ofBitVec sign.toBitVec = sign := by
  cases sign <;> rfl

theorem toNat_withLeadingBit (fraction : BitVec 52) :
    (1#1 ++ fraction).toNat = leadingBit + fraction.toNat := by
  rw [BitVec.toNat_append, ← Nat.shiftLeft_add_eq_or_of_lt fraction.isLt]
  rfl

section
variable {biased : Nat} (normal : 0 < biased ∧ biased < 2047)
include normal

theorem toNat_biased : (BitVec.ofNat 11 biased).toNat = biased := by
  rw [BitVec.toNat_ofNat]
  omega

/-- A normal double has neither of the two exponents that stand for something else. -/
theorem unpack_packComponents (sign : Sign) (fraction : BitVec 52)
    (positive : 0 < leadingBit + fraction.toNat) :
    unpack Format.binary64
        (packComponents Format.binary64 sign (BitVec.ofNat 11 biased) fraction) =
      .finite sign (leadingBit + fraction.toNat) (biased - 1075) positive := by
  have held := toNat_biased normal
  have notAllSet : unpackExponent
      (packComponents Format.binary64 sign (BitVec.ofNat 11 biased) fraction) ≠ -1#_ := by
    rw [unpackExponent_packComponents, ne_eq, ← BitVec.toNat_inj, held]
    change biased ≠ 2047
    omega
  have notZero : unpackExponent
      (packComponents Format.binary64 sign (BitVec.ofNat 11 biased) fraction) ≠ 0#_ := by
    rw [unpackExponent_packComponents, ne_eq, ← BitVec.toNat_inj, held]
    change biased ≠ 0
    omega
  unfold unpack
  rw [if_neg notAllSet, if_neg notZero]
  refine finite_congr ?_ ?_ ?_
  · rw [unpackSign_packComponents, ofBitVec_toBitVec]
  · rw [unpackMantissa_packComponents, toNat_withLeadingBit]
  · rw [unpackExponent_packComponents, held]
    rfl

theorem read_packComponents (sign : Sign) (fraction : BitVec 52) {x : Float}
    (packed : x.toBits.toBitVec =
      packComponents Format.binary64 sign (BitVec.ofNat 11 biased) fraction) :
    read x = .finite (sign == .negative) (fraction.toNat + leadingBit) (biased - 1075) := by
  have bits : x.toBits.toNat =
      sign.toBitVec.toNat * signBit + biased * leadingBit + fraction.toNat := by
    rw [← toNat_biased normal, ← toNat_packComponents, ← packed]
    rfl
  have short : fraction.toNat < leadingBit := fraction.isLt
  have exponent : x.toBits.toNat / leadingBit % 2048 = biased := by
    rw [bits]
    unfold signBit leadingBit at *
    omega
  have rest : x.toBits.toNat % leadingBit = fraction.toNat := by
    rw [bits]
    unfold signBit leadingBit at *
    omega
  have top : decide (signBit ≤ x.toBits.toNat) = (sign == .negative) := by
    rw [bits]
    unfold signBit leadingBit at *
    cases sign
    case negative => exact decide_eq_true (by change _ ≤ 1 * _ + _ + _; omega)
    case positive => exact decide_eq_false (by change ¬ _ ≤ 0 * _ + _ + _; omega)
  simp only [read, exponent, rest, top]
  rw [if_neg (by omega), if_neg (by omega)]

end

section
variable {mantissa : Nat} {exponent : Int} (bits : mantissa.log2 = 52) (positive : 0 < mantissa)
include bits positive

theorem leadingBit_add_fraction :
    leadingBit + (BitVec.ofNat 52 mantissa).toNat = mantissa := by
  obtain ⟨least, most⟩ := (Nat.log2_eq_iff (Nat.ne_of_gt positive)).mp bits
  rw [BitVec.toNat_ofNat]
  unfold leadingBit
  omega

variable (normal : -1074 ≤ exponent) (small : exponent ≤ 970) (sign : Sign)
include normal small

theorem unpack_pack :
    Float.Model.unpack (.pack (.finite sign mantissa exponent positive)) =
      .finite sign mantissa exponent positive := by
  have fraction := leadingBit_add_fraction bits positive
  change unpack _ (pack _ _) = _
  rw [pack_normal bits normal sign positive small,
    unpack_packComponents (by omega) sign _ (by omega)]
  exact finite_congr rfl fraction (by omega)

theorem read_pack :
    read (.ofModel (.pack (.finite sign mantissa exponent positive))) =
      .finite (sign == .negative) mantissa exponent := by
  have fraction := leadingBit_add_fraction bits positive
  have packed : (Float.toBits (.ofModel (.pack (.finite sign mantissa exponent positive)))).toBitVec
      = packComponents Format.binary64 sign (BitVec.ofNat 11 (exponent + 1075).toNat)
        (BitVec.ofNat 52 mantissa) :=
    pack_normal bits normal sign positive small
  rw [read_packComponents (by omega) sign _ packed, Nat.add_comm, fraction]
  congr 1
  omega

end

/-! ## Whole numbers -/

/-- The number with its leading bit in place: `significand n * 2 ^ (n.log2 - 52)` is `n`. -/
def significand (n : Nat) : Nat := n <<< (52 - n.log2)

section
variable {n : Nat} (positive : 0 < n) (small : n < 2 ^ 53)
include positive

theorem significand_pos : 0 < significand n := by
  rw [significand, Nat.shiftLeft_eq]
  exact Nat.mul_pos positive (Nat.two_pow_pos _)

include small

theorem log2_le_of_small : n.log2 ≤ 52 :=
  Nat.le_of_lt_succ ((Nat.log2_lt (Nat.ne_of_gt positive)).mpr small)

theorem log2_significand : (significand n).log2 = 52 := by
  have short := log2_le_of_small positive small
  rw [significand, log2_shiftLeft (Nat.ne_of_gt positive)]
  omega

theorem ofNat_eq_round :
    UnpackedFloat.ofNat Format.binary64 n =
      roundWithAccuracy Format.binary64 .positive (significand n) (n.log2 - 52) .exact := by
  have short := log2_le_of_small positive small
  have more : compare (n : Int) 0 = .gt := Int.compare_eq_gt.mpr (Int.natCast_pos.mpr positive)
  have target : Format.binary64.targetExponent (totalExponent n 0) = n.log2 - 52 := by
    change max (((n.log2 : Int) + 1 + 0) - 53) (-1074) = _
    omega
  have places : (0 - ((n.log2 : Int) - 52)).toNat = 52 - n.log2 := by omega
  have lowered : (0 : Int) - ((52 - n.log2 : Nat) : Int) = n.log2 - 52 := by omega
  simp only [UnpackedFloat.ofNat, UnpackedFloat.ofInt, UnpackedFloat.normalize, more,
    UnpackedFloat.round, target, decreaseExponent, places, lowered, Int.toNat_natCast]
  rfl

theorem ofNat_eq_finite :
    UnpackedFloat.ofNat Format.binary64 n =
      .finite .positive (significand n) (n.log2 - 52) (significand_pos positive) := by
  have short := log2_le_of_small positive small
  have normal : -1074 ≤ (n.log2 : Int) - 52 := by omega
  have rounded := roundWithAccuracy_shiftLeft (log2_significand positive small) normal .positive 0
    (significand_pos positive)
  rw [Nat.shiftLeft_zero, Int.natCast_zero, Int.sub_zero] at rounded
  rw [ofNat_eq_round positive small, rounded]

theorem ofNat_eq_pack :
    Float.ofNat n = .ofModel (.pack
      (.finite .positive (significand n) (n.log2 - 52) (significand_pos positive))) := by
  have short := log2_le_of_small positive small
  have bits := log2_significand positive small
  have word : n.toUInt64.toNat = n := by
    rw [Nat.toUInt64, UInt64.toNat_ofNat']
    omega
  have one : (Float.toModel Float.exactlyRepresentablePowersOfTen[0]).unpack =
      .finite .positive leadingBit (-52) (by decide) := rfl
  have converted : (Float.Model.ofUInt64 n.toUInt64).unpack =
      .finite .positive (significand n) (n.log2 - 52) (significand_pos positive) := by
    change Float.Model.unpack (.pack (UnpackedFloat.ofNat Format.binary64 n.toUInt64.toNat)) = _
    rw [word, ofNat_eq_finite positive small, unpack_pack bits _ (by omega) (by omega)]
  -- One is the leading bit at the exponent -52, so the product has 52 more zeros.
  have shifted : significand n * leadingBit = significand n <<< 52 := by
    rw [Nat.shiftLeft_eq]
    rfl
  change Float.ofScientific n false 0 = _
  rw [Float.ofScientific, dif_pos ⟨small, by decide⟩]
  change Float.ofModel (.pack (UnpackedFloat.mul _ (Float.Model.ofUInt64 n.toUInt64).unpack
    (Float.toModel Float.exactlyRepresentablePowersOfTen[0]).unpack)) = _
  rw [converted, one]
  change Float.ofModel (.pack (roundWithAccuracy _ (.positive * .positive)
    (significand n * leadingBit) (n.log2 - 52 + -52) .exact)) = _
  rw [shifted]
  congr 2
  exact roundWithAccuracy_shiftLeft bits (by omega) .positive 52 (significand_pos positive)

theorem read_ofNat :
    read (Float.ofNat n) = .finite false (significand n) (n.log2 - 52) := by
  have short := log2_le_of_small positive small
  rw [ofNat_eq_pack positive small,
    read_pack (log2_significand positive small) _ (by omega) (by omega)]
  rfl

theorem read_neg_ofNat :
    read (Float.neg (Float.ofNat n)) = .finite true (significand n) (n.log2 - 52) := by
  have short := log2_le_of_small positive small
  have bits := log2_significand positive small
  rw [ofNat_eq_pack positive small, Float.neg]
  change read (.ofModel (.pack (UnpackedFloat.neg (Float.Model.unpack (.pack _))))) = _
  rw [unpack_pack bits _ (by omega) (by omega)]
  exact read_pack bits (significand_pos positive) (by omega) (by omega) .negative

theorem toInt?_of_read {x : Float} {negative : Bool}
    (reads : read x = .finite negative (significand n) (n.log2 - 52)) :
    toInt? x = some (if negative then -(n : Int) else n) := by
  have short := log2_le_of_small positive small
  unfold toInt?
  rw [reads]
  by_cases whole : n.log2 = 52
  · simp [whole, significand]
  · have fractional : ¬ 0 ≤ (n.log2 : Int) - 52 := by omega
    have places : (-((n.log2 : Int) - 52)).toNat = 52 - n.log2 := by omega
    simp only [if_neg fractional, places]
    simp [significand, Nat.shiftLeft_eq]

end

/-- Whole numbers below `2 ^ 53` are doubles, and are read back as they were. -/
theorem toInt?_ofInt {i : Int} (small : i.natAbs < 2 ^ 53) : toInt? (Float.ofInt i) = some i := by
  cases i with
  | ofNat n =>
    cases n with
    -- Zero has no leading bit to put in place, and is a double of its own.
    | zero => rfl
    | succ n => exact toInt?_of_read n.succ_pos small (read_ofNat n.succ_pos small)
  | negSucc n => exact toInt?_of_read n.succ_pos small (read_neg_ofNat n.succ_pos small)

end Eligibility.Number
