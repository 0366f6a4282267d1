import Mathlib
import Toolpath.Proofs.Drawing.Sweep
import Toolpath.Proofs.Proximity.Symmetry

/-!
# An imported arc turns at most once

Import raises the end angle of an arc by one full turn when it lies below the start, and leaves
it as it is otherwise. So the end stays within a turn above the start exactly when it lies below
the start or at most a turn above it: an end more than a turn above the start, as from 0° to
720°, is kept two turns up.

That the raised end is no more than a turn above the start needs binary64 addition to keep order:
`e < s` gives `e + 2π ≤ s + 2π`. The language's model of binary64 rounds an exact sum by
shifting its mantissa to the exponent 53 bits below its leading bit (or the least exponent),
rounding the bits shifted out half to even, and carrying into the next exponent when the mantissa
overflows.
Read as exact arithmetic, the shifted mantissa is a half-even quotient, which grows with the
value at a common exponent; a larger value is rounded at an exponent no lower, and from a higher
exponent it keeps its leading bit, above every value rounded lower. So rounding is monotone, and
so is adding a value, whose exact sum it rounds.

Main statements:
* `Unpacked.round_eq`: rounding a positive mantissa, as a half-even quotient at the rounding
  exponent;
* `Unpacked.RoundsTo.le`: rounding keeps the order of exact values;
* `Float.add_le_add_right`: adding a finite value to finite values keeps their order;
* `DrawingEntity.arc_imports_counter_clockwise_within_a_turn`: an imported arc ends below its
  start exactly when its end stays below it after a turn is added, sweeps counter-clockwise
  otherwise, and ends at most a turn above its start exactly when its end angle lies below the
  start or at most a turn above it.
-/

namespace Toolpath

open Float.Model (UnpackedFloat)
open Float.Model.UnpackedFloat
open Toolpath.Number (divRoundHalfEven)

namespace Unpacked

/-! ## Half-even division -/

/-- Half-even division gives the quotient or one more. -/
theorem divRoundHalfEven_eq_or (numerator denominator : Nat) :
    divRoundHalfEven numerator denominator = numerator / denominator ∨
      divRoundHalfEven numerator denominator = numerator / denominator + 1 := by
  simp only [divRoundHalfEven]
  split
  · exact .inr rfl
  · split
    · exact .inr rfl
    · exact .inl rfl

/-- Half-even division reads only the quotient: scaling both terms leaves it. -/
theorem divRoundHalfEven_mul_right (numerator denominator : Nat) {scale : Nat}
    (positive : 0 < scale) :
    divRoundHalfEven (numerator * scale) (denominator * scale) =
      divRoundHalfEven numerator denominator := by
  have quotient : numerator * scale / (denominator * scale) = numerator / denominator :=
    Nat.mul_div_mul_right numerator denominator positive
  have rest : numerator * scale % (denominator * scale) = numerator % denominator * scale :=
    Nat.mul_mod_mul_right scale numerator denominator
  have above : 2 * (numerator % denominator * scale) > denominator * scale ↔
      2 * (numerator % denominator) > denominator := by
    rw [← Nat.mul_assoc]
    exact Nat.mul_lt_mul_right positive
  have half : (2 * (numerator % denominator * scale) == denominator * scale) =
      (2 * (numerator % denominator) == denominator) := by
    rw [← Nat.mul_assoc]
    simp only [beq_eq_beq, Nat.mul_left_inj (Nat.pos_iff_ne_zero.1 positive)]
  simp only [divRoundHalfEven, quotient, rest, half]
  by_cases up : 2 * (numerator % denominator) > denominator
  · rw [if_pos (above.2 up), if_pos up]
  · rw [if_neg (mt above.1 up), if_neg up]

theorem divRoundHalfEven_le_divRoundHalfEven {first second denominator : Nat}
    (le : first ≤ second) :
    divRoundHalfEven first denominator ≤ divRoundHalfEven second denominator := by
  have quotients : first / denominator ≤ second / denominator := Nat.div_le_div_right le
  rcases Nat.lt_or_eq_of_le quotients with below | same
  · -- a higher quotient rounds to at least the lower one plus one
    rcases divRoundHalfEven_eq_or first denominator with low | low <;>
      rcases divRoundHalfEven_eq_or second denominator with high | high <;> omega
  · -- on a common quotient the rest decides, and the larger rest rounds up no less often
    have rests : first % denominator ≤ second % denominator := by
      have := Nat.div_add_mod first denominator
      have := Nat.div_add_mod second denominator
      rw [same] at *
      omega
    have sameParity : first / denominator % 2 = second / denominator % 2 := by rw [same]
    simp only [divRoundHalfEven, same, gt_iff_lt, Bool.and_eq_true, beq_iff_eq]
    split_ifs <;> omega

/-- Half-even division is monotone in the exact quotient it rounds. -/
theorem divRoundHalfEven_le_of_mul_le {first second firstDenominator secondDenominator : Nat}
    (firstPositive : 0 < firstDenominator) (secondPositive : 0 < secondDenominator)
    (le : first * secondDenominator ≤ second * firstDenominator) :
    divRoundHalfEven first firstDenominator ≤ divRoundHalfEven second secondDenominator := by
  rw [← divRoundHalfEven_mul_right first firstDenominator secondPositive,
    ← divRoundHalfEven_mul_right second secondDenominator firstPositive,
    Nat.mul_comm secondDenominator]
  exact divRoundHalfEven_le_divRoundHalfEven le

theorem divRoundHalfEven_le_of_lt_mul {numerator denominator bound : Nat}
    (below : numerator < bound * denominator) :
    divRoundHalfEven numerator denominator ≤ bound := by
  have quotient : numerator / denominator < bound :=
    Nat.div_lt_of_lt_mul (by rwa [Nat.mul_comm])
  rcases divRoundHalfEven_eq_or numerator denominator with rounded | rounded <;> omega

theorem le_divRoundHalfEven_of_mul_le {numerator denominator bound : Nat}
    (positive : 0 < denominator) (above : bound * denominator ≤ numerator) :
    bound ≤ divRoundHalfEven numerator denominator := by
  have quotient : bound ≤ numerator / denominator := (Nat.le_div_iff_mul_le positive).2 above
  rcases divRoundHalfEven_eq_or numerator denominator with rounded | rounded <;> omega

/-! ## Shifting bits out rounds half to even -/

/-- Shifting `k + 1` bits out of an exact mantissa keeps the quotient, with the last bit shifted
out as the round bit and whether a bit below it was set as the sticky bit. -/
theorem shiftRight_succ (mantissa k : Nat) :
    ExtendedMantissa.ofMantissaAndAccuracy mantissa .exact >>> (k + 1) =
      ⟨mantissa / 2 ^ (k + 1), mantissa / 2 ^ k % 2 != 0, mantissa % 2 ^ k != 0⟩ := by
  induction k with
  | zero =>
    show ExtendedMantissa.shiftRightOne (ExtendedMantissa.ofMantissaAndAccuracy mantissa .exact) = _
    simp [ExtendedMantissa.shiftRightOne, ExtendedMantissa.ofMantissaAndAccuracy, Nat.mod_one]
  | succ k ih =>
    show ExtendedMantissa.shiftRightOne
      (ExtendedMantissa.ofMantissaAndAccuracy mantissa .exact >>> (k + 1)) = _
    rw [ih]
    simp only [ExtendedMantissa.shiftRightOne, Nat.div_div_eq_div_mul, ← Nat.pow_succ,
      ExtendedMantissa.mk.injEq, true_and]
    -- the bits below the new round bit: the old round bit and those below it
    rw [Nat.mod_pow_succ]
    rcases Nat.mod_two_eq_zero_or_one (mantissa / 2 ^ k) with bit | bit <;>
      simp [bit]

/-- The rounded mantissa after shifting `k` bits out of an exact mantissa is its half-even
quotient by `2 ^ k`. -/
theorem roundedMantissa_shiftRight (mantissa k : Nat) :
    (ExtendedMantissa.ofMantissaAndAccuracy mantissa .exact >>> k).roundedMantissa =
      divRoundHalfEven mantissa (2 ^ k) := by
  cases k with
  | zero =>
    show (ExtendedMantissa.ofMantissaAndAccuracy mantissa .exact).roundedMantissa = _
    simp [divRoundHalfEven, ExtendedMantissa.ofMantissaAndAccuracy, Nat.mod_one,
      ExtendedMantissa.roundedMantissa, ExtendedMantissa.accuracy, Accuracy.roundToNearestEven]
  | succ k =>
    rw [shiftRight_succ]
    -- the rest below `2 ^ (k + 1)` is the round bit's weight and the bits below it
    have rest : mantissa % 2 ^ (k + 1) = mantissa % 2 ^ k + 2 ^ k * (mantissa / 2 ^ k % 2) :=
      Nat.mod_pow_succ
    have low := Nat.mod_lt mantissa (Nat.two_pow_pos k)
    have twice : 2 ^ (k + 1) = 2 * 2 ^ k := by rw [Nat.pow_succ, Nat.mul_comm]
    simp only [divRoundHalfEven, ExtendedMantissa.roundedMantissa]
    rw [rest, twice]
    rcases Nat.mod_two_eq_zero_or_one (mantissa / 2 ^ k) with bit | bit <;>
      cases sticky : (mantissa % 2 ^ k != 0) <;>
      simp only [bne_iff_ne, ne_eq, bne_eq_false_iff_eq] at sticky <;>
      simp [bit, sticky, ExtendedMantissa.accuracy, Accuracy.roundToNearestEven] <;>
      (try split_ifs) <;> omega

/-! ## Rounding a positive mantissa -/

/-- The exponent at which binary64 rounding writes a positive mantissa given at an exponent: 53
bits down from its leading bit, and never below the least exponent `-1074`. -/
def roundingExponent (mantissa : Nat) (exponent : Int) : Int :=
  max (mantissa.log2 + 1 + exponent - 53) (-1074)

/-- The mantissa brought to the rounding exponent, the bits shifted out rounded half to even. -/
def nearestMantissa (mantissa : Nat) (exponent : Int) : Nat :=
  divRoundHalfEven (mantissa <<< (exponent - roundingExponent mantissa exponent).toNat)
    (2 ^ (roundingExponent mantissa exponent - exponent).toNat)

theorem targetExponent_totalExponent (mantissa : Nat) (exponent : Int) :
    Float.Model.Format.binary64.targetExponent (Float.Model.totalExponent mantissa exponent) =
      roundingExponent mantissa exponent := rfl

theorem log2_shiftLeft {mantissa : Nat} (shift : Nat) (positive : 0 < mantissa) :
    (mantissa <<< shift).log2 = mantissa.log2 + shift := by
  have low := Nat.log2_self_le (Nat.pos_iff_ne_zero.1 positive)
  have high := @Nat.lt_log2_self mantissa
  rw [Nat.log2_eq_iff (by rw [Nat.shiftLeft_eq]; positivity), Nat.shiftLeft_eq, Nat.pow_add,
    Nat.add_right_comm, Nat.pow_add _ (mantissa.log2 + 1)]
  exact ⟨Nat.mul_le_mul_right _ low, Nat.mul_lt_mul_of_pos_right high (Nat.two_pow_pos _)⟩

theorem roundingExponent_shiftLeft {mantissa : Nat} (exponent : Int) (shift : Nat)
    (positive : 0 < mantissa) :
    roundingExponent (mantissa <<< shift) (exponent - shift) =
      roundingExponent mantissa exponent := by
  simp only [roundingExponent, log2_shiftLeft shift positive]
  omega

/-- A mantissa below `2 ^ 53` at an exponent no lower than the least one is at its target. -/
theorem shiftToTargetExponent_of_lt {mantissa : Nat} {exponent : Int}
    (below : mantissa < 2 ^ 53) (least : -1074 ≤ exponent) :
    shiftToTargetExponent .binary64 mantissa exponent .exact =
      (⟨mantissa, false, false⟩, exponent) := by
  have bits : mantissa.log2 ≤ 52 := by
    rcases Nat.eq_zero_or_pos mantissa with zero | positive
    · simp [zero]
    · exact Nat.lt_succ_iff.1 ((Nat.log2_lt (Nat.pos_iff_ne_zero.1 positive)).2 below)
  have unshifted : (roundingExponent mantissa exponent - exponent).toNat = 0 := by
    simp only [roundingExponent]
    omega
  simp only [shiftToTargetExponent, shiftToExponent, targetExponent_totalExponent, unshifted]
  simp [ExtendedMantissa.ofMantissaAndAccuracy, HShiftRight.hShiftRight, Nat.repeat]

/-- A carry into the 54th bit moves one bit out, exactly, and the exponent up by one. -/
theorem shiftToTargetExponent_carry {exponent : Int} (least : -1074 ≤ exponent) :
    shiftToTargetExponent .binary64 (2 ^ 53) exponent .exact =
      (⟨2 ^ 52, false, false⟩, exponent + 1) := by
  have once : (roundingExponent (2 ^ 53) exponent - exponent).toNat = 1 := by
    simp only [roundingExponent, Nat.log2_two_pow]
    omega
  simp only [shiftToTargetExponent, shiftToExponent, targetExponent_totalExponent, once]
  simp [ExtendedMantissa.ofMantissaAndAccuracy, HShiftRight.hShiftRight, Nat.repeat,
    ExtendedMantissa.shiftRightOne]

/-- The rounded mantissa has at most 54 bits, `2 ^ 53` itself after a carry. -/
theorem nearestMantissa_le (mantissa : Nat) (exponent : Int) :
    nearestMantissa mantissa exponent ≤ 2 ^ 53 := by
  apply divRoundHalfEven_le_of_lt_mul
  -- the leading bit lands at most 53 bits up from the rounding exponent
  have high := @Nat.lt_log2_self mantissa
  have bits : mantissa.log2 + 1 + (exponent - roundingExponent mantissa exponent).toNat ≤
      53 + (roundingExponent mantissa exponent - exponent).toNat := by
    simp only [roundingExponent]
    omega
  calc mantissa <<< (exponent - roundingExponent mantissa exponent).toNat
      < 2 ^ (mantissa.log2 + 1) * 2 ^ (exponent - roundingExponent mantissa exponent).toNat := by
        rw [Nat.shiftLeft_eq]
        exact Nat.mul_lt_mul_of_pos_right high (Nat.two_pow_pos _)
    _ ≤ 2 ^ 53 * 2 ^ (roundingExponent mantissa exponent - exponent).toNat := by
        rw [← Nat.pow_add, ← Nat.pow_add]
        exact Nat.pow_le_pow_right (by decide) bits

/-- Above the least exponent the rounded mantissa keeps its leading bit at `2 ^ 52`. -/
theorem le_nearestMantissa {mantissa : Nat} {exponent : Int} (positive : 0 < mantissa)
    (normal : roundingExponent mantissa exponent ≠ -1074) :
    2 ^ 52 ≤ nearestMantissa mantissa exponent := by
  apply le_divRoundHalfEven_of_mul_le (Nat.two_pow_pos _)
  have low := Nat.log2_self_le (Nat.pos_iff_ne_zero.1 positive)
  have bits : 52 + (roundingExponent mantissa exponent - exponent).toNat =
      mantissa.log2 + (exponent - roundingExponent mantissa exponent).toNat := by
    simp only [roundingExponent] at normal ⊢
    omega
  calc 2 ^ 52 * 2 ^ (roundingExponent mantissa exponent - exponent).toNat
      = 2 ^ mantissa.log2 * 2 ^ (exponent - roundingExponent mantissa exponent).toNat := by
        rw [← Nat.pow_add, ← Nat.pow_add, bits]
    _ ≤ mantissa <<< (exponent - roundingExponent mantissa exponent).toNat := by
        rw [Nat.shiftLeft_eq]
        exact Nat.mul_le_mul_right _ low

/-- Bringing a mantissa down to at most the rounding exponent and shifting the bits below that
exponent out ends at the rounding exponent. -/
theorem shiftToTargetExponent_shiftLeft {mantissa : Nat} (exponent : Int)
    (positive : 0 < mantissa) :
    shiftToTargetExponent .binary64
        (mantissa <<< (exponent - roundingExponent mantissa exponent).toNat)
        (exponent - (exponent - roundingExponent mantissa exponent).toNat) .exact =
      (ExtendedMantissa.ofMantissaAndAccuracy
          (mantissa <<< (exponent - roundingExponent mantissa exponent).toNat) .exact >>>
          (roundingExponent mantissa exponent - exponent).toNat,
        roundingExponent mantissa exponent) := by
  have kept := roundingExponent_shiftLeft exponent
    (exponent - roundingExponent mantissa exponent).toNat positive
  simp only [shiftToTargetExponent, shiftToExponent, targetExponent_totalExponent, kept,
    Prod.mk.injEq]
  constructor <;> congr 1 <;> omega

/-- Rounding a positive mantissa: the mantissa rounded half to even at the rounding exponent,
a zero when nothing is left of it, and `2 ^ 52` one exponent up after a carry. -/
theorem round_eq (sign : Sign) {mantissa : Nat} (exponent : Int) (positive : 0 < mantissa) :
    UnpackedFloat.round .binary64 sign mantissa exponent =
      if zero : nearestMantissa mantissa exponent = 0 then .zero sign
      else if nearestMantissa mantissa exponent < 2 ^ 53 then
        .finite sign (nearestMantissa mantissa exponent) (roundingExponent mantissa exponent)
          (Nat.pos_of_ne_zero zero)
      else .finite sign (2 ^ 52) (roundingExponent mantissa exponent + 1) (by decide) := by
  have least : -1074 ≤ roundingExponent mantissa exponent := le_max_right _ _
  have carry := nearestMantissa_le mantissa exponent
  rw [UnpackedFloat.round]
  dsimp only [decreaseExponent]
  rw [roundWithAccuracy, targetExponent_totalExponent, shiftToTargetExponent_shiftLeft _ positive]
  dsimp only
  have rounded : divRoundHalfEven
      (mantissa <<< (exponent - roundingExponent mantissa exponent).toNat)
      (2 ^ (roundingExponent mantissa exponent - exponent).toNat) =
      nearestMantissa mantissa exponent := rfl
  rw [roundedMantissa_shiftRight, rounded]
  by_cases nothing : nearestMantissa mantissa exponent = 0
  · simp only [nothing, shiftToTargetExponent_of_lt (by decide : 0 < 2 ^ 53) least]
    rfl
  · by_cases small : nearestMantissa mantissa exponent < 2 ^ 53
    · simp only [shiftToTargetExponent_of_lt small least, nothing, small, dite_false, if_true]
    · -- the carry into the 54th bit
      have top : nearestMantissa mantissa exponent = 2 ^ 53 := by omega
      simp only [top, shiftToTargetExponent_carry least]
      rfl

/-! ## Rounding keeps the order of exact values -/

/-- A mantissa shifted to a target exponent is worth its value over `2 ^ target`, scaled by the
bits still to be shifted out. -/
theorem cast_shiftLeft (mantissa : Nat) (exponent target : Int) :
    ((mantissa <<< (exponent - target).toNat : Nat) : ℚ) =
      mantissa * 2 ^ exponent * 2 ^ (((target - exponent).toNat : Int) - target) := by
  rw [Nat.shiftLeft_eq, Nat.cast_mul, Nat.cast_pow, Nat.cast_ofNat, mul_assoc, ← zpow_natCast,
    ← zpow_add₀ two_ne_zero]
  congr 2
  omega

/-- A positive mantissa at an exponent lies between the powers of two of its leading bit. -/
theorem zpow_le_value {mantissa : Nat} (exponent : Int) (positive : 0 < mantissa) :
    (2 : ℚ) ^ ((mantissa.log2 : Int) + exponent) ≤ mantissa * 2 ^ exponent := by
  rw [zpow_add₀ two_ne_zero, zpow_natCast]
  have low : ((2 ^ mantissa.log2 : Nat) : ℚ) ≤ mantissa :=
    Nat.cast_le.2 (Nat.log2_self_le (Nat.pos_iff_ne_zero.1 positive))
  push_cast at low
  exact mul_le_mul_of_nonneg_right low (by positivity)

theorem value_lt_zpow (mantissa : Nat) (exponent : Int) :
    (mantissa : ℚ) * 2 ^ exponent < 2 ^ ((mantissa.log2 : Int) + 1 + exponent) := by
  rw [zpow_add₀ two_ne_zero, ← Nat.cast_succ, zpow_natCast]
  have high : (mantissa : ℚ) < ((2 ^ (mantissa.log2 + 1) : Nat) : ℚ) :=
    Nat.cast_lt.2 Nat.lt_log2_self
  push_cast at high
  exact mul_lt_mul_of_pos_right high (by positivity)

/-- A larger value is rounded at an exponent no lower. -/
theorem roundingExponent_le_roundingExponent {first second : Nat}
    {firstExponent secondExponent : Int} (positive : 0 < first)
    (le : (first : ℚ) * 2 ^ firstExponent ≤ second * 2 ^ secondExponent) :
    roundingExponent first firstExponent ≤ roundingExponent second secondExponent := by
  -- the leading bit of the first value is below the bit above the second's
  have leading := (zpow_lt_zpow_iff_right₀ (by norm_num : (1 : ℚ) < 2)).1
    ((zpow_le_value firstExponent positive).trans_lt
      (le.trans_lt (value_lt_zpow second secondExponent)))
  simp only [roundingExponent]
  omega

/-- At a common rounding exponent a larger value rounds to a mantissa no smaller. -/
theorem nearestMantissa_le_nearestMantissa {first second : Nat}
    {firstExponent secondExponent : Int}
    (same : roundingExponent first firstExponent = roundingExponent second secondExponent)
    (le : (first : ℚ) * 2 ^ firstExponent ≤ second * 2 ^ secondExponent) :
    nearestMantissa first firstExponent ≤ nearestMantissa second secondExponent := by
  apply divRoundHalfEven_le_of_mul_le (Nat.two_pow_pos _) (Nat.two_pow_pos _)
  rw [same]
  generalize roundingExponent second secondExponent = target
  -- both products are the values times one power of two
  have scale : (2 : ℚ) ^ (((target - firstExponent).toNat : Int) - target) *
      2 ^ (target - secondExponent).toNat =
      2 ^ (((target - secondExponent).toNat : Int) - target) *
        2 ^ (target - firstExponent).toNat := by
    rw [← zpow_natCast, ← zpow_natCast, ← zpow_add₀ two_ne_zero,
      ← zpow_add₀ two_ne_zero]
    congr 1
    ring
  have products : ((first <<< (firstExponent - target).toNat *
      2 ^ (target - secondExponent).toNat : Nat) : ℚ) ≤
      ((second <<< (secondExponent - target).toNat *
        2 ^ (target - firstExponent).toNat : Nat) : ℚ) := by
    rw [Nat.cast_mul, Nat.cast_mul, cast_shiftLeft, cast_shiftLeft, Nat.cast_pow, Nat.cast_pow,
      Nat.cast_ofNat]
    calc _ = (first : ℚ) * 2 ^ firstExponent *
          (2 ^ (((target - firstExponent).toNat : Int) - target) *
            2 ^ (target - secondExponent).toNat) := by ring
      _ ≤ second * 2 ^ secondExponent *
          (2 ^ (((target - firstExponent).toNat : Int) - target) *
            2 ^ (target - secondExponent).toNat) := mul_le_mul_of_nonneg_right le (by positivity)
      _ = _ := by rw [scale]; ring
  exact_mod_cast products

/-! ## Packing canonical values -/

/-- Packing a canonical finite value and unpacking it gives it back, or an infinity of its sign
past the largest exponent. -/
theorem unpack_pack_finite (sign : Sign) {mantissa : Nat} {exponent : Int}
    (positive : 0 < mantissa) (canonical : IsCanonical mantissa exponent) :
    unpack .binary64 (pack .binary64 (.finite sign mantissa exponent positive)) =
      if exponent ≤ 971 then .finite sign mantissa exponent positive else .infinity sign := by
  have least := canonical.least_le
  have below := canonical.mantissa_lt
  have bias : Float.Model.Format.binary64.exponentBias = 1023 := rfl
  have bits : Float.Model.Format.binary64.mantissaBits = 53 := rfl
  unfold pack
  simp only [bias, bits]
  split
  · next beyond =>
    rw [if_neg (show ¬ exponent ≤ 971 by omega)]
    simp [packedInfinity, unpack, unpackExponent_packComponents, unpackMantissa_packComponents]
  · next notBeyond =>
    rw [if_pos (show exponent ≤ 971 by omega)]
    have field :
        (BitVec.ofNat 11 (exponent + 1023 + 52).toNat).toNat = (exponent + 1075).toNat := by
      simp only [BitVec.toNat_ofNat]
      omega
    split
    · next normal =>
      -- a normal value: the exponent field is neither all ones nor zero, and the leading bit
      -- comes back above the fraction
      have leading : 2 ^ 52 ≤ mantissa :=
        ((Nat.log2_eq_iff (by omega)).1 (by omega : mantissa.log2 = 52)).1
      have notAllOnes : BitVec.ofNat 11 (exponent + 1023 + 52).toNat ≠ -1#11 :=
        ne_of_apply_ne BitVec.toNat (by simp only [field]; simp; omega)
      have notZero : BitVec.ofNat 11 (exponent + 1023 + 52).toNat ≠ 0#11 :=
        ne_of_apply_ne BitVec.toNat (by simp only [field]; simp; omega)
      have restored : (1#1 ++ BitVec.ofNat 52 mantissa).toNat = mantissa := by
        rw [BitVec.toNat_append, BitVec.toNat_ofNat, BitVec.toNat_ofNat,
          ← Nat.shiftLeft_add_eq_or_of_lt (Nat.mod_lt mantissa (by decide : 0 < 2 ^ 52))]
        simp only [Nat.shiftLeft_eq]
        omega
      unfold unpack
      simp only [unpackExponent_packComponents, unpackMantissa_packComponents,
        unpackSign_packComponents, ofBitVec_toBitVec, Nat.cast_ofNat]
      rw [if_neg notAllOnes, if_neg notZero]
      congr 1
      rw [field, bias]
      omega
    · next subnormal =>
      -- a subnormal value: at the least exponent, written with a zero exponent field
      have small : mantissa < 2 ^ 52 := by
        by_contra large
        have bits := (Nat.log2_eq_iff (by omega)).2 ⟨Nat.le_of_not_lt large, below⟩
        omega
      have lowest : exponent = -1074 := canonical.leading.resolve_right (by omega)
      have nonzero : BitVec.ofNat 52 mantissa ≠ 0#52 := fun same => by
        have fields := congrArg BitVec.toNat same
        simp only [BitVec.toNat_ofNat, Nat.mod_eq_of_lt small] at fields
        simp at fields
        omega
      unfold unpack
      simp only [unpackExponent_packComponents, unpackMantissa_packComponents,
        unpackSign_packComponents, ofBitVec_toBitVec]
      simp only [nonzero, dite_false, BitVec.toNat_ofNat, Nat.mod_eq_of_lt small, bias]
      rw [if_neg (by decide), if_pos trivial]
      congr 1
      omega

theorem unpack_pack_zero (sign : Sign) :
    unpack .binary64 (pack .binary64 (.zero sign)) = .zero sign :=
  unpack_packedZero

/-- Packing keeps the order of canonical positive values, exponent first and then mantissa;
past the largest exponent both become infinity. -/
theorem rank_unpack_pack_le {first second : Nat} {firstExponent secondExponent : Int}
    (firstPositive : 0 < first) (secondPositive : 0 < second)
    (firstCanonical : IsCanonical first firstExponent)
    (secondCanonical : IsCanonical second secondExponent)
    (order : firstExponent < secondExponent ∨ (firstExponent = secondExponent ∧ first ≤ second)) :
    rank (unpack .binary64 (pack .binary64 (.finite .positive first firstExponent firstPositive))) ≤
      rank (unpack .binary64
        (pack .binary64 (.finite .positive second secondExponent secondPositive))) := by
  rw [unpack_pack_finite _ firstPositive firstCanonical,
    unpack_pack_finite _ secondPositive secondCanonical]
  split_ifs <;> simp [rank, Prod.Lex.toLex_le_toLex] <;> omega

/-- The rounded mantissa at the rounding exponent is canonical when it has 53 bits at most. -/
theorem isCanonical_nearestMantissa {mantissa : Nat} {exponent : Int} (positive : 0 < mantissa)
    (below : nearestMantissa mantissa exponent < 2 ^ 53) :
    IsCanonical (nearestMantissa mantissa exponent) (roundingExponent mantissa exponent) := by
  refine ⟨below, le_max_right _ _, ?_⟩
  by_cases least : roundingExponent mantissa exponent = -1074
  · exact .inl least
  · exact .inr (le_nearestMantissa positive least)

/-- Rounding keeps the order of positive values: a value no larger rounds, and packs, to a value
ranked no higher. -/
theorem rank_round_le {first second : Nat} {firstExponent secondExponent : Int}
    (firstPositive : 0 < first) (secondPositive : 0 < second)
    (le : (first : ℚ) * 2 ^ firstExponent ≤ second * 2 ^ secondExponent) :
    rank (unpack .binary64 (pack .binary64
        (UnpackedFloat.round .binary64 .positive first firstExponent))) ≤
      rank (unpack .binary64 (pack .binary64
        (UnpackedFloat.round .binary64 .positive second secondExponent))) := by
  -- the larger value is rounded at an exponent no lower; at the same exponent its mantissa is
  -- no smaller, and at a higher one it has its leading bit
  have exponents := roundingExponent_le_roundingExponent firstPositive le
  have mantissas : roundingExponent first firstExponent < roundingExponent second secondExponent ∨
      nearestMantissa first firstExponent ≤ nearestMantissa second secondExponent := by
    rcases Int.lt_or_eq_of_le exponents with above | same
    · exact .inl above
    · exact .inr (nearestMantissa_le_nearestMantissa same le)
  have firstLeast : -1074 ≤ roundingExponent first firstExponent := le_max_right _ _
  have leading : roundingExponent second secondExponent = -1074 ∨
      2 ^ 52 ≤ nearestMantissa second secondExponent := by
    by_cases least : roundingExponent second secondExponent = -1074
    · exact .inl least
    · exact .inr (le_nearestMantissa secondPositive least)
  have firstCarry := nearestMantissa_le first firstExponent
  have secondCarry := nearestMantissa_le second secondExponent
  by_cases nothing : nearestMantissa first firstExponent = 0
  · -- a value rounded to zero ranks lowest
    rw [round_eq .positive _ firstPositive, dif_pos nothing, unpack_pack_zero]
    exact rank_zero_le (hasSign_unpack_pack (hasSign_roundWithAccuracy .binary64 _ _ _ _)) _
  have something : nearestMantissa second secondExponent ≠ 0 := by omega
  rw [round_eq .positive _ firstPositive, round_eq .positive _ secondPositive, dif_neg nothing,
    dif_neg something]
  -- with or without a carry into the 54th bit, both are canonical and ordered
  split_ifs with firstSmall secondSmall secondSmall <;>
    apply rank_unpack_pack_le
  all_goals first
    | exact isCanonical_nearestMantissa firstPositive firstSmall
    | exact isCanonical_nearestMantissa secondPositive secondSmall
    | exact ⟨by decide, by omega, .inr le_rfl⟩
    | omega

/-! ## Rounding an exact value of either sign -/

/-- The binary64 value of an integer mantissa at an exponent: normalized, rounded and packed,
as addition leaves it. -/
def rounded (mantissa exponent : Int) : UnpackedFloat :=
  unpack .binary64 (pack .binary64 (UnpackedFloat.normalize .binary64 mantissa exponent .positive))

/-- A value is the binary64 rounding of an exact rational: the rounding of some integer mantissa
and exponent worth it, or, for zero, a zero of either sign. -/
def RoundsTo (exact : ℚ) (value : UnpackedFloat) : Prop :=
  (∃ mantissa exponent : Int, (mantissa : ℚ) * 2 ^ exponent = exact ∧
      value = rounded mantissa exponent) ∨
    (exact = 0 ∧ ∃ sign, value = .zero sign)

theorem rounded_of_pos {mantissa : Int} (exponent : Int) (positive : 0 < mantissa) :
    rounded mantissa exponent = unpack .binary64
      (pack .binary64 (UnpackedFloat.round .binary64 .positive mantissa.toNat exponent)) := by
  simp only [rounded, UnpackedFloat.normalize, compare_gt_iff_gt.2 positive]

theorem rounded_neg {mantissa : Int} (exponent : Int) (nonzero : mantissa ≠ 0) :
    rounded (-mantissa) exponent = (rounded mantissa exponent).neg := by
  rw [rounded, normalize_neg .binary64 exponent .positive nonzero, unpack_pack_neg]
  rfl

theorem hasSign_rounded_of_nonneg {mantissa : Int} (exponent : Int) (nonneg : 0 ≤ mantissa) :
    HasSign .positive (rounded mantissa exponent) :=
  hasSign_unpack_pack (hasSign_normalize_of_nonneg .binary64 exponent .positive nonneg)

theorem hasSign_rounded_of_nonpos {mantissa : Int} (exponent : Int) (nonpos : mantissa ≤ 0) :
    HasSign .negative (rounded mantissa exponent) := by
  apply hasSign_unpack_pack
  unfold UnpackedFloat.normalize
  split
  · exact hasSign_roundWithAccuracy .binary64 _ _ _ _
  · trivial
  · next above => have := Int.compare_eq_gt.1 above; omega

/-- A mantissa worth a value at some exponent has the value's sign. -/
theorem value_pos_iff (mantissa exponent : Int) :
    0 < (mantissa : ℚ) * 2 ^ exponent ↔ 0 < mantissa := by
  rw [mul_pos_iff_of_pos_right (by positivity), Int.cast_pos]

theorem value_nonneg_iff (mantissa exponent : Int) :
    0 ≤ (mantissa : ℚ) * 2 ^ exponent ↔ 0 ≤ mantissa := by
  rw [mul_nonneg_iff_of_pos_right (by positivity), Int.cast_nonneg_iff]

theorem RoundsTo.hasSign_positive {exact : ℚ} {value : UnpackedFloat}
    (rounds : RoundsTo exact value) (nonneg : 0 ≤ exact) : HasSign .positive value := by
  rcases rounds with ⟨mantissa, exponent, worth, rfl⟩ | ⟨-, sign, rfl⟩
  · exact hasSign_rounded_of_nonneg exponent ((value_nonneg_iff _ _).1 (worth ▸ nonneg))
  · trivial

theorem RoundsTo.hasSign_negative {exact : ℚ} {value : UnpackedFloat}
    (rounds : RoundsTo exact value) (nonpos : exact ≤ 0) : HasSign .negative value := by
  rcases rounds with ⟨mantissa, exponent, worth, rfl⟩ | ⟨-, sign, rfl⟩
  · exact hasSign_rounded_of_nonpos exponent
      (not_lt.1 ((value_pos_iff _ _).not.1 (not_lt.2 (worth ▸ nonpos))))
  · trivial

/-- A number that is zero or negative is no larger than one that is zero or positive. -/
theorem le_of_hasSign {first second : UnpackedFloat} (negative : HasSign .negative first)
    (positive : HasSign .positive second) : first.le second = true := by
  cases first <;> cases second <;> simp only [HasSign] at negative positive <;> subst_vars <;>
    rfl

theorem neg_le_neg (first second : UnpackedFloat) : first.neg.le second.neg = second.le first := by
  rcases first with s₁ | _ | s₁ | ⟨s₁, m₁, e₁, p₁⟩ <;>
    rcases second with s₂ | _ | s₂ | ⟨s₂, m₂, e₂, p₂⟩ <;>
    (try cases s₁) <;> (try cases s₂) <;> (try rfl)
  -- two finite values of one sign: swapping the comparison swaps its result
  all_goals
    simp only [UnpackedFloat.neg, UnpackedFloat.le, UnpackedFloat.compare,
      ← Int.compare_swap e₁ e₂, ← Nat.compare_swap m₁ m₂, ← Ordering.swap_then,
      Ordering.swap_swap]

/-- The roundings of positive exact values compare as the values do. -/
theorem rounded_le_rounded {first second firstExponent secondExponent : Int}
    (firstPositive : 0 < first) (secondPositive : 0 < second)
    (le : (first : ℚ) * 2 ^ firstExponent ≤ second * 2 ^ secondExponent) :
    (rounded first firstExponent).le (rounded second secondExponent) = true := by
  rw [le_iff_rank_le (hasSign_rounded_of_nonneg firstExponent firstPositive.le)
      (hasSign_rounded_of_nonneg secondExponent secondPositive.le),
    rounded_of_pos firstExponent firstPositive, rounded_of_pos secondExponent secondPositive]
  have firstCast : ((first.toNat : ℕ) : ℚ) = first := by
    exact_mod_cast Int.toNat_of_nonneg firstPositive.le
  have secondCast : ((second.toNat : ℕ) : ℚ) = second := by
    exact_mod_cast Int.toNat_of_nonneg secondPositive.le
  exact rank_round_le (by omega) (by omega) (by rwa [firstCast, secondCast])

/-- Rounding keeps the order of exact values: the rounding of a value no larger compares no
larger. -/
theorem RoundsTo.le {first second : ℚ} {firstValue secondValue : UnpackedFloat}
    (firstRounds : RoundsTo first firstValue) (secondRounds : RoundsTo second secondValue)
    (le : first ≤ second) : firstValue.le secondValue = true := by
  by_cases across : first ≤ 0 ∧ 0 ≤ second
  · -- values on either side of zero compare by their signs
    exact le_of_hasSign (firstRounds.hasSign_negative across.1)
      (secondRounds.hasSign_positive across.2)
  rcases not_and_or.1 across with positive | negative
  · -- two positive values, neither of them a rounded zero
    have firstPositive : 0 < first := lt_of_not_ge positive
    have secondPositive : 0 < second := firstPositive.trans_le le
    obtain ⟨firstMantissa, firstExponent, rfl, rfl⟩ :=
      firstRounds.resolve_right fun zero => firstPositive.ne' zero.1
    obtain ⟨secondMantissa, secondExponent, rfl, rfl⟩ :=
      secondRounds.resolve_right fun zero => secondPositive.ne' zero.1
    exact rounded_le_rounded ((value_pos_iff _ _).1 firstPositive)
      ((value_pos_iff _ _).1 secondPositive) le
  · -- two negative values: their opposites are positive and compare the other way round
    have secondNegative : second < 0 := lt_of_not_ge negative
    have firstNegative : first < 0 := le.trans_lt secondNegative
    obtain ⟨firstMantissa, firstExponent, rfl, rfl⟩ :=
      firstRounds.resolve_right fun zero => firstNegative.ne zero.1
    obtain ⟨secondMantissa, secondExponent, rfl, rfl⟩ :=
      secondRounds.resolve_right fun zero => secondNegative.ne zero.1
    have firstBelow := not_le.1 ((value_nonneg_iff _ _).not.1 (not_le.2 firstNegative))
    have secondBelow := not_le.1 ((value_nonneg_iff _ _).not.1 (not_le.2 secondNegative))
    rw [← neg_neg firstMantissa, ← neg_neg secondMantissa, rounded_neg firstExponent (by omega),
      rounded_neg secondExponent (by omega), neg_le_neg]
    exact rounded_le_rounded (by omega) (by omega) (by push_cast; linarith)

/-! ## Adding keeps order -/

/-- The exact value of a zero or a finite value; an infinity or not-a-number counts as zero. -/
def value : UnpackedFloat → ℚ
  | .finite sign mantissa exponent _ => (sign.apply mantissa : Int) * 2 ^ exponent
  | _ => 0

@[simp]
theorem value_zero (sign : Sign) : value (.zero sign) = 0 := rfl

theorem roundingExponent_of_isCanonical {mantissa : Nat} {exponent : Int} (positive : 0 < mantissa)
    (canonical : IsCanonical mantissa exponent) :
    roundingExponent mantissa exponent = exponent := by
  have bits : mantissa.log2 < 53 :=
    (Nat.log2_lt (Nat.pos_iff_ne_zero.1 positive)).2 canonical.mantissa_lt
  have leading : exponent = -1074 ∨ mantissa.log2 = 52 := by
    rcases canonical.leading with least | high
    · exact .inl least
    · exact .inr ((Nat.log2_eq_iff (Nat.pos_iff_ne_zero.1 positive)).2
        ⟨high, canonical.mantissa_lt⟩)
  have least := canonical.least_le
  simp only [roundingExponent]
  omega

theorem round_of_isCanonical (sign : Sign) {mantissa : Nat} {exponent : Int}
    (positive : 0 < mantissa) (canonical : IsCanonical mantissa exponent) :
    UnpackedFloat.round .binary64 sign mantissa exponent =
      .finite sign mantissa exponent positive := by
  have kept : nearestMantissa mantissa exponent = mantissa := by
    simp [nearestMantissa, roundingExponent_of_isCanonical positive canonical, divRoundHalfEven,
      Nat.mod_one]
  rw [round_eq sign exponent positive, kept, roundingExponent_of_isCanonical positive canonical,
    dif_neg positive.ne', if_pos canonical.mantissa_lt]

theorem normalize_apply (sign : Sign) {mantissa : Nat} (exponent : Int) (positive : 0 < mantissa) :
    UnpackedFloat.normalize .binary64 (sign.apply mantissa) exponent .positive =
      UnpackedFloat.round .binary64 sign mantissa exponent := by
  cases sign with
  | positive =>
    have above : (0 : Int) < mantissa := by omega
    simp [Sign.apply, UnpackedFloat.normalize, compare_gt_iff_gt.2 above]
  | negative =>
    have below : -(mantissa : Int) < 0 := by omega
    simp [Sign.apply, UnpackedFloat.normalize, compare_lt_iff_lt.2 below]

theorem roundsTo_value {value' : UnpackedFloat} (canonical : Canonical value') :
    RoundsTo (value value') (unpack .binary64 (pack .binary64 value')) := by
  cases value' with
  | infinity _ | notANumber => exact canonical.elim
  | zero sign => exact .inr ⟨rfl, sign, unpack_pack_zero sign⟩
  | finite sign mantissa exponent positive =>
    refine .inl ⟨sign.apply mantissa, exponent, rfl, ?_⟩
    rw [rounded, normalize_apply sign exponent positive,
      round_of_isCanonical sign positive canonical]

/-- A signed mantissa shifted down to a lower exponent keeps its value. -/
theorem cast_apply_shiftLeft (sign : Sign) (mantissa : Nat) {exponent low : Int}
    (below : low ≤ exponent) :
    ((sign.apply (mantissa <<< (exponent - low).toNat : Nat) : Int) : ℚ) * 2 ^ low =
      (sign.apply mantissa : Int) * 2 ^ exponent := by
  have shifted := cast_shiftLeft mantissa exponent low
  have unshifted : ((low - exponent).toNat : Int) = 0 := by omega
  rw [unshifted, zero_sub] at shifted
  have cancel : (2 : ℚ) ^ (-low) * 2 ^ low = 1 := by
    rw [← zpow_add₀ two_ne_zero, neg_add_cancel, zpow_zero]
  cases sign <;>
    simp only [Sign.apply, Int.cast_neg, Int.cast_natCast, neg_mul, shifted, mul_assoc, cancel,
      mul_one]

/-- The sum of two canonical values is the rounding of the exact sum of their values. -/
theorem roundsTo_add {first second : UnpackedFloat} (firstCanonical : Canonical first)
    (secondCanonical : Canonical second) :
    RoundsTo (value first + value second)
      (unpack .binary64 (pack .binary64 (UnpackedFloat.add .binary64 first second))) := by
  cases first with
  | infinity _ | notANumber => exact firstCanonical.elim
  | zero firstSign =>
    cases second with
    | infinity _ | notANumber => exact secondCanonical.elim
    | zero secondSign =>
      -- two zeros add to a zero
      refine .inr ⟨by simp [value], ?_⟩
      simp only [UnpackedFloat.add]
      split
      · exact ⟨_, unpack_pack_zero _⟩
      · exact ⟨_, unpack_pack_zero _⟩
    | finite sign mantissa exponent positive =>
      -- a zero added to a value gives the value
      rw [value_zero, zero_add]
      exact roundsTo_value secondCanonical
  | finite firstSign firstMantissa firstExponent firstPositive =>
    cases second with
    | infinity _ | notANumber => exact secondCanonical.elim
    | zero _ =>
      rw [value_zero, add_zero]
      exact roundsTo_value firstCanonical
    | finite secondSign secondMantissa secondExponent secondPositive =>
      -- both mantissas are brought to the lower exponent and added exactly
      refine .inl ⟨firstSign.apply
          (firstMantissa <<< (firstExponent - min firstExponent secondExponent).toNat : Nat) +
        secondSign.apply
          (secondMantissa <<< (secondExponent - min firstExponent secondExponent).toNat : Nat),
        min firstExponent secondExponent, ?_, rfl⟩
      rw [Int.cast_add, add_mul, cast_apply_shiftLeft _ _ (min_le_left _ _),
        cast_apply_shiftLeft _ _ (min_le_right _ _)]
      rfl

/-- Canonical mantissas in order of exponent and then mantissa are in order of value. -/
theorem value_le_of_lex {first second : Nat} {firstExponent secondExponent : Int}
    (firstCanonical : IsCanonical first firstExponent)
    (secondCanonical : IsCanonical second secondExponent)
    (order : firstExponent < secondExponent ∨ (firstExponent = secondExponent ∧ first ≤ second)) :
    (first : ℚ) * 2 ^ firstExponent ≤ second * 2 ^ secondExponent := by
  have shifted : ((first <<< (firstExponent - firstExponent).toNat : Nat) : ℚ) ≤
      ((second <<< (secondExponent - firstExponent).toNat : Nat) : ℚ) :=
    Nat.cast_le.2 (firstCanonical.shiftLeft_le secondCanonical le_rfl order)
  have unshifted : ((firstExponent - secondExponent).toNat : Int) = 0 := by omega
  rw [cast_shiftLeft, cast_shiftLeft, unshifted, sub_self, Int.toNat_zero, Nat.cast_zero,
    zero_sub] at shifted
  exact le_of_mul_le_mul_right shifted (by positivity)

/-- Comparing canonical values compares their exact values. -/
theorem value_le_value {first second : UnpackedFloat} (firstCanonical : Canonical first)
    (secondCanonical : Canonical second) (le : first.le second = true) :
    value first ≤ value second := by
  cases first with
  | infinity _ | notANumber => exact firstCanonical.elim
  | zero firstSign =>
    cases second with
    | infinity _ | notANumber => exact secondCanonical.elim
    | zero _ => exact le_rfl
    | finite sign mantissa exponent positive =>
      cases sign with
      | negative => simp [UnpackedFloat.le, UnpackedFloat.compare] at le
      | positive =>
        simp only [value, Sign.apply, Int.cast_natCast]
        positivity
  | finite firstSign firstMantissa firstExponent firstPositive =>
    cases second with
    | infinity _ | notANumber => exact secondCanonical.elim
    | zero _ =>
      cases firstSign with
      | negative =>
        simp only [value, Sign.apply, Int.cast_neg, Int.cast_natCast, neg_mul,
          Left.neg_nonpos_iff]
        positivity
      | positive => simp [UnpackedFloat.le, UnpackedFloat.compare] at le
    | finite secondSign secondMantissa secondExponent secondPositive =>
      cases firstSign <;> cases secondSign
      · -- two negative values: the one of larger magnitude is lower
        simp only [UnpackedFloat.le, UnpackedFloat.compare, Option.any_some, Ordering.swap_then,
          Int.compare_swap, Nat.compare_swap, isLE_compare_then, Prod.Lex.toLex_le_toLex] at le
        simp only [value, Sign.apply, Int.cast_neg, Int.cast_natCast, neg_mul, neg_le_neg_iff]
        exact value_le_of_lex secondCanonical firstCanonical le
      · simp only [value, Sign.apply, Int.cast_neg, Int.cast_natCast, neg_mul]
        have : (0 : ℚ) ≤ firstMantissa * 2 ^ firstExponent := by positivity
        have : (0 : ℚ) ≤ secondMantissa * 2 ^ secondExponent := by positivity
        linarith
      · simp [UnpackedFloat.le, UnpackedFloat.compare] at le
      · simp only [UnpackedFloat.le, UnpackedFloat.compare, Option.any_some,
          isLE_compare_then, Prod.Lex.toLex_le_toLex] at le
        simp only [value, Sign.apply, Int.cast_natCast]
        exact value_le_of_lex firstCanonical secondCanonical le

theorem unpack_pack_notANumber :
    unpack .binary64 (pack .binary64 .notANumber) = .notANumber :=
  unpack_packedNaN

theorem unpack_pack_infinity (sign : Sign) :
    unpack .binary64 (pack .binary64 (.infinity sign)) = .infinity sign := by
  simp [pack, packedInfinity, unpack, unpackExponent_packComponents, unpackMantissa_packComponents]

/-- A sum is finite only when its terms are: an infinity or not-a-number added to anything gives
an infinity or not-a-number. -/
theorem isFinite_of_isFinite_add {first second : UnpackedFloat}
    (finite : (unpack .binary64
      (pack .binary64 (UnpackedFloat.add .binary64 first second))).isFinite = true) :
    first.isFinite = true := by
  cases first with
  | zero _ | finite _ _ _ _ => rfl
  | notANumber =>
    simp [UnpackedFloat.add, unpack_pack_notANumber, UnpackedFloat.isFinite] at finite
  | infinity sign =>
    cases second with
    | infinity other =>
      simp only [UnpackedFloat.add] at finite
      split at finite <;>
        simp [unpack_pack_notANumber, unpack_pack_infinity, UnpackedFloat.isFinite] at finite
    | _ =>
      simp [UnpackedFloat.add, unpack_pack_notANumber, unpack_pack_infinity,
        UnpackedFloat.isFinite] at finite

theorem le_of_lt {first second : UnpackedFloat} (lt : first.lt second = true) :
    first.le second = true := by
  simp only [UnpackedFloat.lt, beq_iff_eq] at lt
  simp [UnpackedFloat.le, lt]

end Unpacked

/-! ## Adding a float keeps order -/

/-- Adding the same finite value to two finite values keeps their order. -/
theorem Float.add_le_add_right {first second : Float} (added : Float)
    (finiteFirst : first.isFinite = true) (finiteSecond : second.isFinite = true)
    (finiteAdded : added.isFinite = true) (le : first ≤ second) :
    first + added ≤ second + added := by
  rw [Float.le_iff_unpack_le] at le ⊢
  have firstCanonical := Unpacked.canonical_unpack finiteFirst
  have secondCanonical := Unpacked.canonical_unpack finiteSecond
  have addedCanonical := Unpacked.canonical_unpack finiteAdded
  have exact := Unpacked.value_le_value firstCanonical secondCanonical le
  exact (Unpacked.roundsTo_add firstCanonical addedCanonical).le
    (Unpacked.roundsTo_add secondCanonical addedCanonical) (add_le_add exact le_rfl)

theorem Float.le_of_lt {first second : Float} (lt : first < second) : first ≤ second := by
  rw [Float.le_iff_unpack_le]
  exact Unpacked.le_of_lt (of_decide_eq_true lt)

theorem Float.isFinite_of_isFinite_add {first second : Float}
    (finite : (first + second).isFinite = true) : first.isFinite = true :=
  Unpacked.isFinite_of_isFinite_add finite

namespace DrawingEntity

/-- An imported arc starts at its start angle in radians. It ends below the start exactly when
its end angle in radians lies below the start even after one full turn is added, and sweeps
counter-clockwise otherwise. It ends at most a turn above its start exactly when its end angle
lies below the start, and is raised, or at most a turn above it. -/
theorem arc_imports_counter_clockwise_within_a_turn
    {center : Point} {radius startDegrees endDegrees : Float} {arc : Arc}
    (imported : (DrawingEntity.arc center radius startDegrees endDegrees).convert =
      some (.ok (.arc arc))) :
    arc.startAngle = startDegrees * radiansPerDegree ∧
      (arc.endAngle < arc.startAngle ↔
        endDegrees * radiansPerDegree < startDegrees * radiansPerDegree ∧
          endDegrees * radiansPerDegree + fullTurn < startDegrees * radiansPerDegree) ∧
      (¬ arc.endAngle < arc.startAngle → arc.direction = .counterClockwise) ∧
      (arc.endAngle ≤ arc.startAngle + fullTurn ↔
        endDegrees * radiansPerDegree < startDegrees * radiansPerDegree ∨
          endDegrees * radiansPerDegree ≤ startDegrees * radiansPerDegree + fullTurn) := by
  rw [convert_arc, Option.some.injEq] at imported
  -- the constructor made the arc, so its angles are finite
  cases made : Arc.make? center radius (startDegrees * radiansPerDegree)
      (if endDegrees * radiansPerDegree < startDegrees * radiansPerDegree then
        endDegrees * radiansPerDegree + fullTurn
      else endDegrees * radiansPerDegree) with
  | error error => simp [made] at imported
  | ok madeArc =>
      simp only [made, Except.map_ok, Except.ok.injEq, Primitive.arc.injEq] at imported
      subst imported
      obtain ⟨rfl, -, -, finiteStart, finiteEnd⟩ := Arc.eq_of_make made
      refine ⟨rfl, ?_, Arc.direction_eq_counterClockwise finiteStart finiteEnd, ?_⟩
      · by_cases below : endDegrees * radiansPerDegree < startDegrees * radiansPerDegree
        · rw [if_pos below]
          simp only [below, true_and]
        · rw [if_neg below]
          simp only [below, false_and]
      · by_cases below : endDegrees * radiansPerDegree < startDegrees * radiansPerDegree
        · -- the raised end stays within a turn of the start: adding a turn keeps the order
          rw [if_pos below] at finiteEnd ⊢
          simp only [below, true_or, iff_true]
          exact Float.add_le_add_right fullTurn (Float.isFinite_of_isFinite_add finiteEnd)
            finiteStart (by decide +kernel) (Float.le_of_lt below)
        · rw [if_neg below]
          simp only [below, false_or]

/-- An arc from 350° to 10° crosses zero and imports counter-clockwise, its end raised by a turn
and within a turn of its start. -/
theorem arc_across_zero_imports_counter_clockwise :
    (DrawingEntity.arc ⟨0, 0⟩ 1 350 10).convert =
        some (.ok (.arc ⟨⟨0, 0⟩, 1, 350 * radiansPerDegree, 10 * radiansPerDegree + fullTurn⟩)) ∧
      Arc.direction ⟨⟨0, 0⟩, 1, 350 * radiansPerDegree, 10 * radiansPerDegree + fullTurn⟩ =
        .counterClockwise ∧
      10 * radiansPerDegree + fullTurn ≤ 350 * radiansPerDegree + fullTurn := by
  have imported : (DrawingEntity.arc ⟨0, 0⟩ 1 350 10).convert =
      some (.ok (.arc ⟨⟨0, 0⟩, 1, 350 * radiansPerDegree, 10 * radiansPerDegree + fullTurn⟩)) := by
    rw [convert_arc, if_pos (by decide +kernel), Arc.make_of_isFinite (by decide +kernel)
      (by decide +kernel) (by decide +kernel) (by decide +kernel) (by decide +kernel)]
    rfl
  have within := arc_imports_counter_clockwise_within_a_turn imported
  exact ⟨imported, within.2.2.1 (by decide +kernel), within.2.2.2.2 (.inl (by decide +kernel))⟩

/-- Arcs whose angles lie more than a turn apart import outside a counter-clockwise turn. From
720° to 90° the end, raised once, stays below the start, from `4π` to `π / 2 + 2π`, and the arc
sweeps clockwise; from 0° to 720° the end is kept at `4π`, more than a turn above the start. -/
theorem arcs_turns_apart_import_outside_a_turn :
    ((DrawingEntity.arc ⟨0, 0⟩ 1 720 90).convert =
        some (.ok (.arc ⟨⟨0, 0⟩, 1, 720 * radiansPerDegree, 90 * radiansPerDegree + fullTurn⟩)) ∧
      90 * radiansPerDegree + fullTurn < 720 * radiansPerDegree ∧
      Arc.direction ⟨⟨0, 0⟩, 1, 720 * radiansPerDegree, 90 * radiansPerDegree + fullTurn⟩ =
        .clockwise) ∧
    ((DrawingEntity.arc ⟨0, 0⟩ 1 0 720).convert =
        some (.ok (.arc ⟨⟨0, 0⟩, 1, 0 * radiansPerDegree, 720 * radiansPerDegree⟩)) ∧
      ¬ 720 * radiansPerDegree ≤ 0 * radiansPerDegree + fullTurn) := by
  refine ⟨⟨?_, by decide +kernel, by decide +kernel⟩, ⟨?_, by decide +kernel⟩⟩
  · rw [convert_arc, if_pos (by decide +kernel), Arc.make_of_isFinite (by decide +kernel)
      (by decide +kernel) (by decide +kernel) (by decide +kernel) (by decide +kernel)]
    rfl
  · rw [convert_arc, if_neg (by decide +kernel), Arc.make_of_isFinite (by decide +kernel)
      (by decide +kernel) (by decide +kernel) (by decide +kernel) (by decide +kernel)]
    rfl

end DrawingEntity

end Toolpath
