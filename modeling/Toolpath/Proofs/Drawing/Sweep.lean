import Toolpath.Proofs.Geometry.Distance
import Toolpath.Proofs.Motion.Numbers
import Toolpath.Drawing.Import

/-!
# The sweep of an imported arc

A drawing gives an arc's angles in degrees, counter-clockwise. Import turns both into radians
and, when the end comes out below the start, adds one full turn to the end, once. An arc whose
end is not below its start sweeps counter-clockwise: the difference of two finite values in order
is never negative.

The sign of a difference is read off the language's model of binary64 arithmetic. `unpack` writes
a finite value with a mantissa below `2 ^ 53`, whose leading bit is set unless the exponent is
the least one; comparison orders such values by exponent and then by mantissa, and that is the
order of the mantissas once both are shifted to the smaller exponent, which subtraction then
takes apart.

Main statements:
* `Float.not_sub_lt_zero`: the difference of two finite values, the first not below the second,
  is not below zero;
* `Arc.direction_eq_counterClockwise`: an arc of finite angles that ends no lower than it starts
  sweeps counter-clockwise;
* `DrawingEntity.convert_arc`: an arc entity converts through the constructor, its end raised
  by one full turn when it lies below the start.
-/

namespace Toolpath

open Float.Model (UnpackedFloat)
open Float.Model.UnpackedFloat

namespace Unpacked

/-! ## How `unpack` writes a finite value -/

/-- A mantissa and exponent as `unpack` writes a finite binary64 value: the mantissa is below
`2 ^ 53`, the exponent at least `-1074`, and the leading bit is set above that least exponent. -/
structure IsCanonical (mantissa : Nat) (exponent : Int) : Prop where
  mantissa_lt : mantissa < 2 ^ 53
  least_le : -1074 ≤ exponent
  leading : exponent = -1074 ∨ 2 ^ 52 ≤ mantissa

/-- A finite value in the form `unpack` writes it: a zero, or a canonical mantissa and exponent. -/
def Canonical : UnpackedFloat → Prop
  | .zero _ => True
  | .finite _ mantissa exponent _ => IsCanonical mantissa exponent
  | .infinity _ | .notANumber => False

/-- `unpack` writes every finite binary64 value in canonical form. -/
theorem canonical_unpack {bits : BitVec 64} (finite : (unpack .binary64 bits).isFinite = true) :
    Canonical (unpack .binary64 bits) := by
  have fraction : (@unpackMantissa .binary64 bits).toNat < 2 ^ 52 :=
    (@unpackMantissa .binary64 bits).isLt
  have bias : Float.Model.Format.binary64.exponentBias = 1023 := rfl
  unfold unpack at finite ⊢
  simp only at finite ⊢
  by_cases allOnes : @unpackExponent .binary64 bits = -1#11
  · rw [if_pos allOnes] at finite
    split at finite <;> simp [UnpackedFloat.isFinite] at finite
  · rw [if_neg allOnes]
    by_cases zeroField : @unpackExponent .binary64 bits = 0#11
    · rw [if_pos zeroField]
      split
      · trivial
      · -- a subnormal value: the fraction at the least exponent
        have field : (@unpackExponent .binary64 bits).toNat = 0 := by rw [zeroField]; rfl
        refine ⟨by omega, ?_, .inl ?_⟩ <;> simp only [field, bias] <;> omega
    · rw [if_neg zeroField]
      -- a normal value: the fraction under its leading bit, at an exponent above the least
      have field : (@unpackExponent .binary64 bits).toNat ≠ 0 := fun zero =>
        zeroField (BitVec.eq_of_toNat_eq (by rw [zero]; rfl))
      have leading : 2 ^ 52 ≤ (1#1 ++ @unpackMantissa .binary64 bits).toNat := by
        rw [BitVec.toNat_append]
        exact Nat.le_trans (by decide) Nat.left_le_or
      refine ⟨(1#1 ++ @unpackMantissa .binary64 bits).isLt, ?_, .inr leading⟩
      simp only [bias]
      omega

/-! ## Comparison is the order of the shifted mantissas -/

/-- Exponents and mantissas compared exponent first and found not below: the first exponent is
higher, or equal with a mantissa at least as large. -/
theorem lex_of_then_ne_lt {e₁ e₂ : Int} {m₁ m₂ : Nat}
    (notBelow : (compare e₁ e₂).then (compare m₁ m₂) ≠ .lt) :
    e₂ < e₁ ∨ (e₂ = e₁ ∧ m₂ ≤ m₁) := by
  rcases lt_trichotomy e₁ e₂ with below | rfl | above
  · simp [compare_lt_iff_lt.2 below] at notBelow
  · simp only [compare_eq_iff_eq.2 rfl, Ordering.eq_then] at notBelow
    exact .inr ⟨rfl, Nat.not_lt.1 fun above => notBelow (compare_lt_iff_lt.2 above)⟩
  · exact .inl above

theorem lex_of_then_ne_gt {e₁ e₂ : Int} {m₁ m₂ : Nat}
    (notAbove : (compare e₁ e₂).then (compare m₁ m₂) ≠ .gt) :
    e₁ < e₂ ∨ (e₁ = e₂ ∧ m₁ ≤ m₂) := by
  apply lex_of_then_ne_lt
  rw [← Int.compare_swap, ← Nat.compare_swap, ← Ordering.swap_then]
  cases comparison : (compare e₁ e₂).then (compare m₁ m₂) <;>
    simp [comparison, Ordering.swap] at notAbove ⊢

/-- Shifting two canonical mantissas to a common lower exponent keeps their order: the lower
exponent has a mantissa below `2 ^ 53`, the higher one its leading bit at `2 ^ 52`. -/
theorem IsCanonical.shiftLeft_le {m₁ m₂ : Nat} {e₁ e₂ low : Int} (first : IsCanonical m₁ e₁)
    (second : IsCanonical m₂ e₂) (lowFirst : low ≤ e₁) (order : e₁ < e₂ ∨ (e₁ = e₂ ∧ m₁ ≤ m₂)) :
    m₁ <<< (e₁ - low).toNat ≤ m₂ <<< (e₂ - low).toNat := by
  rw [Nat.shiftLeft_eq, Nat.shiftLeft_eq]
  rcases order with below | ⟨rfl, le⟩
  · have leadingBit : 2 ^ 52 ≤ m₂ :=
      second.leading.resolve_left (by have := first.least_le; omega)
    have shift : (e₁ - low).toNat + 1 ≤ (e₂ - low).toNat := by omega
    calc m₁ * 2 ^ (e₁ - low).toNat
        ≤ 2 ^ 53 * 2 ^ (e₁ - low).toNat := Nat.mul_le_mul_right _ first.mantissa_lt.le
      _ = 2 ^ 52 * 2 ^ ((e₁ - low).toNat + 1) := by rw [Nat.pow_succ]; omega
      _ ≤ m₂ * 2 ^ (e₂ - low).toNat :=
        Nat.mul_le_mul leadingBit (Nat.pow_le_pow_right (by decide) shift)
  · exact Nat.mul_le_mul_right _ le

/-! ## Differences of ordered values -/

/-- The difference of two canonical values, the first not below the second, is a zero or a
positive number. -/
theorem hasSign_sub_of_not_lt {first second : UnpackedFloat} (canonicalFirst : Canonical first)
    (canonicalSecond : Canonical second) (notBelow : first.lt second = false) :
    HasSign .positive (UnpackedFloat.sub .binary64 first second) := by
  cases first with
  | infinity _ | notANumber => exact canonicalFirst.elim
  | zero firstSign =>
      cases second with
      | infinity _ | notANumber => exact canonicalSecond.elim
      | zero secondSign =>
          simp only [UnpackedFloat.sub]
          split <;> trivial
      | finite secondSign mantissa exponent positive =>
          cases secondSign with
          | negative => rfl
          | positive => simp [UnpackedFloat.lt, UnpackedFloat.compare] at notBelow
  | finite firstSign m₁ e₁ p₁ =>
      cases second with
      | infinity _ | notANumber => exact canonicalSecond.elim
      | zero _ =>
          cases firstSign with
          | negative => simp [UnpackedFloat.lt, UnpackedFloat.compare] at notBelow
          | positive => rfl
      | finite secondSign m₂ e₂ p₂ =>
          simp only [UnpackedFloat.sub, decreaseExponent]
          apply hasSign_normalize_of_nonneg
          -- the mantissas shifted to the smaller exponent, in the order comparison gives
          have lowFirst : min e₁ e₂ ≤ e₁ := min_le_left e₁ e₂
          have lowSecond : min e₁ e₂ ≤ e₂ := min_le_right e₁ e₂
          cases firstSign <;> cases secondSign <;>
            simp [UnpackedFloat.lt, UnpackedFloat.compare] at notBelow
          case negative.negative =>
            have shifted := IsCanonical.shiftLeft_le canonicalFirst canonicalSecond lowFirst
              (lex_of_then_ne_gt notBelow)
            simp only [Sign.apply]
            omega
          case positive.negative =>
            simp only [Sign.apply]
            generalize m₁ <<< (e₁ - min e₁ e₂).toNat = first
            generalize m₂ <<< (e₂ - min e₁ e₂).toNat = second
            omega
          case positive.positive =>
            have shifted := IsCanonical.shiftLeft_le canonicalSecond canonicalFirst lowSecond
              (lex_of_then_ne_lt notBelow)
            simp only [Sign.apply]
            omega

/-- A zero or a positive number is not below zero. -/
theorem lt_zero_eq_false {value : UnpackedFloat} (signed : HasSign .positive value)
    (zeroSign : Sign) : value.lt (.zero zeroSign) = false := by
  cases value with
  | notANumber => exact signed.elim
  | infinity sign =>
      subst signed
      rfl
  | zero sign => rfl
  | finite sign mantissa exponent positive =>
      subst signed
      rfl

end Unpacked

/-! ## Differences of ordered floats -/

/-- The difference of two finite values, the first not below the second, is not below zero. -/
theorem Float.not_sub_lt_zero {first second : Float} (finiteFirst : first.isFinite = true)
    (finiteSecond : second.isFinite = true) (notBelow : ¬ first < second) :
    ¬ first - second < 0.0 := by
  have ordered : first.toModel.unpack.lt second.toModel.unpack = false :=
    Bool.eq_false_iff.2 fun below => notBelow (decide_eq_true below)
  have signed : Unpacked.HasSign .positive (first - second).toModel.unpack :=
    Unpacked.hasSign_unpack_pack (Unpacked.hasSign_sub_of_not_lt
      (Unpacked.canonical_unpack finiteFirst) (Unpacked.canonical_unpack finiteSecond) ordered)
  have zero : (0.0 : Float).toModel.unpack = .zero .positive := by rfl
  intro below
  have negative : (first - second).toModel.unpack.lt (0.0 : Float).toModel.unpack = true :=
    of_decide_eq_true below
  rw [zero, Unpacked.lt_zero_eq_false signed] at negative
  exact Bool.false_ne_true negative

/-! ## The direction of an arc -/

/-- An arc of finite angles whose end angle is not below its start angle sweeps
counter-clockwise. -/
theorem Arc.direction_eq_counterClockwise {arc : Arc}
    (finiteStart : arc.startAngle.isFinite = true) (finiteEnd : arc.endAngle.isFinite = true)
    (ordered : ¬ arc.endAngle < arc.startAngle) : arc.direction = .counterClockwise := by
  unfold Arc.direction
  rw [if_neg (Float.not_sub_lt_zero finiteEnd finiteStart ordered)]

/-- The constructor takes a finite centre, a finite positive radius and finite angles. -/
theorem Arc.make_of_isFinite {center : Point} {radius startAngle endAngle : Float}
    (finiteCenter : center.isFinite = true) (finiteRadius : radius.isFinite = true)
    (positive : ¬ radius ≤ 0.0) (finiteStart : startAngle.isFinite = true)
    (finiteEnd : endAngle.isFinite = true) :
    Arc.make? center radius startAngle endAngle = .ok ⟨center, radius, startAngle, endAngle⟩ := by
  simp [Arc.make?, checkRadius, finiteCenter, finiteRadius, positive, finiteStart, finiteEnd]

/-! ## The sweep of an imported arc -/

namespace DrawingEntity

/-- An arc entity converts through the constructor, its angles in radians and its end raised by
one full turn when it lies below the start. -/
theorem convert_arc (center : Point) (radius startDegrees endDegrees : Float) :
    (DrawingEntity.arc center radius startDegrees endDegrees).convert =
      some (Primitive.arc <$> Arc.make? center radius (startDegrees * radiansPerDegree)
        (if endDegrees * radiansPerDegree < startDegrees * radiansPerDegree then
          endDegrees * radiansPerDegree + fullTurn
        else endDegrees * radiansPerDegree)) := by
  simp only [convert, counterClockwiseSweep]
  split <;> rfl

end DrawingEntity

end Toolpath
