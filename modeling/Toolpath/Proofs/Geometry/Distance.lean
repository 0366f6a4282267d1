import Mathlib
import Toolpath.Geometry.Point

/-!
# Distances between finite points are ordered

Floating-point comparison is no order: a not-a-number value is neither below nor above anything,
itself included. A distance between two points with finite coordinates is never one. Its
differences are numbers, possibly infinite; their squares are non-negative, so is their sum, and
the square root of a non-negative number is a number again. On the non-negative values (the two
zeros, the positive finite numbers and positive infinity) `≤` is a total preorder: it compares
them as zeros first, then finite numbers by exponent and mantissa, then infinity.

All of it is read off the language's own model of binary64 arithmetic, where every operation
unpacks its arguments into signs, mantissas and exponents, computes and rounds, and packs the
result again.

Main statements:
* `isNonnegative_distanceTo`: the distance between points with finite coordinates is
  non-negative;
* `le_total_of_isNonnegative`, `le_trans_of_isNonnegative`, `le_refl_of_isNonnegative`:
  comparison is a total preorder on non-negative values.
-/

namespace Toolpath

open Float.Model (UnpackedFloat)
open Float.Model.UnpackedFloat

namespace Unpacked

/-- A value that is a number of the given sign: a zero of either sign, or an infinity or a finite
number of that sign. Not-a-number has no sign. -/
def HasSign (sign : Sign) : UnpackedFloat → Prop
  | .notANumber => False
  | .infinity other => other = sign
  | .zero _ => True
  | .finite other _ _ _ => other = sign

/-! ## Packing keeps the sign -/

theorem ofBitVec_toBitVec (sign : Sign) : Sign.ofBitVec sign.toBitVec = sign := by
  cases sign <;> rfl

theorem unpackSign_packComponents {sign : Sign} {exponent : BitVec 11} {mantissa : BitVec 52} :
    unpackSign (packComponents .binary64 sign exponent mantissa) = sign.toBitVec := by
  simp only [unpackSign, packComponents, BitVec.extractLsb]
  rw [BitVec.extractLsb'_append_eq_of_le (by omega),
    BitVec.extractLsb'_append_eq_of_le (by omega)]
  cases sign <;> rfl

/-- Unpacking the fields of a number gives a number of their sign, unless the exponent field is
all ones with a mantissa, which is how not-a-number is written. -/
theorem hasSign_unpack_packComponents (sign : Sign) (exponent : BitVec 11) (mantissa : BitVec 52)
    (written : exponent ≠ -1#11 ∨ mantissa = 0#52) :
    HasSign sign (unpack .binary64 (packComponents .binary64 sign exponent mantissa)) := by
  unfold unpack
  simp only [unpackMantissa_packComponents, unpackExponent_packComponents,
    unpackSign_packComponents, ofBitVec_toBitVec]
  split
  · split
    · rfl
    · next allOnes _ => simp_all
  · split
    · split <;> trivial
    · rfl

/-- Packing a number and unpacking it again gives a number of the same sign: it may round to
infinity or to zero, never to not-a-number. -/
theorem hasSign_unpack_pack {sign : Sign} {value : UnpackedFloat} (signed : HasSign sign value) :
    HasSign sign (unpack .binary64 (pack .binary64 value)) := by
  cases value with
  | notANumber => exact signed.elim
  | infinity other =>
      subst signed
      exact hasSign_unpack_packComponents other _ _ (.inr rfl)
  | zero other =>
      -- a zero packs to the fields of a zero, of whatever sign
      cases other <;> exact trivial
  | finite other mantissa exponent positive =>
      subst signed
      unfold pack
      dsimp only
      split
      · exact hasSign_unpack_packComponents other _ _ (.inr rfl)
      · next inRange =>
          split
          · -- a normal number: its exponent field is below all ones
            apply hasSign_unpack_packComponents
            left
            intro allOnes
            have fields := congrArg BitVec.toNat allOnes
            simp [BitVec.toNat_ofNat] at fields inRange
            omega
          · exact hasSign_unpack_packComponents other _ _ (.inl (by decide))

/-! ## Arithmetic on numbers gives numbers -/

section Arithmetic

variable (spec : Float.Model.Format)

/-- Rounding a finite number gives a zero or a finite number of its sign. -/
theorem hasSign_roundWithAccuracy (sign : Sign) (mantissa : Nat) (exponent : Int)
    (accuracy : Accuracy) :
    HasSign sign (roundWithAccuracy spec sign mantissa exponent accuracy) := by
  unfold roundWithAccuracy
  dsimp only
  split
  · trivial
  · rfl

/-- Normalizing a mantissa that is not negative gives a zero or a positive finite number. -/
theorem hasSign_normalize_of_nonneg {mantissa : Int} (exponent : Int) (zeroSign : Sign)
    (nonneg : 0 ≤ mantissa) :
    HasSign .positive (UnpackedFloat.normalize spec mantissa exponent zeroSign) := by
  unfold UnpackedFloat.normalize
  split
  · next below => have := Int.compare_eq_lt.1 below; omega
  · trivial
  · exact hasSign_roundWithAccuracy spec _ _ _ _

/-- Normalizing any mantissa gives a number. -/
theorem exists_hasSign_normalize (mantissa exponent : Int) (zeroSign : Sign) :
    ∃ sign, HasSign sign (UnpackedFloat.normalize spec mantissa exponent zeroSign) := by
  unfold UnpackedFloat.normalize
  split
  · exact ⟨_, hasSign_roundWithAccuracy spec _ _ _ _⟩
  · exact ⟨.positive, trivial⟩
  · exact ⟨_, hasSign_roundWithAccuracy spec _ _ _ _⟩

/-- The difference of two finite values is a number, possibly infinite once packed. -/
theorem exists_hasSign_sub {first second : UnpackedFloat}
    (finiteFirst : first.isFinite = true) (finiteSecond : second.isFinite = true) :
    ∃ sign, HasSign sign (UnpackedFloat.sub spec first second) := by
  cases first with
  | zero signFirst =>
      cases second with
      | zero signSecond =>
          refine ⟨.positive, ?_⟩
          simp only [UnpackedFloat.sub]
          split <;> trivial
      | finite signSecond mantissa exponent _ => exact ⟨-signSecond, rfl⟩
      | _ => cases finiteSecond
  | finite signFirst mantissa exponent _ =>
      cases second with
      | zero signSecond => exact ⟨signFirst, rfl⟩
      | finite signSecond => exact exists_hasSign_normalize spec _ _ _
      | _ => cases finiteSecond
  | _ => cases finiteFirst

theorem sign_mul_self (sign : Sign) : sign * sign = .positive := by
  cases sign <;> rfl

/-- A number times itself is a non-negative number. -/
theorem hasSign_mul_self {sign : Sign} {value : UnpackedFloat} (signed : HasSign sign value) :
    HasSign .positive (UnpackedFloat.mul spec value value) := by
  cases value with
  | notANumber => exact signed.elim
  | infinity other => exact sign_mul_self other
  | zero other => trivial
  | finite other mantissa exponent _ =>
      simp only [UnpackedFloat.mul]
      rw [sign_mul_self]
      exact hasSign_roundWithAccuracy spec _ _ _ _

/-- The sum of two non-negative numbers is a non-negative number. -/
theorem hasSign_add {first second : UnpackedFloat}
    (nonnegFirst : HasSign .positive first) (nonnegSecond : HasSign .positive second) :
    HasSign .positive (UnpackedFloat.add spec first second) := by
  cases first with
  | notANumber => exact nonnegFirst.elim
  | infinity signFirst =>
      subst nonnegFirst
      cases second with
      | notANumber => exact nonnegSecond.elim
      | infinity signSecond => subst nonnegSecond; rfl
      | _ => rfl
  | zero signFirst =>
      cases second with
      | notANumber => exact nonnegSecond.elim
      | zero signSecond => simp only [UnpackedFloat.add]; split <;> trivial
      | _ => exact nonnegSecond
  | finite signFirst mantissa exponent _ =>
      subst nonnegFirst
      cases second with
      | notANumber => exact nonnegSecond.elim
      | infinity signSecond => exact nonnegSecond
      | zero signSecond => rfl
      | finite signSecond =>
          subst nonnegSecond
          -- two positive mantissas, brought to the smaller exponent, add up to a positive one
          simp only [UnpackedFloat.add]
          apply hasSign_normalize_of_nonneg
          simp only [Sign.apply]
          omega

/-- The square root of a non-negative number is a non-negative number. -/
theorem hasSign_sqrt {value : UnpackedFloat} (nonneg : HasSign .positive value) :
    HasSign .positive (UnpackedFloat.sqrt spec value) := by
  cases value with
  | notANumber => exact nonneg.elim
  | infinity other => subst nonneg; rfl
  | zero other => trivial
  | finite other mantissa exponent _ =>
      subst nonneg
      simp only [UnpackedFloat.sqrt]
      exact hasSign_roundWithAccuracy spec _ _ _ _

end Arithmetic

/-! ## Comparing non-negative numbers -/

/-- Where a non-negative value stands: zeros first, then finite numbers by exponent and then by
mantissa, then infinity. -/
def rank : UnpackedFloat → ℕ ×ₗ ℤ ×ₗ ℕ
  | .zero _ => toLex (0, toLex (0, 0))
  | .finite _ mantissa exponent _ => toLex (1, toLex (exponent, mantissa))
  | .infinity _ => toLex (2, toLex (0, 0))
  | .notANumber => toLex (3, toLex (0, 0))

/-- Comparing exponents, and mantissas on equal exponents, is the lexicographic order. -/
theorem isLE_compare_then (exponent otherExponent : ℤ) (mantissa otherMantissa : ℕ) :
    ((compare exponent otherExponent).then (compare mantissa otherMantissa)).isLE = true ↔
      toLex (exponent, mantissa) ≤ toLex (otherExponent, otherMantissa) := by
  rw [Prod.Lex.toLex_le_toLex]
  rcases lt_trichotomy exponent otherExponent with below | rfl | above
  · simp [below, compare_lt_iff_lt.2 below]
  · simp [Nat.isLE_compare]
  · simp [compare_gt_iff_gt.2 above, not_lt_of_gt above, ne_of_gt above]

theorem compare_positive_positive : compare Sign.positive Sign.positive = .eq := rfl

/-- Comparing two non-negative values compares their ranks. -/
theorem le_iff_rank_le {first second : UnpackedFloat}
    (nonnegFirst : HasSign .positive first) (nonnegSecond : HasSign .positive second) :
    first.le second = true ↔ rank first ≤ rank second := by
  cases first <;> cases second <;> simp only [HasSign] at nonnegFirst nonnegSecond <;>
    subst_vars <;>
    simp [UnpackedFloat.le, UnpackedFloat.compare, rank, Prod.Lex.toLex_le_toLex,
      isLE_compare_then, compare_positive_positive]

end Unpacked

/-- A float that is a non-negative number: a zero of either sign, a positive finite number or
positive infinity. -/
def IsNonnegative (value : Float) : Prop :=
  Unpacked.HasSign .positive value.toModel.unpack

section FloatArithmetic

variable {first second : Float}

theorem exists_hasSign_sub
    (finiteFirst : first.isFinite = true) (finiteSecond : second.isFinite = true) :
    ∃ sign, Unpacked.HasSign sign (first - second).toModel.unpack :=
  let ⟨sign, signed⟩ := Unpacked.exists_hasSign_sub .binary64 finiteFirst finiteSecond
  ⟨sign, Unpacked.hasSign_unpack_pack signed⟩

theorem isNonnegative_mul_self {sign : Sign} (signed : Unpacked.HasSign sign first.toModel.unpack) :
    IsNonnegative (first * first) :=
  Unpacked.hasSign_unpack_pack (Unpacked.hasSign_mul_self .binary64 signed)

theorem isNonnegative_add (nonnegFirst : IsNonnegative first)
    (nonnegSecond : IsNonnegative second) : IsNonnegative (first + second) :=
  Unpacked.hasSign_unpack_pack (Unpacked.hasSign_add .binary64 nonnegFirst nonnegSecond)

theorem isNonnegative_sqrt (nonneg : IsNonnegative first) : IsNonnegative first.sqrt :=
  Unpacked.hasSign_unpack_pack (Unpacked.hasSign_sqrt .binary64 nonneg)

end FloatArithmetic

/-! ## Comparing non-negative floats -/

section Order

variable {first second third : Float}

/-- Floats compare as their unpacked values do. -/
theorem Float.le_iff_unpack_le (first second : Float) :
    first ≤ second ↔ first.toModel.unpack.le second.toModel.unpack = true := by
  show Float.le first second = true ↔ _
  simp only [Float.le, decide_eq_true_eq]
  rfl

theorem le_iff_rank_le (nonnegFirst : IsNonnegative first) (nonnegSecond : IsNonnegative second) :
    first ≤ second ↔
      Unpacked.rank first.toModel.unpack ≤ Unpacked.rank second.toModel.unpack := by
  rw [Float.le_iff_unpack_le]
  exact Unpacked.le_iff_rank_le nonnegFirst nonnegSecond

theorem le_refl_of_isNonnegative (nonneg : IsNonnegative first) : first ≤ first :=
  (le_iff_rank_le nonneg nonneg).2 le_rfl

theorem le_total_of_isNonnegative
    (nonnegFirst : IsNonnegative first) (nonnegSecond : IsNonnegative second) :
    first ≤ second ∨ second ≤ first := by
  rcases le_total (Unpacked.rank first.toModel.unpack) (Unpacked.rank second.toModel.unpack)
    with below | above
  · exact .inl ((le_iff_rank_le nonnegFirst nonnegSecond).2 below)
  · exact .inr ((le_iff_rank_le nonnegSecond nonnegFirst).2 above)

theorem le_trans_of_isNonnegative
    (nonnegFirst : IsNonnegative first) (nonnegSecond : IsNonnegative second)
    (nonnegThird : IsNonnegative third) (below : first ≤ second) (above : second ≤ third) :
    first ≤ third :=
  (le_iff_rank_le nonnegFirst nonnegThird).2
    (((le_iff_rank_le nonnegFirst nonnegSecond).1 below).trans
      ((le_iff_rank_le nonnegSecond nonnegThird).1 above))

end Order

/-- The distance between two points with finite coordinates is a non-negative number. -/
theorem isNonnegative_distanceTo {point other : Point}
    (finitePoint : point.isFinite = true) (finiteOther : other.isFinite = true) :
    IsNonnegative (point.distanceTo other) := by
  simp only [Point.isFinite, Bool.and_eq_true] at finitePoint finiteOther
  obtain ⟨signX, acrossX⟩ := exists_hasSign_sub finiteOther.1 finitePoint.1
  obtain ⟨signY, acrossY⟩ := exists_hasSign_sub finiteOther.2 finitePoint.2
  exact isNonnegative_sqrt
    (isNonnegative_add (isNonnegative_mul_self acrossX) (isNonnegative_mul_self acrossY))

end Toolpath
