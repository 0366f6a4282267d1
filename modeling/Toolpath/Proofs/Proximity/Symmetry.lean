import Toolpath.Proofs.Proximity.Greedy

/-!
# Distances between primitives are symmetric

A distance between points squares both differences of coordinates. Exchanging the points negates
each difference, or leaves it when it is a zero or not a number: binary64 rounding is symmetric
about zero, so the difference of two numbers taken the other way round is its negation, except
that an exact cancellation gives the positive zero both ways. A square does not see the sign,
so the two distances are the same value, bit for bit.

Every distance is a non-negative number or not a number: each square is one of these, and so
are their sum and its square root. From a point with finite coordinates to itself every
difference cancels, and the distance is zero.

Between primitives, a distance is taken between their starting points. It fails exactly when
one of them has none, and the failure names the first of the two that has none.

Main statements:
* `Float.sub_mul_self_comm`: the square of a difference does not depend on the order of its
  terms;
* `Point.distanceTo_comm`, `Point.isNonnegative_or_isNaN_distanceTo`,
  `Point.distanceTo_self`: the distance between points is symmetric, non-negative or not a
  number, and zero from a finite point to itself;
* `Primitive.distance_is_symmetric_and_fails_only_unplaced`: the same for primitives, which
  fail to be measured exactly when one has no starting point.
-/

namespace Toolpath

open Float.Model (UnpackedFloat)
open Float.Model.UnpackedFloat

namespace Unpacked

/-! ## Rounding is symmetric about zero -/

theorem neg_neg_sign (sign : Sign) : - -sign = sign := by
  cases sign <;> rfl

theorem neg_mul_neg_sign (sign : Sign) : (-sign) * (-sign) = sign * sign := by
  cases sign <;> rfl

section Negation

variable (spec : Float.Model.Format)

/-- Rounding a magnitude under the opposite sign gives the opposite value. -/
theorem roundWithAccuracy_neg (sign : Sign) (mantissa : Nat) (exponent : Int)
    (accuracy : Accuracy) :
    roundWithAccuracy spec (-sign) mantissa exponent accuracy =
      (roundWithAccuracy spec sign mantissa exponent accuracy).neg := by
  unfold roundWithAccuracy
  dsimp only
  split <;> rfl

theorem round_neg (sign : Sign) (mantissa : Nat) (exponent : Int) :
    UnpackedFloat.round spec (-sign) mantissa exponent =
      (UnpackedFloat.round spec sign mantissa exponent).neg :=
  roundWithAccuracy_neg spec _ _ _ _

/-- Normalizing the opposite of a mantissa that is not zero gives the opposite value. -/
theorem normalize_neg {mantissa : Int} (exponent : Int) (zeroSign : Sign)
    (nonzero : mantissa ≠ 0) :
    UnpackedFloat.normalize spec (-mantissa) exponent zeroSign =
      (UnpackedFloat.normalize spec mantissa exponent zeroSign).neg := by
  rcases lt_or_gt_of_ne nonzero with negative | positive
  · have flipped : 0 < -mantissa := by omega
    simp only [UnpackedFloat.normalize, compare_lt_iff_lt.2 negative,
      compare_gt_iff_gt.2 flipped]
    exact round_neg spec .negative _ _
  · have flipped : -mantissa < 0 := by omega
    simp only [UnpackedFloat.normalize, compare_lt_iff_lt.2 flipped,
      compare_gt_iff_gt.2 positive, Int.neg_neg]
    exact round_neg spec .positive _ _

/-- Subtracting the other way round negates the difference, or gives the same value: a zero from
an exact cancellation, or not a number. -/
theorem sub_swap (first second : UnpackedFloat) :
    UnpackedFloat.sub spec second first = (UnpackedFloat.sub spec first second).neg ∨
      UnpackedFloat.sub spec second first = UnpackedFloat.sub spec first second := by
  cases first with
  | notANumber => cases second <;> simp [UnpackedFloat.sub, UnpackedFloat.neg]
  | infinity s₁ =>
      cases second with
      | notANumber => simp [UnpackedFloat.sub]
      | infinity s₂ =>
          -- opposite infinities give opposite infinities, equal ones not a number either way
          cases s₁ <;> cases s₂
          · exact .inr rfl
          · exact .inl rfl
          · exact .inl rfl
          · exact .inr rfl
      | zero s₂ => exact .inl rfl
      | finite s₂ m₂ e₂ p₂ => exact .inl rfl
  | zero s₁ =>
      cases second with
      | notANumber => simp [UnpackedFloat.sub]
      | infinity s₂ => left; simp [UnpackedFloat.sub, UnpackedFloat.neg, neg_neg_sign]
      | zero s₂ =>
          -- opposite zeros give opposite zeros, equal ones the positive zero either way
          cases s₁ <;> cases s₂
          · exact .inr rfl
          · exact .inl rfl
          · exact .inl rfl
          · exact .inr rfl
      | finite s₂ m₂ e₂ p₂ => left; simp [UnpackedFloat.sub, UnpackedFloat.neg, neg_neg_sign]
  | finite s₁ m₁ e₁ p₁ =>
      cases second with
      | notANumber => simp [UnpackedFloat.sub]
      | infinity s₂ => left; simp [UnpackedFloat.sub, UnpackedFloat.neg, neg_neg_sign]
      | zero s₂ => left; simp [UnpackedFloat.sub, UnpackedFloat.neg]
      | finite s₂ m₂ e₂ p₂ =>
          -- both differences are taken at the smaller exponent and differ only in sign
          simp only [UnpackedFloat.sub, Int.min_comm e₂ e₁]
          generalize s₁.apply ↑(decreaseExponent m₁ e₁ (min e₁ e₂)).1 = shifted₁
          generalize s₂.apply ↑(decreaseExponent m₂ e₂ (min e₁ e₂)).1 = shifted₂
          by_cases cancel : shifted₁ - shifted₂ = 0
          · right
            rw [show shifted₂ - shifted₁ = shifted₁ - shifted₂ by omega]
          · left
            rw [show shifted₂ - shifted₁ = -(shifted₁ - shifted₂) by omega]
            exact normalize_neg spec _ _ cancel

/-- A square does not see the sign of what is squared. -/
theorem mul_neg_self (value : UnpackedFloat) :
    UnpackedFloat.mul spec value.neg value.neg = UnpackedFloat.mul spec value value := by
  cases value <;> simp only [UnpackedFloat.neg, UnpackedFloat.mul, neg_mul_neg_sign]

/-- A finite value minus itself is the positive zero. -/
theorem sub_self_of_isFinite {value : UnpackedFloat} (finite : value.isFinite = true) :
    UnpackedFloat.sub spec value value = .zero .positive := by
  cases value with
  | zero sign => cases sign <;> rfl
  | finite sign mantissa exponent positive =>
      simp only [UnpackedFloat.sub, Int.sub_self]
      rfl
  | infinity _ | notANumber => cases finite

end Negation

/-! ## Packing keeps opposite values opposite -/

/-- The fields of a value with the other sign unpack to the opposite value. -/
theorem unpack_packComponents_neg (sign : Sign) (exponent : BitVec 11) (mantissa : BitVec 52) :
    unpack .binary64 (packComponents .binary64 (-sign) exponent mantissa) =
      (unpack .binary64 (packComponents .binary64 sign exponent mantissa)).neg := by
  unfold unpack
  simp only [unpackMantissa_packComponents, unpackExponent_packComponents,
    unpackSign_packComponents, ofBitVec_toBitVec]
  split
  · split <;> rfl
  · split
    · split <;> rfl
    · rfl

/-- Packing the opposite value and unpacking it again gives the opposite of the round trip. -/
theorem unpack_pack_neg (value : UnpackedFloat) :
    unpack .binary64 (pack .binary64 value.neg) =
      (unpack .binary64 (pack .binary64 value)).neg := by
  cases value with
  | notANumber => rfl
  | infinity sign => exact unpack_packComponents_neg sign _ _
  | zero sign => exact unpack_packComponents_neg sign _ _
  | finite sign mantissa exponent positive =>
      -- the same exponent and mantissa fields are written under either sign
      simp only [UnpackedFloat.neg, pack]
      split
      · exact unpack_packComponents_neg sign _ _
      · split
        · exact unpack_packComponents_neg sign _ _
        · exact unpack_packComponents_neg sign _ _

/-- A value that is not a number has some sign. -/
theorem eq_notANumber_or_hasSign (value : UnpackedFloat) :
    value = .notANumber ∨ ∃ sign, HasSign sign value := by
  cases value with
  | notANumber => exact .inl rfl
  | infinity sign => exact .inr ⟨sign, rfl⟩
  | zero sign => exact .inr ⟨sign, trivial⟩
  | finite sign _ _ _ => exact .inr ⟨sign, rfl⟩

theorem add_notANumber (spec : Float.Model.Format) (value : UnpackedFloat) :
    UnpackedFloat.add spec value .notANumber = .notANumber := by
  cases value <;> rfl

theorem notANumber_add (spec : Float.Model.Format) (value : UnpackedFloat) :
    UnpackedFloat.add spec .notANumber value = .notANumber := by
  cases value <;> rfl

/-- A zero is below every non-negative value. -/
theorem rank_zero_le {value : UnpackedFloat} (nonneg : HasSign .positive value) (sign : Sign) :
    rank (.zero sign) ≤ rank value := by
  cases value with
  | notANumber => exact nonneg.elim
  | zero _ => exact le_rfl
  | finite _ _ _ _ | infinity _ => simp [rank, Prod.Lex.toLex_le_toLex]

end Unpacked

/-! ## Squares, sums and roots of floats -/

theorem Float.toModel_mul_self (value : Float) :
    (value * value).toModel =
      Float.Model.pack (UnpackedFloat.mul .binary64 value.toModel.unpack value.toModel.unpack) :=
  rfl

theorem Float.unpack_sub (first second : Float) :
    (first - second).toModel.unpack =
      unpack .binary64 (pack .binary64
        (UnpackedFloat.sub .binary64 first.toModel.unpack second.toModel.unpack)) :=
  rfl

theorem Float.isNaN_iff (value : Float) : value.isNaN = true ↔ value.toModel.unpack = .notANumber := by
  show value.toModel.unpack.isNaN = true ↔ _
  cases value.toModel.unpack <;> simp [UnpackedFloat.isNaN]

/-- The square of a difference does not depend on the order of its terms. -/
theorem Float.sub_mul_self_comm (first second : Float) :
    (first - second) * (first - second) = (second - first) * (second - first) := by
  have squares : ((first - second) * (first - second)).toModel =
      ((second - first) * (second - first)).toModel := by
    rw [Float.toModel_mul_self, Float.toModel_mul_self, Float.unpack_sub, Float.unpack_sub]
    rcases Unpacked.sub_swap .binary64 first.toModel.unpack second.toModel.unpack with
      opposite | same
    · rw [opposite, Unpacked.unpack_pack_neg, Unpacked.mul_neg_self]
    · rw [same]
  exact congrArg Float.ofModel squares

/-- A finite float minus itself is zero. -/
theorem Float.sub_self_of_isFinite {value : Float} (finite : value.isFinite = true) :
    value - value = 0 := by
  have difference : (value - value).toModel = (0 : Float).toModel := by
    show Float.Model.pack (UnpackedFloat.sub .binary64 value.toModel.unpack value.toModel.unpack) = _
    rw [Unpacked.sub_self_of_isFinite .binary64 finite]
    rfl
  exact congrArg Float.ofModel difference

section Measure

variable {first second : Float}

theorem isNonnegative_or_isNaN_mul_self (value : Float) :
    IsNonnegative (value * value) ∨ (value * value).isNaN = true := by
  rcases Unpacked.eq_notANumber_or_hasSign value.toModel.unpack with missing | ⟨sign, signed⟩
  · right
    rw [Float.isNaN_iff]
    show unpack .binary64 (pack .binary64 (UnpackedFloat.mul .binary64 _ _)) = _
    rw [missing]
    rfl
  · exact .inl (isNonnegative_mul_self signed)

theorem isNonnegative_or_isNaN_add
    (measuredFirst : IsNonnegative first ∨ first.isNaN = true)
    (measuredSecond : IsNonnegative second ∨ second.isNaN = true) :
    IsNonnegative (first + second) ∨ (first + second).isNaN = true := by
  rw [Float.isNaN_iff] at measuredFirst measuredSecond ⊢
  show _ ∨ unpack .binary64 (pack .binary64
    (UnpackedFloat.add .binary64 first.toModel.unpack second.toModel.unpack)) = _
  rcases measuredFirst with nonnegFirst | missing
  · rcases measuredSecond with nonnegSecond | missing
    · exact .inl (isNonnegative_add nonnegFirst nonnegSecond)
    · rw [missing, Unpacked.add_notANumber]
      exact .inr rfl
  · rw [missing, Unpacked.notANumber_add]
    exact .inr rfl

theorem isNonnegative_or_isNaN_sqrt (measured : IsNonnegative first ∨ first.isNaN = true) :
    IsNonnegative first.sqrt ∨ first.sqrt.isNaN = true := by
  rw [Float.isNaN_iff] at measured ⊢
  rcases measured with nonneg | missing
  · exact .inl (isNonnegative_sqrt nonneg)
  · right
    show unpack .binary64 (pack .binary64 (UnpackedFloat.sqrt .binary64 first.toModel.unpack)) = _
    rw [missing]
    rfl

/-- Every non-negative float is at least zero. -/
theorem zero_le_of_isNonnegative (nonneg : IsNonnegative first) : 0 ≤ first :=
  (@le_iff_rank_le 0 first trivial nonneg).2 (Unpacked.rank_zero_le nonneg .positive)

end Measure

namespace Point

/-- The distance between two points is the same both ways, bit for bit. -/
theorem distanceTo_comm (point other : Point) :
    point.distanceTo other = other.distanceTo point := by
  simp only [distanceTo, Float.sub_mul_self_comm other.x point.x,
    Float.sub_mul_self_comm other.y point.y]

/-- Every distance is a non-negative number or not a number. -/
theorem isNonnegative_or_isNaN_distanceTo (point other : Point) :
    IsNonnegative (point.distanceTo other) ∨ (point.distanceTo other).isNaN = true :=
  isNonnegative_or_isNaN_sqrt (isNonnegative_or_isNaN_add
    (isNonnegative_or_isNaN_mul_self _) (isNonnegative_or_isNaN_mul_self _))

/-- From a point with finite coordinates to itself the distance is zero. -/
theorem distanceTo_self {point : Point} (finite : point.isFinite = true) :
    point.distanceTo point = 0 := by
  simp only [isFinite, Bool.and_eq_true] at finite
  simp only [distanceTo, Float.sub_self_of_isFinite finite.1, Float.sub_self_of_isFinite finite.2]
  rfl

end Point

/-! ## Distances between primitives -/

namespace Primitive

/-- A primitive without a starting point cannot be measured from, and the error names it. -/
theorem measurableStart_of_error {primitive : Primitive} {error : GeometryError}
    (unplaced : primitive.startingPoint = .error error) :
    primitive.measurableStart = .error (.invalidGeometry
      ("cannot measure distance from " ++ primitive.label ++ ": " ++ error.message)) := by
  simp [measurableStart, unplaced]

/-- A distance from a primitive without a starting point fails, naming it. -/
theorem distanceTo_of_error_left {primitive : Primitive} {error : GeometryError}
    (unplaced : primitive.startingPoint = .error error) (other : Primitive) :
    primitive.distanceTo other = .error (.invalidGeometry
      ("cannot measure distance from " ++ primitive.label ++ ": " ++ error.message)) := by
  simp only [distanceTo, measurableStart_of_error unplaced]
  rfl

/-- A distance from a primitive with a starting point to one without fails, naming the latter. -/
theorem distanceTo_of_error_right {primitive other : Primitive} {start : Point}
    {error : GeometryError} (placed : primitive.startingPoint = .ok start)
    (unplaced : other.startingPoint = .error error) :
    primitive.distanceTo other = .error (.invalidGeometry
      ("cannot measure distance from " ++ other.label ++ ": " ++ error.message)) := by
  have measured : primitive.measurableStart = .ok start := by
    simp [measurableStart, placed]
  simp only [distanceTo, measured, measurableStart_of_error unplaced]
  rfl

theorem exists_startingPoint_of_isPlaced {primitive : Primitive} (placed : primitive.isPlaced = true) :
    ∃ start, primitive.startingPoint = .ok start := by
  cases found : primitive.startingPoint with
  | ok start => exact ⟨start, rfl⟩
  | error error => simp [isPlaced, found, Except.toBool] at placed

/-- A distance succeeds exactly when both primitives have starting points. -/
theorem distanceTo_toBool (primitive other : Primitive) :
    (primitive.distanceTo other).toBool = (primitive.isPlaced && other.isPlaced) := by
  cases found : primitive.startingPoint with
  | error error =>
      simp [distanceTo_of_error_left found, isPlaced, found, Except.toBool]
  | ok start =>
      cases otherFound : other.startingPoint with
      | error error =>
          simp [distanceTo_of_error_right found otherFound, isPlaced, found, otherFound,
            Except.toBool]
      | ok otherStart =>
          simp [distanceTo_of_startingPoint found otherFound, isPlaced, found, otherFound,
            Except.toBool]

/--
Distance between primitives is exactly symmetric and fails only without a starting point. It
fails exactly when one of the two primitives has no starting point, with invalid geometry that
names the first one, or else the second, and says why it has none. Between primitives with
starting points it is the same value both ways, bit for bit, and that value is at least zero or
not a number; from a primitive whose starting point is finite to itself it is zero.
-/
theorem distance_is_symmetric_and_fails_only_unplaced (primitive other : Primitive) :
    (primitive.distanceTo other).toBool = (primitive.isPlaced && other.isPlaced) ∧
      (∀ error, primitive.startingPoint = .error error →
        primitive.distanceTo other = .error (.invalidGeometry
          ("cannot measure distance from " ++ primitive.label ++ ": " ++ error.message))) ∧
      (∀ start error, primitive.startingPoint = .ok start → other.startingPoint = .error error →
        primitive.distanceTo other = .error (.invalidGeometry
          ("cannot measure distance from " ++ other.label ++ ": " ++ error.message))) ∧
      (primitive.isPlaced = true → other.isPlaced = true →
        ∃ distance, primitive.distanceTo other = .ok distance ∧
          other.distanceTo primitive = .ok distance ∧ (0 ≤ distance ∨ distance.isNaN = true)) ∧
      (∀ start, primitive.startingPoint = .ok start → start.isFinite = true →
        primitive.distanceTo primitive = .ok 0) := by
  refine ⟨distanceTo_toBool primitive other, fun _ unplaced => distanceTo_of_error_left unplaced _,
    fun _ _ placed unplaced => distanceTo_of_error_right placed unplaced, ?_, ?_⟩
  · intro placed otherPlaced
    obtain ⟨start, found⟩ := exists_startingPoint_of_isPlaced placed
    obtain ⟨otherStart, otherFound⟩ := exists_startingPoint_of_isPlaced otherPlaced
    refine ⟨start.distanceTo otherStart, distanceTo_of_startingPoint found otherFound, ?_, ?_⟩
    · rw [distanceTo_of_startingPoint otherFound found, Point.distanceTo_comm]
    · exact (Point.isNonnegative_or_isNaN_distanceTo start otherStart).imp_left
        zero_le_of_isNonnegative
  · intro start found finite
    rw [distanceTo_of_startingPoint found found, Point.distanceTo_self finite]

end Primitive

/-- A line and a circle are measured the same both ways, and a line to itself at zero. -/
theorem line_and_circle_measure_alike_both_ways :
    (∃ distance,
        (Primitive.line ⟨⟨0, 0⟩, ⟨1, 1⟩⟩).distanceTo (.circle ⟨⟨4, 3⟩, 1⟩) = .ok distance ∧
        (Primitive.circle ⟨⟨4, 3⟩, 1⟩).distanceTo (.line ⟨⟨0, 0⟩, ⟨1, 1⟩⟩) = .ok distance ∧
        (0 ≤ distance ∨ distance.isNaN = true)) ∧
      (Primitive.line ⟨⟨2, 3⟩, ⟨4, 5⟩⟩).distanceTo (.line ⟨⟨2, 3⟩, ⟨4, 5⟩⟩) = .ok 0 :=
  ⟨(Primitive.distance_is_symmetric_and_fails_only_unplaced (.line ⟨⟨0, 0⟩, ⟨1, 1⟩⟩)
      (.circle ⟨⟨4, 3⟩, 1⟩)).2.2.2.1 rfl rfl,
    (Primitive.distance_is_symmetric_and_fails_only_unplaced (.line ⟨⟨2, 3⟩, ⟨4, 5⟩⟩)
      (.line ⟨⟨2, 3⟩, ⟨4, 5⟩⟩)).2.2.2.2 _ rfl (by decide)⟩

end Toolpath
