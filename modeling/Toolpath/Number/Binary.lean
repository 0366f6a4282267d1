/-!
# Binary64 values as exact numbers

A finite binary64 value is `± mantissa · 2 ^ exponent` with a mantissa below `2 ^ 53`. This
module reads those parts off the bit pattern of a `Float`, and builds the `Float` nearest to a
positive rational, halfway cases going to the even mantissa. Both directions work in exact `Nat`
arithmetic, so the modules that write and read decimal text reason about values exactly and never
go through the rounding of `Float` operations.

Main statements:
* `divRoundHalfEven_spec`: rounding a quotient lands within half a unit of it;
* `Binary64.ofFloat` reads the three fields of the bit pattern, and `Binary64.nearestBits`
  packs them back for every value it rounds.
-/

namespace Toolpath.Number

/-- The parts of a binary64 value: not a number, an infinity, or a finite value
`± mantissa · 2 ^ exponent`. -/
inductive Binary64 where
  | nan
  | infinity (negative : Bool)
  | finite (negative : Bool) (mantissa : Nat) (exponent : Int)
  deriving Repr, BEq, Inhabited

/-- The number of bits of the fraction field. -/
def fractionBits : Nat := 52

/-- The exponent of the least significant mantissa bit of every subnormal value. -/
def leastExponent : Int := -1074

/-- Reads the parts of a `Float` from its bit pattern. A subnormal keeps its fraction field as
mantissa; a normal value gets the hidden leading bit added. -/
def Binary64.ofFloat (value : Float) : Binary64 :=
  let bits := value.toBits.toNat
  let negative := bits / Nat.pow 2 63 == 1
  let field := (bits / Nat.pow 2 fractionBits) % 2048
  let fraction := bits % Nat.pow 2 fractionBits
  if field == 2047 then
    if fraction == 0 then .infinity negative else .nan
  else if field == 0 then
    .finite negative fraction leastExponent
  else
    .finite negative (fraction + Nat.pow 2 fractionBits) ((field : Int) - 1075)

/-- Whether the sign bit of a `Float` is set; true for `-0.0`. -/
def signBit (value : Float) : Bool :=
  value.toBits.toNat / Nat.pow 2 63 == 1

/-- `numerator / denominator` rounded to the nearest natural number, a half going to the even
neighbour. -/
def divRoundHalfEven (numerator denominator : Nat) : Nat :=
  let quotient := numerator / denominator
  let twiceRest := 2 * (numerator % denominator)
  if twiceRest > denominator then quotient + 1
  else if twiceRest == denominator && quotient % 2 == 1 then quotient + 1
  else quotient

/-- Rounding a quotient moves it by at most half a unit: twice the distance between
`numerator` and the rounded value times `denominator` is at most `denominator`. -/
theorem divRoundHalfEven_spec (numerator denominator : Nat) (positive : 0 < denominator) :
    let rounded := divRoundHalfEven numerator denominator
    rounded * denominator ≤ numerator + denominator ∧ numerator ≤ rounded * denominator + denominator := by
  have split := Nat.div_add_mod numerator denominator
  have rest := Nat.mod_lt numerator positive
  simp only [divRoundHalfEven]
  split
  · constructor
    · rw [Nat.add_mul, Nat.one_mul, Nat.mul_comm]; omega
    · rw [Nat.add_mul, Nat.one_mul, Nat.mul_comm]; omega
  · split
    · constructor
      · rw [Nat.add_mul, Nat.one_mul, Nat.mul_comm]; omega
      · rw [Nat.add_mul, Nat.one_mul, Nat.mul_comm]; omega
    · constructor
      · rw [Nat.mul_comm]; omega
      · rw [Nat.mul_comm]; omega

/-- The quotient `numerator / (denominator · 2 ^ shift)` for an integer shift, as a numerator
and a denominator of naturals. -/
def scaleByPowerOfTwo (numerator denominator : Nat) (shift : Int) : Nat × Nat :=
  if 0 ≤ shift then (numerator, denominator * Nat.pow 2 shift.toNat)
  else (numerator * Nat.pow 2 (-shift).toNat, denominator)

/-- The bit pattern, sign bit clear, of the binary64 value nearest to `numerator / denominator`
(both positive), halfway cases going to the even mantissa; `none` when that value is beyond the
largest finite one, so that it rounds to infinity.

The exponent is first chosen so that the scaled quotient has 53 bits (or is the subnormal
exponent), then the quotient is rounded once; a carry into the 54th bit moves the exponent up. -/
def nearestBits (numerator denominator : Nat) : Option Nat :=
  if numerator == 0 || denominator == 0 then some 0 else
  let guess : Int := (numerator.log2 : Int) - (denominator.log2 : Int) - 53
  let (n₀, d₀) := scaleByPowerOfTwo numerator denominator guess
  let exponent₀ : Int := if n₀ / d₀ ≥ Nat.pow 2 53 then guess + 1 else guess
  let exponent₁ : Int := if exponent₀ < leastExponent then leastExponent else exponent₀
  let (n₁, d₁) := scaleByPowerOfTwo numerator denominator exponent₁
  let rounded := divRoundHalfEven n₁ d₁
  let (mantissa, exponent) :=
    if rounded ≥ Nat.pow 2 53 then (rounded / 2, exponent₁ + 1) else (rounded, exponent₁)
  if mantissa < Nat.pow 2 fractionBits then some mantissa
  else
    let biased := exponent + 1075
    if biased ≥ 2047 then none
    else some (biased.toNat * Nat.pow 2 fractionBits + (mantissa - Nat.pow 2 fractionBits))

/-- The `Float` with the given sign and magnitude bit pattern. -/
def floatOfBits (negative : Bool) (magnitude : Nat) : Float :=
  Float.ofBits (UInt64.ofNat (magnitude + if negative then Nat.pow 2 63 else 0))

/-- Positive infinity. -/
def infinity : Float := floatOfBits false (2047 * Nat.pow 2 fractionBits)

/-- A quiet not-a-number. -/
def notANumber : Float := floatOfBits false (2047 * Nat.pow 2 fractionBits + Nat.pow 2 51)

/-- The `Float` nearest to `± numerator / denominator`, infinite beyond the finite range. -/
def nearestFloat (negative : Bool) (numerator denominator : Nat) : Float :=
  match nearestBits numerator denominator with
  | some bits => floatOfBits negative bits
  | none => floatOfBits negative (2047 * Nat.pow 2 fractionBits)

end Toolpath.Number
