import Toolpath.Number.Read

/-!
# Scaling by a power of ten in binary64 steps

A quick way to read a decimal `s · 10 ^ k` rounds twice: the significand `s` is first rounded to
a binary64 value, which is then multiplied by the binary64 value nearest to `10 ^ k`, or divided
by the one nearest to `10 ^ -k`, rounding the result again. An exponent beyond `± 308` first
divides by the value of `10 ^ 308`, step by step, until the rest of the exponent fits or the value
is zero; a positive one that large is out of range. The result may miss the binary64 value nearest
to the decimal by one unit in the last place; configuration files are read this way.

Every step is exact arithmetic on the parts of the values followed by one rounding
(`nearestFloat`), which is how binary64 multiplication and division are defined, so no `Float`
operation is involved.
-/

namespace Toolpath.Number

/-- The exact value of a finite binary64 value, sign dropped, as a numerator and a
denominator. -/
def exactRatio (value : Float) : Nat × Nat :=
  match Binary64.ofFloat value with
  | .finite _ mantissa exponent =>
    if 0 ≤ exponent then (mantissa * Nat.pow 2 exponent.toNat, 1)
    else (mantissa, Nat.pow 2 (-exponent).toNat)
  | _ => (0, 1)

/-- The binary64 product of two finite non-negative values: their exact product, rounded. -/
def roundedProduct (left right : Float) : Float :=
  let (a, b) := exactRatio left
  let (c, d) := exactRatio right
  nearestFloat false (a * c) (b * d)

/-- The binary64 quotient of a finite non-negative value by a positive one: the exact
quotient, rounded. -/
def roundedQuotient (left right : Float) : Float :=
  let (a, b) := exactRatio left
  let (c, d) := exactRatio right
  nearestFloat false (a * d) (b * c)

/-- The binary64 value nearest to `10 ^ power`. -/
def powerOfTen (power : Nat) : Float :=
  floatOfDecimal false 1 power

/-- Whether a binary64 value is zero, of either sign. -/
def isZero (value : Float) : Bool :=
  match Binary64.ofFloat value with
  | .finite _ mantissa _ => mantissa == 0
  | _ => false

/-- Whether a binary64 value is infinite. -/
def isInfinite (value : Float) : Bool :=
  match Binary64.ofFloat value with
  | .infinity _ => true
  | _ => false

/-- `value · 10 ^ exponent` for a finite non-negative value, in binary64 steps; `none` when the
result overflows. -/
def scaleStepwise (value : Float) (exponent : Int) : Option Float :=
  if exponent.natAbs ≤ 308 then
    if 0 ≤ exponent then
      let product := roundedProduct value (powerOfTen exponent.toNat)
      if isInfinite product then none else some product
    else some (roundedQuotient value (powerOfTen exponent.natAbs))
  else if isZero value then some value
  else if 0 ≤ exponent then none
  else scaleStepwise (roundedQuotient value (powerOfTen 308)) (exponent + 308)
termination_by exponent.natAbs
decreasing_by omega

/-- `± significand · 10 ^ exponent` read in binary64 steps: the significand rounded first, then
scaled; `none` when out of range. -/
def stepwiseDecimal (negative : Bool) (significand : Nat) (exponent : Int) : Option Float :=
  (scaleStepwise (nearestFloat false significand 1) exponent).map fun magnitude =>
    if negative then floatOfBits true magnitude.toBits.toNat else magnitude

end Toolpath.Number
