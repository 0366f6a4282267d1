import Toolpath.Number.Binary

/-!
# Decimal expansions of binary64 values

Two decimal views of a finite binary64 value, both computed in exact arithmetic:

* `Decimal.shortest`: the fewest significant digits that read back as the same value. Among the
  decimals of that length inside the value's rounding interval it takes the one nearest to the
  value. The rounding interval is the set of reals whose nearest binary64 value is this one; its
  ends belong to it exactly when the mantissa is even, because a tie goes to the even mantissa.
* `fixedDigits`: the value times `10 ^ places`, rounded to the nearest whole number with halfway
  cases to the even neighbour, which is the text with a fixed number of places.

The comparisons are on cross-multiplied naturals, so every step is exact.
-/

namespace Toolpath.Number

/-- A decimal number `digits · 10 ^ exponent`. -/
structure Decimal where
  digits : Nat
  exponent : Int
  deriving Repr, BEq, Inhabited

/-- The decimal digits of a natural number, most significant first; `[0]` for zero. -/
def decimalDigits (value : Nat) : List Char :=
  Nat.toDigits 10 value

/-- How many decimal digits a natural number has (one for zero). -/
def digitCount (value : Nat) : Nat :=
  (decimalDigits value).length

/-- Drops the trailing zero digits of a decimal, moving them into its exponent. Zero stays
zero. -/
def Decimal.normalize (decimal : Decimal) : Decimal :=
  go decimal.digits.log2.succ decimal
where
  /-- Strips at most `budget` zeros; a number below `2 ^ budget` has fewer than `budget`. -/
  go : Nat → Decimal → Decimal
    | 0, decimal => decimal
    | budget + 1, decimal =>
      if decimal.digits != 0 && decimal.digits % 10 == 0 then
        go budget ⟨decimal.digits / 10, decimal.exponent + 1⟩
      else decimal

/-- `a · 10 ^ k` against `b · 2 ^ s`, for integer exponents `k` and `s`. -/
def compareScaled (a : Nat) (k : Int) (b : Nat) (s : Int) : Ordering :=
  let left := a * Nat.pow 10 k.toNat * Nat.pow 2 (-s).toNat
  let right := b * Nat.pow 2 s.toNat * Nat.pow 10 (-k).toNat
  compare left right

/-- `⌊log₁₀ (mantissa · 2 ^ exponent)⌋` for a positive mantissa. The estimate from the bit length
is off by at most one either way; exact comparisons settle it. -/
def decimalExponent (mantissa : Nat) (exponent : Int) : Int :=
  let bits : Int := (mantissa.log2 : Int) + exponent
  let estimate : Int := Int.fdiv (bits * 30103) 100000
  let atLeast (k : Int) : Bool := compareScaled 1 k mantissa exponent != .gt
  if atLeast (estimate + 1) then estimate + 1
  else if atLeast estimate then estimate
  else estimate - 1

/-- The rounding interval of the finite positive value `mantissa · 2 ^ exponent`, in units of
`2 ^ (exponent - 2)`: its low end, its high end, and whether the ends belong to it. The gap below
is half as wide when the mantissa is the least normal one and the value is not subnormal. -/
def roundingInterval (mantissa : Nat) (exponent : Int) : Nat × Nat × Bool :=
  let low :=
    if mantissa == Nat.pow 2 fractionBits && exponent > leastExponent then 4 * mantissa - 1
    else 4 * mantissa - 2
  (low, 4 * mantissa + 2, mantissa % 2 == 0)

/-- Whether `candidate · 10 ^ scale` lies in the rounding interval of `mantissa · 2 ^ exponent`. -/
def withinInterval (mantissa : Nat) (exponent : Int) (candidate : Nat) (scale : Int) : Bool :=
  let (low, high, closed) := roundingInterval mantissa exponent
  let unit := exponent - 2
  let aboveLow := compareScaled candidate scale low unit
  let belowHigh := compareScaled candidate scale high unit
  if closed then aboveLow != .lt && belowHigh != .gt
  else aboveLow == .gt && belowHigh == .lt

/-- The decimal of `length` significant digits chosen for `mantissa · 2 ^ exponent`, if one lies
in its rounding interval: of the two neighbours of the value on that grid, the one inside, and of
two inside the nearer one (a tie goes to the even one). -/
def candidateOfLength (mantissa : Nat) (exponent : Int) (leading : Int) (length : Nat) :
    Option Decimal :=
  let scale : Int := leading - length + 1
  let numerator := mantissa * Nat.pow 2 exponent.toNat * Nat.pow 10 (-scale).toNat
  let denominator := Nat.pow 2 (-exponent).toNat * Nat.pow 10 scale.toNat
  let below := numerator / denominator
  let above := below + 1
  if numerator % denominator == 0 then some ⟨below, scale⟩ else
  let belowIn := withinInterval mantissa exponent below scale
  let aboveIn := withinInterval mantissa exponent above scale
  if belowIn && aboveIn then
    -- twice the value against the sum of the two neighbours decides the nearer one
    match compare (2 * numerator) ((below + above) * denominator) with
    | .lt => some ⟨below, scale⟩
    | .gt => some ⟨above, scale⟩
    | .eq => some ⟨if below % 2 == 0 then below else above, scale⟩
  else if belowIn then some ⟨below, scale⟩
  else if aboveIn then some ⟨above, scale⟩
  else none

/-- The shortest decimal that reads back as the finite positive value `mantissa · 2 ^ exponent`,
with its trailing zeros moved into the exponent. Seventeen significant digits always read back;
should no shorter length do, the seventeen-digit neighbour below the value is taken. -/
def Decimal.shortest (mantissa : Nat) (exponent : Int) : Decimal :=
  if mantissa == 0 then ⟨0, 0⟩ else
  let leading := decimalExponent mantissa exponent
  let found := (List.range 17).findSome? fun index =>
    candidateOfLength mantissa exponent leading (index + 1)
  let chosen := found.getD
    (let scale : Int := leading - 16
     ⟨mantissa * Nat.pow 2 exponent.toNat * Nat.pow 10 (-scale).toNat /
        (Nat.pow 2 (-exponent).toNat * Nat.pow 10 scale.toNat), scale⟩)
  chosen.normalize

/-- The finite value `mantissa · 2 ^ exponent` times `10 ^ places`, rounded to a whole number with
halfway cases going to the even neighbour. -/
def fixedDigits (places : Nat) (mantissa : Nat) (exponent : Int) : Nat :=
  divRoundHalfEven (mantissa * Nat.pow 2 exponent.toNat * Nat.pow 10 places) (Nat.pow 2 (-exponent).toNat)

/-- The number of significant digits of a decimal. -/
def Decimal.length (decimal : Decimal) : Nat :=
  digitCount decimal.digits

/-- The position of the decimal point relative to the first significant digit: the value is
`0.d₁d₂… · 10 ^ pointPosition`. -/
def Decimal.pointPosition (decimal : Decimal) : Int :=
  (decimal.length : Int) + decimal.exponent

end Toolpath.Number
