import Toolpath.Number.Binary
import Toolpath.Number.Decimal

/-!
# Reading decimal text as binary64 values

`floatOfDecimal` gives the binary64 value nearest to `± digits · 10 ^ exponent`, halfway cases to
the even mantissa; far outside the finite range it answers zero or infinity without computing
the power. `readFloat?` accepts the common decimal grammar: an optional sign, digits with an
optional point (at least one digit on either side of it), an optional exponent with its own sign,
and the words `inf`, `infinity` and `nan` in any letter case. There is no room for blanks or
digit separators; callers trim.
-/

namespace Toolpath.Number

/-- The binary64 value nearest to `± digits · 10 ^ exponent`. Below `10 ^ -324` every value
rounds to zero, and from `10 ^ 309` on to infinity, so those need no exact division. -/
def floatOfDecimal (negative : Bool) (digits : Nat) (exponent : Int) : Float :=
  if digits == 0 then floatOfBits negative 0 else
  let magnitude : Int := (digitCount digits : Int) + exponent
  if magnitude ≤ -324 then floatOfBits negative 0
  else if magnitude > 310 then floatOfBits negative (2047 * Nat.pow 2 fractionBits)
  else if exponent ≥ 0 then nearestFloat negative (digits * Nat.pow 10 exponent.toNat) 1
  else nearestFloat negative digits (Nat.pow 10 (-exponent).toNat)

/-- The value of a decimal digit character. -/
def digitValue (character : Char) : Nat :=
  character.toNat - '0'.toNat

/-- Splits off the leading decimal digits of a text: their value, how many there were, and the
rest. -/
def takeDigits : List Char → Nat × Nat × List Char
  | [] => (0, 0, [])
  | character :: rest =>
    if character.isDigit then
      let (value, count, remaining) := takeDigits rest
      (digitValue character * Nat.pow 10 count + value, count + 1, remaining)
    else (0, 0, character :: rest)

/-- The text after an optional sign, and whether the sign was a minus. -/
def takeSign : List Char → Bool × List Char
  | '-' :: rest => (true, rest)
  | '+' :: rest => (false, rest)
  | text => (false, text)

/-- Lower-case ASCII letters, other characters unchanged. -/
def asciiLower (text : List Char) : List Char :=
  text.map Char.toLower

/-- Reads a complete decimal floating-point text: optional sign, then either a special word
(`inf`, `infinity`, `nan`, any letter case) or digits with an optional point and an optional
exponent. At least one digit must stand before or after the point, and an exponent needs a digit.
The result is the nearest binary64 value. -/
def readFloat? (text : List Char) : Option Float :=
  let (negative, body) := takeSign text
  let word := asciiLower body
  if word == "inf".toList || word == "infinity".toList then
    some (if negative then floatOfBits true (2047 * Nat.pow 2 fractionBits) else infinity)
  else if word == "nan".toList then some notANumber
  else
    let (whole, wholeCount, afterWhole) := takeDigits body
    let (fraction, fractionCount, afterFraction) :=
      match afterWhole with
      | '.' :: rest => takeDigits rest
      | rest => (0, 0, rest)
    let pointSeen := match afterWhole with
      | '.' :: _ => true
      | _ => false
    let afterMantissa := if pointSeen then afterFraction else afterWhole
    if wholeCount + fractionCount == 0 then none else
    let digits := whole * Nat.pow 10 fractionCount + fraction
    let scale : Int := -(fractionCount : Int)
    match afterMantissa with
    | [] => some (floatOfDecimal negative digits scale)
    | marker :: rest =>
      if marker == 'e' || marker == 'E' then
        let (exponentNegative, exponentText) := takeSign rest
        let (power, powerCount, trailing) := takeDigits exponentText
        if powerCount == 0 || !trailing.isEmpty then none
        else
          let power : Int := if exponentNegative then -(power : Int) else power
          some (floatOfDecimal negative digits (scale + power))
      else none

end Toolpath.Number
