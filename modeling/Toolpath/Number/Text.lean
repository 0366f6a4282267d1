import Toolpath.Number.Decimal

/-!
# Text of binary64 values

Every number this library writes goes through one of two functions:

* `fixedText places value`: exactly `places` digits after the point, the exact binary value
  rounded to nearest with halfway cases to even, the sign of a negative value (zero included)
  kept, and every digit of a large value written out;
* `FloatStyle.render`: the shortest digits that read back (`Decimal.shortest`), laid out by a
  style record. The records of the formats in use are `FloatStyle.plain` (positional, no point
  for whole numbers), `FloatStyle.json` (positional between `1e-5` and `1e16`, else with an
  exponent), `FloatStyle.toml` (positional, `.0` after whole numbers) and `FloatStyle.pointed`
  (positional, `.0` added when no point was written).
-/

namespace Toolpath.Number

/-- `count` copies of a character. -/
def repeatChar (count : Nat) (character : Char) : String :=
  String.ofList (List.replicate count character)

/-- The text of a non-negative whole number. -/
def natText (value : Nat) : String :=
  String.ofList (decimalDigits value)

/-- The text of a value with a fixed number of places after the point: the exact value rounded
to nearest, halfway cases to the even neighbour. A negative value, zero included, keeps its
sign; not-a-number is `NaN` and the infinities are `inf` and `-inf`. -/
def fixedText (places : Nat) (value : Float) : String :=
  match Binary64.ofFloat value with
  | .nan => "NaN"
  | .infinity negative => if negative then "-inf" else "inf"
  | .finite negative mantissa exponent =>
    let scaled := fixedDigits places mantissa exponent
    let whole := scaled / Nat.pow 10 places
    let fraction := natText (scaled % Nat.pow 10 places)
    let sign := if negative then "-" else ""
    if places == 0 then sign ++ natText whole
    else sign ++ natText whole ++ "." ++ repeatChar (places - fraction.length) '0' ++ fraction

/-- The two places after the point used in program lines and descriptions. -/
def twoPlaces (value : Float) : String :=
  fixedText 2 value

/-- How a format lays out the shortest digits of a value. -/
structure FloatStyle where
  /-- Point positions `p` (value `0.d₁d₂… · 10 ^ p`) written without an exponent satisfy
  `positionalAbove < p ≤ positionalUpTo`; `none` means no bound on that side. -/
  positionalAbove : Option Int
  positionalUpTo : Option Int
  /-- Whether a whole number written without exponent gets `.0`. -/
  markWhole : Bool
  /-- Whether a positive exponent is written with `+`. -/
  plusExponent : Bool
  /-- The text of zero, by the sign bit. -/
  zeroText : Bool → String
  /-- The text of not-a-number, by the sign bit. -/
  nanText : Bool → String
  /-- The text of positive infinity; negative infinity gets a minus sign before it. -/
  infinityText : String

/-- Positional digits of a decimal: all its digits and its point, no exponent. -/
def Decimal.positional (decimal : Decimal) : String :=
  let digits := natText decimal.digits
  if decimal.exponent ≥ 0 then
    digits ++ repeatChar decimal.exponent.toNat '0'
  else
    let point := decimal.pointPosition
    if point > 0 then
      let (whole, fraction) := digits.toList.splitAt point.toNat
      String.ofList whole ++ "." ++ String.ofList fraction
    else
      "0." ++ repeatChar (-point).toNat '0' ++ digits

/-- Digits of a decimal with one digit before the point and an exponent after `e`. -/
def Decimal.scientific (plusExponent : Bool) (decimal : Decimal) : String :=
  let digits := (natText decimal.digits).toList
  let power := decimal.pointPosition - 1
  let mantissa := match digits with
    | [] => "0"
    | [single] => String.ofList [single]
    | first :: rest => String.ofList [first] ++ "." ++ String.ofList rest
  let powerText :=
    if power < 0 then "-" ++ natText (-power).toNat
    else (if plusExponent then "+" else "") ++ natText power.toNat
  mantissa ++ "e" ++ powerText

/-- The text of a value in a style: the shortest digits that read back, laid out as the style
says. -/
def FloatStyle.render (style : FloatStyle) (value : Float) : String :=
  match Binary64.ofFloat value with
  | .nan => style.nanText (signBit value)
  | .infinity negative => (if negative then "-" else "") ++ style.infinityText
  | .finite negative mantissa exponent =>
    if mantissa == 0 then style.zeroText negative else
    let decimal := Decimal.shortest mantissa exponent
    let point := decimal.pointPosition
    let aboveLow := match style.positionalAbove with
      | some bound => bound < point
      | none => true
    let belowHigh := match style.positionalUpTo with
      | some bound => point ≤ bound
      | none => true
    let body :=
      if aboveLow && belowHigh then
        let text := decimal.positional
        if style.markWhole && decimal.exponent ≥ 0 then text ++ ".0" else text
      else decimal.scientific style.plusExponent
    (if negative then "-" else "") ++ body

/-- Plain text: always positional, no point after a whole number, `NaN`, `inf`, `-0` for
negative zero. -/
def FloatStyle.plain : FloatStyle where
  positionalAbove := none
  positionalUpTo := none
  markWhole := false
  plusExponent := false
  zeroText := fun negative => if negative then "-0" else "0"
  nanText := fun _ => "NaN"
  infinityText := "inf"

/-- JSON numbers: positional for point positions from `-4` to `16`, `.0` after whole numbers,
an exponent with its sign otherwise (`1e+20`, `1e-7`). JSON has no text for non-finite values;
they are written as the plain style writes them. -/
def FloatStyle.json : FloatStyle where
  positionalAbove := some (-5)
  positionalUpTo := some 16
  markWhole := true
  plusExponent := true
  zeroText := fun negative => if negative then "-0.0" else "0.0"
  nanText := fun _ => "NaN"
  infinityText := "inf"

/-- TOML floats: always positional, `.0` after whole numbers, `nan` and `inf` spelled in lower
case with the sign of not-a-number kept. -/
def FloatStyle.toml : FloatStyle where
  positionalAbove := none
  positionalUpTo := none
  markWhole := true
  plusExponent := false
  zeroText := fun negative => if negative then "-0.0" else "0.0"
  nanText := fun negative => if negative then "-nan" else "nan"
  infinityText := "inf"

/-- Plain text with `.0` added when no point was written, as values are quoted in messages
about a floating-point value of the wrong type. -/
def FloatStyle.pointed : FloatStyle :=
  { FloatStyle.toml with
    zeroText := fun negative => if negative then "-0.0" else "0.0"
    nanText := fun _ => "NaN" }

/-- The plain text of a value: positional shortest digits. -/
def plainText (value : Float) : String :=
  FloatStyle.plain.render value

end Toolpath.Number
