import Toolpath.Number.Text
import Toolpath.Text.GraphemeExtend

/-!
# Decoding mismatches

When a configuration document does not have the shape of a configuration, the decoder says what
it found and what it expected. A float found is quoted in the number style of the document's
format: JSON as JSON numbers are written (`1.5`, `1e+20`), TOML positionally with a point. `Found` describes a value as such messages quote it (`integer
`5``, `floating point `1.5``, `string "yes"`, `null`, `map`, …) and `Mismatch` is one complaint,
with its message.
-/

namespace Toolpath

open Toolpath.Number

/-- A value as a decoding message describes it. -/
inductive Found where
  | boolean (value : Bool)
  | unsigned (value : Nat)
  | signed (value : Int)
  | float (value : Float)
  | string (value : String)
  | unit
  | sequence
  | map
  deriving Inhabited

/-- The escaped form of a character inside a quoted string of a message: quotes, backslashes,
nul and the common control characters get short escapes; grapheme extenders and characters that
are not printable are written `\u{…}` with lower-case hex digits; every other character stands
for itself. -/
def debugEscape (character : Char) : String :=
  match character with
  | '"' => "\\\""
  | '\\' => "\\\\"
  | '\n' => "\\n"
  | '\r' => "\\r"
  | '\t' => "\\t"
  | _ =>
    if character.toNat == 0 then "\\0"
    else if Text.isGraphemeExtend character || !Text.isPrintable character then
      "\\u\x7b" ++ String.ofList (Nat.toDigits 16 character.toNat) ++ "\x7d"
    else String.ofList [character]

/-- A string quoted as a message shows it. -/
def debugQuote (text : String) : String :=
  "\"" ++ String.join (text.toList.map debugEscape) ++ "\""

/-- The description of a found value, a float written in the style of the document's format. -/
def Found.text (floats : FloatStyle) : Found → String
  | .boolean value => "boolean `" ++ (if value then "true" else "false") ++ "`"
  | .unsigned value => "integer `" ++ natText value ++ "`"
  | .signed value =>
    "integer `" ++ (if value < 0 then "-" else "") ++ natText value.natAbs ++ "`"
  | .float value => "floating point `" ++ floats.render value ++ "`"
  | .string value => "string " ++ debugQuote value
  | .unit => "null"
  | .sequence => "sequence"
  | .map => "map"

/-- One complaint of a decoder. -/
inductive Mismatch where
  | invalidType (found : Found) (expected : String)
  | invalidValue (found : Found) (expected : String)
  | invalidLength (length : Nat) (expected : String)
  | unknownVariant (name : String) (expected : List String)
  | missingField (name : String)
  | duplicateField (name : String)
  | custom (message : String)
  deriving Inhabited

/-- A list of alternatives: `` `a` ``, `` `a` or `b` ``, or `` one of `a`, `b`, `c` ``. -/
def alternativesText (names : List String) : String :=
  let quoted := names.map fun name => "`" ++ name ++ "`"
  match quoted with
  | [] => "nothing"
  | [single] => single
  | [first, second] => first ++ " or " ++ second
  | _ => "one of " ++ ", ".intercalate quoted

/-- The message of a complaint; a float found is written in the style `floats`. -/
def Mismatch.message (floats : FloatStyle) : Mismatch → String
  | .invalidType found expected =>
    "invalid type: " ++ found.text floats ++ ", expected " ++ expected
  | .invalidValue found expected =>
    "invalid value: " ++ found.text floats ++ ", expected " ++ expected
  | .invalidLength length expected =>
    "invalid length " ++ natText length ++ ", expected " ++ expected
  | .unknownVariant name expected =>
    "unknown variant `" ++ name ++ "`, expected " ++ alternativesText expected
  | .missingField name => "missing field `" ++ name ++ "`"
  | .duplicateField name => "duplicate field `" ++ name ++ "`"
  | .custom message => message

/-- The largest value of an unsigned 32-bit field. -/
def maxUnsigned32 : Nat := Nat.pow 2 32 - 1

end Toolpath
