import Toolpath.Dxf.Text
import Toolpath.Number.Read
import Toolpath.Number.Text

/-!
# Code pairs

A drawing exchange file is a sequence of code pairs: a group code, then a value. The code fixes
the type of the value: text, a real number, a short, a 32- or 64-bit integer, a flag, or binary
data. This module holds the pairs, the faults met while reading a drawing with their messages,
and the reading of one value from the text of its line.

In text, a real number is read after trimming; a short or a flag is read as a real number and cut
towards zero into 16 bits, so that `1.0` and `nan` are shorts; integers are read as decimal
integers of their width; binary data is hexadecimal, a digit short of a whole byte counting as a
leading zero; text keeps its blanks and has its escapes undone.

A pair is shown in complaints as `[@offset]code/value`, its value written as the file would hold
it: shorts right-aligned in six places, integers in nine, reals with up to twelve places and at
least one, binary data in upper-case hex.
-/

namespace Toolpath.Dxf

open Toolpath.Number

/-- The value of a code pair. -/
inductive PairValue where
  | text (value : String)
  | real (value : Float)
  | short (value : Int)
  | integer (value : Int)
  | long (value : Int)
  | flag (value : Int)
  | binary (value : List UInt8)
  deriving Inhabited

/-- A code pair with its offset: the line of its code in a text file, the byte after it in a
binary one. -/
structure Pair where
  code : Int
  value : PairValue
  offset : Nat
  deriving Inhabited

/-- Why an integer text could not be read. -/
inductive IntegerProblem where
  | empty
  | invalidDigit
  | tooLarge
  | tooSmall
  deriving Inhabited, BEq

/-- The message of an integer problem. -/
def IntegerProblem.message : IntegerProblem → String
  | .empty => "cannot parse integer from empty string"
  | .invalidDigit => "invalid digit found in string"
  | .tooLarge => "number too large to fit in target type"
  | .tooSmall => "number too small to fit in target type"

/-- Why a drawing could not be read. -/
inductive DxfFault where
  /-- A real value is not a number; `empty` when its text was blank. -/
  | invalidFloat (empty : Bool) (offset : Nat)
  /-- A code or an integer value is not an integer of its width. -/
  | invalidInteger (problem : IntegerProblem) (offset : Nat)
  /-- A value that should be hexadecimal, or an extension group name without its brace. -/
  | malformed (offset : Nat)
  /-- A pair with a code its place does not take. -/
  | unexpectedCode (code : Int) (offset : Nat)
  /-- A pair that does not belong where it stands, with what was expected there. -/
  | unexpectedPair (pair : Pair) (expected : String)
  /-- A byte of the binary sentinel that is not there. -/
  | unexpectedByte (byte : UInt8) (offset : Nat)
  /-- The file ended inside a structure. -/
  | unexpectedEnd
  /-- A code without a value type. -/
  | codeOutOfRange (offset : Nat)
  /-- A vertex field came before any vertex. -/
  | emptySet
  /-- A table does not start with its type. -/
  | expectedTableType (offset : Nat)
  /-- A thumbnail image lacks the palette or rows its header describes. -/
  | truncatedImage
  deriving Inhabited

/-- The text of an integer. -/
def intText (value : Int) : String :=
  (if value < 0 then "-" else "") ++ natText value.natAbs

/-- A text right-aligned in a field of the given width. -/
def padLeft (width : Nat) (text : String) : String :=
  repeatChar (width - text.length) ' ' ++ text

/-- A real number as a pair shows it: twelve places, trailing zeros dropped but one kept after
the point; not-a-number and the infinities as `NaN`, `inf` and `-inf`. -/
def realText (value : Float) : String :=
  let fixed := (fixedText 12 value).toList
  let trimmed := (fixed.reverse.dropWhile (· == '0')).reverse
  String.ofList (if trimmed.getLast? == some '.' then trimmed ++ ['0'] else trimmed)

/-- The two upper-case hex digits of a byte. -/
def hexByte (byte : UInt8) : String :=
  let digit (value : Nat) : Char :=
    if value < 10 then Char.ofNat ('0'.toNat + value) else Char.ofNat ('A'.toNat + value - 10)
  String.ofList [digit (byte.toNat / 16), digit (byte.toNat % 16)]

/-- How a pair value is shown. -/
def PairValue.show : PairValue → String
  | .text value => value
  | .real value => realText value
  | .short value => padLeft 6 (intText value)
  | .integer value => padLeft 9 (intText value)
  | .long value => intText value
  | .flag value => intText value
  | .binary value => String.join (value.map hexByte)

/-- How a pair is shown: `[@offset]code/value`. -/
def Pair.show (pair : Pair) : String :=
  "[@" ++ natText pair.offset ++ "]" ++ intText pair.code ++ "/" ++ pair.value.show

/-- The message of a fault. -/
def DxfFault.message : DxfFault → String
  | .invalidFloat empty offset =>
    (if empty then "cannot parse float from empty string" else "invalid float literal") ++
      " at line/offset " ++ natText offset
  | .invalidInteger problem offset => problem.message ++ " at line/offset " ++ natText offset
  | .malformed offset => "there was a general parsing error at line/offset " ++ natText offset
  | .unexpectedCode code offset =>
    "an unexpected code '" ++ intText code ++ "' was encountered at line/offset " ++ natText offset
  | .unexpectedPair pair expected =>
    "the code pair '" ++ pair.show ++ "' was not expected at this time: " ++ expected ++
      " at line/offset " ++ natText pair.offset
  | .unexpectedByte byte offset =>
    "the byte '0x" ++ (hexByte byte).toLower ++ "' was not expected at this time at line/offset " ++
      natText offset
  | .unexpectedEnd => "the input unexpectedly ended before the drawing was completely loaded"
  | .codeOutOfRange offset =>
    "the specified enum value does not fall into the expected range at line/offset " ++
      natText offset
  | .emptySet => "the set was not expected to be empty"
  | .expectedTableType offset =>
    "a 2/<table-type> code pair was expected at line/offset " ++ natText offset
  | .truncatedImage => "failed to fill whole buffer"

/-- The type of the value a code takes. -/
inductive ValueType where
  | text
  | real
  | short
  | integer
  | long
  | flag
  | binary
  deriving Inhabited, BEq

/-- The value type of a group code, `none` for codes that have none. -/
def ValueType.ofCode (code : Int) : Option ValueType :=
  let within (low high : Int) := low ≤ code && code ≤ high
  if within 0 9 then some .text
  else if within 10 59 then some .real
  else if within 60 79 then some .short
  else if within 90 99 then some .integer
  else if within 100 102 || code == 105 then some .text
  else if within 110 149 then some .real
  else if within 160 169 then some .long
  else if within 170 179 then some .short
  else if within 210 239 then some .real
  else if within 270 289 then some .short
  else if within 290 299 then some .flag
  else if within 300 309 then some .text
  else if within 310 319 then some .binary
  else if within 320 369 then some .text
  else if within 370 389 then some .short
  else if within 390 399 then some .text
  else if within 400 409 then some .short
  else if within 410 419 then some .text
  else if within 420 429 then some .integer
  else if within 430 439 then some .text
  else if within 440 449 then some .integer
  else if within 450 459 then some .integer
  else if within 460 469 then some .real
  else if within 470 481 then some .text
  else if code == 999 then some .text
  else if within 1000 1009 then some .text
  else if within 1010 1059 then some .real
  else if within 1060 1070 then some .short
  else if code == 1071 then some .integer
  else none

/-- Reads a signed decimal integer that must lie from `low` to `high`: an optional sign and at
least one digit. Characters are taken from the left and the first problem met is the one
reported. -/
def readInteger (low high : Int) (text : List Char) : Except IntegerProblem Int :=
  match text with
  | [] => .error .empty
  | first :: rest =>
    let (negative, digits) :=
      if first == '-' then (true, rest) else if first == '+' then (false, rest) else (false, text)
    if digits.isEmpty then .error .invalidDigit else
    digits.foldlM (fun (value : Int) character =>
      if !character.isDigit then .error .invalidDigit
      else
        let next :=
          if negative then value * 10 - digitValue character else value * 10 + digitValue character
        if next > high then .error .tooLarge
        else if next < low then .error .tooSmall
        else .ok next) 0

/-- A real number cut towards zero into 16 bits, as a saturating conversion does: not-a-number
gives zero. -/
def truncateShort (value : Float) : Int :=
  if value.isNaN then 0
  else if value ≥ 32767.0 then 32767
  else if value ≤ -32768.0 then -32768
  else if value < 0.0 then -((-value).floor.toUInt64.toNat : Int)
  else (value.floor.toUInt64.toNat : Int)

/-- The bytes of hexadecimal text, two digits a byte; with an odd number of digits the first
stands alone. `none` when a character is not a hex digit. -/
def hexBytes? (text : List Char) : Option (List UInt8) := do
  let digits ← text.mapM hexDigitValue?
  let (paired, lone) :=
    if digits.length % 2 == 1 then (digits.drop 1, digits.take 1) else (digits, [])
  let rec pairUp : List Nat → List UInt8
    | high :: low :: rest => UInt8.ofNat (high * 16 + low) :: pairUp rest
    | _ => []
  return lone.map UInt8.ofNat ++ pairUp paired

/-- Reads a real number from the text of a value. -/
def readReal (text : String) (offset : Nat) : Except DxfFault Float :=
  let trimmed := (trimText text).toList
  match readFloat? trimmed with
  | some value => .ok value
  | none => .error (.invalidFloat trimmed.isEmpty offset)

/-- Reads the text of a value line as a value of the given type; `offset` is the line's number. -/
def readValue (kind : ValueType) (text : String) (offset : Nat) : Except DxfFault PairValue :=
  let integer (low high : Int) : Except DxfFault Int :=
    match readInteger low high (trimText text).toList with
    | .ok value => .ok value
    | .error problem => .error (.invalidInteger problem offset)
  match kind with
  | .text => .ok (.text (unescape text))
  | .real => PairValue.real <$> readReal text offset
  | .short => (fun value => PairValue.short (truncateShort value)) <$> readReal text offset
  | .flag => (fun value => PairValue.flag (truncateShort value)) <$> readReal text offset
  | .integer => PairValue.integer <$> integer (-2147483648) 2147483647
  | .long => PairValue.long <$> integer (-9223372036854775808) 9223372036854775807
  | .binary =>
    match hexBytes? text.toList with
    | some bytes => .ok (.binary bytes)
    | none => .error (.malformed offset)

/-- The text of a pair, empty for any other kind of value. -/
def Pair.text (pair : Pair) : String :=
  match pair.value with
  | .text value => value
  | _ => ""

/-- The bytes of a pair of binary data, none for any other kind of value. -/
def Pair.bytes (pair : Pair) : List UInt8 :=
  match pair.value with
  | .binary bytes => bytes
  | _ => []

/-- A real value of a pair, zero for any other kind of value. -/
def Pair.real (pair : Pair) : Float :=
  match pair.value with
  | .real value => value
  | _ => 0.0

/-- A short value of a pair, zero for any other kind of value. -/
def Pair.short (pair : Pair) : Int :=
  match pair.value with
  | .short value | .flag value => value
  | _ => 0

/-- Whether a pair is `0/<word>`. -/
def Pair.marks (pair : Pair) (word : String) : Bool :=
  pair.code == 0 && pair.text == word

/-- Reads a handle from a text pair: hexadecimal digits after trimming, none at all meaning the
empty handle; anything else is a fault at the pair. -/
def Pair.handle (pair : Pair) : Except DxfFault Unit :=
  match hexBytes? (trimText pair.text).toList with
  | some _ => .ok ()
  | none => .error (.malformed pair.offset)

/-- Reads binary data from a text pair: hexadecimal digits, two a byte; anything else is a fault
at the pair. -/
def Pair.hexData (pair : Pair) : Except DxfFault Unit :=
  match hexBytes? pair.text.toList with
  | some _ => .ok ()
  | none => .error (.malformed pair.offset)

end Toolpath.Dxf
