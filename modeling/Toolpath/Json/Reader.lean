import Toolpath.Json.Value
import Toolpath.Number.Read
import Toolpath.Number.Stepwise

/-!
# Reading JSON text

A reader walks the text with a cursor that knows the line of the next character and its column,
counted in UTF-8 bytes from the start of the line. An error names the line and the column where
reading stopped: after the last character read, or, for an error about the next character, after
that character (a line break there counts as the start of the next line).

This module holds the pieces that every reader of JSON text shares: blanks, the literals `null`,
`true` and `false`, strings with their escapes (a `\u` escape of a leading surrogate must be
followed by one of a trailing surrogate), numbers (a whole number stays whole while it fits in 64
bits; otherwise its digits are gathered into a 64-bit significand, digits that do not fit being
dropped or moved into the exponent, and the value is scaled in binary64 steps as
`Number.stepwiseDecimal` does, an overflow being out of range), skipping a value unread, and
`Json.parse`, which reads a complete value. The text is read as bytes: where a fault concerns a
character of several bytes, the position is after its first byte.
-/

namespace Toolpath

open Toolpath.Number

/-- How a reader turns a decimal number into a binary64 value: to the nearest one, or in the
quick binary64 steps of `Number.stepwiseDecimal`, after gathering its digits into a 64-bit
significand. -/
inductive DecimalRounding where
  | nearest
  | stepwise
  deriving BEq, Inhabited

/-- Where a reader stands: the rest of the text, the line of its next character (from one) and
its column in bytes (from zero), and how it rounds decimal numbers. -/
structure Cursor where
  rest : List Char
  line : Nat := 1
  column : Nat := 0
  rounding : DecimalRounding := .nearest
  deriving Inhabited

namespace Cursor

/-- A cursor at the start of a text. -/
def start (text : String) (rounding : DecimalRounding := .nearest) : Cursor :=
  { rest := text.toList, rounding }

/-- The cursor after its next character. -/
def advance (cursor : Cursor) : Cursor :=
  match cursor.rest with
  | [] => cursor
  | '\n' :: rest => { cursor with rest, line := cursor.line + 1, column := 0 }
  | character :: rest => { cursor with rest, column := cursor.column + character.utf8Size }

/-- The position after the characters read so far. -/
def position (cursor : Cursor) : Nat × Nat :=
  (cursor.line, cursor.column)

/-- The position one byte further, where an error about the next character is reported. -/
def peekPosition (cursor : Cursor) : Nat × Nat :=
  match cursor.rest with
  | [] => (cursor.line, cursor.column)
  | '\n' :: _ => (cursor.line + 1, 0)
  | _ => (cursor.line, cursor.column + 1)

/-- The position `count` bytes further on; a line feed among them starts a new line, and a
character only partly inside counts its bytes inside. -/
def positionAfterBytes (cursor : Cursor) (count : Nat) : Nat × Nat :=
  let step := fun (state : Nat × Nat × Nat) (character : Char) =>
    let (left, line, column) := state
    if left == 0 then state
    else if character == '\n' then (left - 1, line + 1, 0)
    else
      let size := character.utf8Size
      if size ≤ left then (left - size, line, column + size) else (0, line, column + left)
  let (_, line, column) := cursor.rest.foldl step (count, cursor.line, cursor.column)
  (line, column)

/-- The number of bytes left to read. -/
def bytesLeft (cursor : Cursor) : Nat :=
  cursor.rest.foldl (fun total character => total + character.utf8Size) 0

end Cursor

/-- What went wrong while reading JSON text. -/
inductive JsonFault where
  | eofWhileParsingList
  | eofWhileParsingObject
  | eofWhileParsingString
  | eofWhileParsingValue
  | expectedColon
  | expectedListCommaOrEnd
  | expectedObjectCommaOrEnd
  | expectedSomeIdent
  | expectedSomeValue
  | invalidEscape
  | invalidNumber
  | numberOutOfRange
  | controlCharacterWhileParsingString
  | keyMustBeAString
  | loneLeadingSurrogateInHexEscape
  | trailingComma
  | trailingCharacters
  | unexpectedEndOfHexEscape
  | recursionLimitExceeded
  deriving Repr, BEq, Inhabited

/-- The message of a reading fault. -/
def JsonFault.message : JsonFault → String
  | .eofWhileParsingList => "EOF while parsing a list"
  | .eofWhileParsingObject => "EOF while parsing an object"
  | .eofWhileParsingString => "EOF while parsing a string"
  | .eofWhileParsingValue => "EOF while parsing a value"
  | .expectedColon => "expected `:`"
  | .expectedListCommaOrEnd => "expected `,` or `]`"
  | .expectedObjectCommaOrEnd => "expected `,` or `\x7d`"
  | .expectedSomeIdent => "expected ident"
  | .expectedSomeValue => "expected value"
  | .invalidEscape => "invalid escape"
  | .invalidNumber => "invalid number"
  | .numberOutOfRange => "number out of range"
  | .controlCharacterWhileParsingString =>
    "control character (\\u0000-\\u001F) found while parsing a string"
  | .keyMustBeAString => "key must be a string"
  | .loneLeadingSurrogateInHexEscape => "lone leading surrogate in hex escape"
  | .trailingComma => "trailing comma"
  | .trailingCharacters => "trailing characters"
  | .unexpectedEndOfHexEscape => "unexpected end of hex escape"
  | .recursionLimitExceeded => "recursion limit exceeded"

/-- An error of a JSON reader: its message and where it stopped; line zero means no position. -/
structure JsonError where
  message : String
  line : Nat := 0
  column : Nat := 0
  deriving Inhabited

/-- The text of an error: the message, then its position when it has one. -/
def JsonError.text (error : JsonError) : String :=
  if error.line == 0 then error.message
  else error.message ++ " at line " ++ natText error.line ++ " column " ++ natText error.column

/-- A reader of JSON text: it moves the cursor or stops with an error. -/
abbrev JsonReader := StateT Cursor (Except JsonError)

namespace JsonReader

/-- Stops with a fault at the position after the characters read. -/
def fail (fault : JsonFault) : JsonReader α := do
  let cursor ← get
  throw { message := fault.message, line := cursor.position.1, column := cursor.position.2 }

/-- Stops with a fault about the next character. -/
def failAhead (fault : JsonFault) : JsonReader α := do
  let cursor ← get
  throw { message := fault.message, line := cursor.peekPosition.1, column := cursor.peekPosition.2 }

/-- Stops with a message at the position after the characters read. -/
def failWith (message : String) : JsonReader α := do
  let cursor ← get
  throw { message, line := cursor.position.1, column := cursor.position.2 }

/-- The next character, not read. -/
def peek : JsonReader (Option Char) := do
  return (← get).rest.head?

/-- Reads one character. -/
def bump : JsonReader Unit :=
  modify Cursor.advance

/-- Reads and returns the next character. -/
def next : JsonReader (Option Char) := do
  let character ← peek
  bump
  return character

/-- Skips blanks (space, tab, line feed, carriage return) and returns the next character. -/
def skipBlank : JsonReader (Option Char) := do
  let cursor ← get
  let rest := cursor.rest.dropWhile fun character =>
    character == ' ' || character == '\n' || character == '\t' || character == '\r'
  let skipped := cursor.rest.length - rest.length
  set (Nat.repeat Cursor.advance skipped cursor)
  return rest.head?

/-- Reads the rest of a literal whose first character was read. -/
def expectWord : List Char → JsonReader Unit
  | [] => pure ()
  | expected :: rest => do
    match ← peek with
    | none => fail .eofWhileParsingValue
    | some character =>
      if character != expected then failAhead .expectedSomeIdent else do bump; expectWord rest

/-- The value of a hex digit. -/
def hexValue? (character : Char) : Option Nat :=
  if character.isDigit then some (character.toNat - '0'.toNat)
  else if 'a' ≤ character && character ≤ 'f' then some (character.toNat - 'a'.toNat + 10)
  else if 'A' ≤ character && character ≤ 'F' then some (character.toNat - 'A'.toNat + 10)
  else none

/-- Reads the four bytes of hex digits of a `\u` escape. Fewer than four bytes left is the end of
the text inside a string; four bytes that are not all hex digits are an invalid escape, reported
after them. -/
def hexEscape : JsonReader Nat := do
  let cursor ← get
  if cursor.bytesLeft < 4 then
    set (Nat.repeat Cursor.advance cursor.rest.length cursor)
    fail .eofWhileParsingString
  match cursor.rest with
  | a :: b :: c :: d :: _ =>
    match hexValue? a, hexValue? b, hexValue? c, hexValue? d with
    | some a, some b, some c, some d =>
      bump; bump; bump; bump
      return ((a * 16 + b) * 16 + c) * 16 + d
    | _, _, _, _ =>
      let (line, column) := cursor.positionAfterBytes 4
      throw { message := JsonFault.invalidEscape.message, line, column }
  | _ =>
    let (line, column) := cursor.positionAfterBytes 4
    throw { message := JsonFault.invalidEscape.message, line, column }

/-- The character of a code point that is not a surrogate. -/
def charOfCode (code : Nat) : Char :=
  Char.ofNat code

/-- Reads the rest of a `\u` escape inside a string being kept: a leading surrogate must be
followed by an escaped trailing surrogate. -/
def unicodeEscape : JsonReader Char := do
  let first ← hexEscape
  if 0xDC00 ≤ first && first ≤ 0xDFFF then fail .loneLeadingSurrogateInHexEscape
  else if first < 0xD800 || first > 0xDBFF then return charOfCode first
  else
    match ← peek with
    | some '\\' => bump
    | some _ => failAhead .unexpectedEndOfHexEscape
    | none => fail .eofWhileParsingString
    match ← peek with
    | some 'u' => bump
    | some _ => failAhead .unexpectedEndOfHexEscape
    | none => fail .eofWhileParsingString
    let second ← hexEscape
    if second < 0xDC00 || second > 0xDFFF then fail .loneLeadingSurrogateInHexEscape
    else return charOfCode ((first - 0xD800) * 1024 + (second - 0xDC00) + 0x10000)

/-- Reads the character after a backslash in a string being kept. -/
def escape : JsonReader Char := do
  let simple := fun (character : Char) => do bump; return character
  match ← peek with
  | none => fail .eofWhileParsingString
  | some '"' => simple '"'
  | some '\\' => simple '\\'
  | some '/' => simple '/'
  | some 'b' => simple (Char.ofNat 8)
  | some 'f' => simple (Char.ofNat 12)
  | some 'n' => simple '\n'
  | some 'r' => simple '\r'
  | some 't' => simple '\t'
  | some 'u' => do bump; unicodeEscape
  | some _ => failAhead .invalidEscape

/-- Reads the characters of a string after its opening quote, up to `budget` of them. -/
def stringBody : Nat → List Char → JsonReader String
  | 0, _ => fail .eofWhileParsingString
  | budget + 1, collected => do
    match ← peek with
    | none => fail .eofWhileParsingString
    | some '"' => bump; return String.ofList collected.reverse
    | some '\\' =>
      bump
      let character ← escape
      stringBody budget (character :: collected)
    | some character =>
      bump
      if character.toNat < 0x20 then fail .controlCharacterWhileParsingString
      else stringBody budget (character :: collected)

/-- Reads a string after its opening quote. -/
def string : JsonReader String := do
  stringBody ((← get).rest.length + 1) []

/-- Skips the character after a backslash in a string being skipped. -/
def skipEscape : JsonReader Unit := do
  match ← peek with
  | none => fail .eofWhileParsingString
  | some 'u' => do bump; discard hexEscape
  | some character =>
    if "\"\\/bfnrt".toList.contains character then bump else failAhead .invalidEscape

/-- Skips the characters of a string after its opening quote, up to `budget` of them. A control
character stops the skipping before it is read. -/
def skipStringBody : Nat → JsonReader Unit
  | 0 => fail .eofWhileParsingString
  | budget + 1 => do
    match ← peek with
    | none => fail .eofWhileParsingString
    | some '"' => bump
    | some '\\' => bump; skipEscape; skipStringBody budget
    | some character =>
      if character.toNat < 0x20 then fail .controlCharacterWhileParsingString
      else bump; skipStringBody budget

/-- Skips a string after its opening quote. -/
def skipString : JsonReader Unit := do
  skipStringBody ((← get).rest.length + 1)

/-- Reads decimal digits: their value and how many there were. -/
def digits : JsonReader (Nat × Nat) := do
  let cursor ← get
  let (value, count, _) := takeDigits cursor.rest
  set (Nat.repeat Cursor.advance count cursor)
  return (value, count)

/-- Whether appending a digit to a value passes a limit. -/
def passes (limit value digit : Nat) : Bool :=
  value * 10 + digit > limit

/-- Appends the leading digits of a text to a value while it stays within a limit: the value,
how many digits were taken, and whether a digit was left because it would pass the limit. -/
def appendDigits (limit : Nat) (value : Nat) : List Char → Nat × Nat × Bool
  | [] => (value, 0, false)
  | character :: rest =>
    if character.isDigit then
      if passes limit value (digitValue character) then (value, 0, true)
      else
        let (result, count, full) := appendDigits limit (value * 10 + digitValue character) rest
        (result, count + 1, full)
    else (value, 0, false)

/-- The largest 64-bit significand. -/
def significandLimit : Nat := Nat.pow 2 64 - 1

/-- The largest exponent written after `e`. -/
def exponentLimit : Nat := Nat.pow 2 31 - 1

/-- An exponent held within the signed 32-bit range, as a sum that saturates. -/
def saturate (exponent : Int) : Int :=
  max (-(Nat.pow 2 31 : Int)) (min exponent (Nat.pow 2 31 - 1 : Nat))

/-- Reads digits onto a value while it stays within a limit. -/
def appendRead (limit value : Nat) : JsonReader (Nat × Nat × Bool) := do
  let cursor ← get
  let result := appendDigits limit value cursor.rest
  set (Nat.repeat Cursor.advance result.2.1 cursor)
  return result

/-- The number `± significand · 10 ^ exponent` scaled in binary64 steps; out of range when a step
overflows. -/
def scaled (positive : Bool) (significand : Nat) (exponent : Int) : JsonReader JsonNumber :=
  match stepwiseDecimal (!positive) significand exponent with
  | some value => return .float value
  | none => fail .numberOutOfRange

/-- Reads an exponent from its letter on and gives the number. An exponent past the 32-bit
range is out of range for a positive exponent of a non-zero significand, else a zero. -/
def exponentPart (positive : Bool) (significand : Nat) (start : Int) : JsonReader JsonNumber := do
  bump
  let negative ← match ← peek with
    | some '+' => do bump; pure false
    | some '-' => do bump; pure true
    | _ => pure false
  match ← peek with
  | none => fail .eofWhileParsingValue
  | some character =>
    if !character.isDigit then failAhead .invalidNumber
    bump
    let (power, _, full) ← appendRead exponentLimit (digitValue character)
    if full then
      bump
      if significand != 0 && !negative then fail .numberOutOfRange
      discard digits
      return .float (floatOfBits (!positive) 0)
    scaled positive significand (saturate (if negative then start - power else start + power))

/-- Reads a fraction from its point on and gives the number; digits past the 64-bit significand
are dropped. -/
def fractionPart (positive : Bool) (significand : Nat) (before : Int) : JsonReader JsonNumber := do
  bump
  let (significand, count, full) ← appendRead significandLimit significand
  if full then discard digits
  else if count == 0 then
    match ← peek with
    | some _ => failAhead .invalidNumber
    | none => failAhead .eofWhileParsingValue
  let exponent := before - count
  match ← peek with
  | some 'e' | some 'E' => exponentPart positive significand exponent
  | _ => scaled positive significand exponent

/-- Reads the rest of the number after its whole part. Without fraction or exponent it stays
whole while it fits in 64 bits (a negative one down to `-2 ^ 63`, negative zero excepted). -/
def afterWhole (positive : Bool) (significand : Nat) : JsonReader JsonNumber := do
  match ← peek with
  | some '.' => fractionPart positive significand 0
  | some 'e' | some 'E' => exponentPart positive significand 0
  | _ =>
    if positive then return .natural significand
    else if significand != 0 && significand ≤ Nat.pow 2 63 then
      return .negative (-(significand : Int))
    else return .float (floatOfDecimal true significand 0)

/-- Reads a number after its sign, rounding it in binary64 steps. The digits of the whole part
that do not fit in the 64-bit significand raise its exponent instead. -/
def stepwiseNumber (positive : Bool) : JsonReader JsonNumber := do
  match ← peek with
  | none => fail .eofWhileParsingValue
  | some '0' =>
    bump
    match ← peek with
    | some character => if character.isDigit then failAhead .invalidNumber
    | none => pure ()
    afterWhole positive 0
  | some character =>
    if !character.isDigit then failAhead .invalidNumber
    bump
    let (significand, _, full) ← appendRead significandLimit (digitValue character)
    if !full then afterWhole positive significand
    else
      let (_, extra) ← digits
      match ← peek with
      | some '.' => fractionPart positive significand extra
      | some 'e' | some 'E' => exponentPart positive significand extra
      | _ => scaled positive significand extra

/-- Reads a number after its sign, rounding it to the nearest binary64 value. A number without
fraction and exponent stays whole while it fits in 64 bits (a negative one down to `-2 ^ 63`,
negative zero excepted); an exponent past the 32-bit range is out of range for a positive
exponent of a non-zero significand, else a zero. -/
def nearestNumber (positive : Bool) : JsonReader JsonNumber := do
  let whole ← match ← peek with
    | none => fail .eofWhileParsingValue
    | some '0' => do
      bump
      match ← peek with
      | some character =>
        if character.isDigit then failAhead .invalidNumber else pure 0
      | none => pure 0
    | some character =>
      if character.isDigit then do
        bump
        let (rest, count) ← digits
        pure (digitValue character * Nat.pow 10 count + rest)
      else failAhead .invalidNumber
  let mut significand := whole
  let mut scale : Int := 0
  let mut isFloat := false
  if (← peek) == some '.' then
    bump
    isFloat := true
    let (fraction, count) ← digits
    if count == 0 then
      match ← peek with
      | some _ => failAhead .invalidNumber
      | none => failAhead .eofWhileParsingValue
    significand := significand * Nat.pow 10 count + fraction
    scale := -(count : Int)
  match ← peek with
  | some 'e' | some 'E' =>
    bump
    isFloat := true
    let negativeExponent ← match ← peek with
      | some '+' => do bump; pure false
      | some '-' => do bump; pure true
      | _ => pure false
    match ← peek with
    | none => fail .eofWhileParsingValue
    | some character =>
      if !character.isDigit then failAhead .invalidNumber
      bump
      let (power, _, full) ← appendRead exponentLimit (digitValue character)
      if full then
        bump
        if significand != 0 && !negativeExponent then fail .numberOutOfRange
        discard digits
        return .float (floatOfBits (!positive) 0)
      scale := if negativeExponent then scale - power else scale + power
  | _ => pure ()
  if !isFloat then
    if positive then
      if significand < Nat.pow 2 64 then return .natural significand
    else if significand != 0 && significand ≤ Nat.pow 2 63 then
      return .negative (-(significand : Int))
  let value := floatOfDecimal (!positive) significand scale
  if isInfinite value then fail .numberOutOfRange
  return .float value

/-- Reads a number after its sign, rounding it as the cursor says. -/
def number (positive : Bool) : JsonReader JsonNumber := do
  match (← get).rounding with
  | .nearest => nearestNumber positive
  | .stepwise => stepwiseNumber positive

/-- Skips a number after its sign, checking only its grammar. -/
def skipNumber : JsonReader Unit := do
  match ← peek with
  | some '0' =>
    bump
    match ← peek with
    | some character => if character.isDigit then failAhead .invalidNumber
    | none => pure ()
  | some character =>
    if character.isDigit then do bump; discard digits else failAhead .invalidNumber
  | none => fail .invalidNumber
  if (← peek) == some '.' then
    bump
    let (_, count) ← digits
    if count == 0 then failAhead .invalidNumber
  match ← peek with
  | some 'e' | some 'E' =>
    bump
    match ← peek with
    | some '+' | some '-' => bump
    | _ => pure ()
    match ← peek with
    | some character =>
      if character.isDigit then do bump; discard digits else failAhead .invalidNumber
    | none => fail .invalidNumber
  | _ => pure ()

/-- Skips one scalar value whose first character is `first`, not yet read. -/
def skipScalar (first : Char) : JsonReader Unit :=
  match first with
  | 'n' => do bump; expectWord "ull".toList
  | 't' => do bump; expectWord "rue".toList
  | 'f' => do bump; expectWord "alse".toList
  | '-' => do bump; skipNumber
  | '"' => do bump; skipString
  | _ => if first.isDigit then skipNumber else failAhead .expectedSomeValue

/-- After a value inside the open arrays and objects `open` (innermost first), reads the commas
and closing brackets that follow, up to `budget` closings. The result is the stack of open
brackets left once a comma calls for another element; an empty stack means the value is
complete. -/
def closeAfterValue : Nat → List Char → JsonReader (Option (List Char))
  | 0, _ => fail .eofWhileParsingValue
  | budget + 1, openers =>
    match openers with
    | [] => pure none
    | opener :: outer => do
      match ← skipBlank with
      | some ',' => bump; pure (some openers)
      | some ']' =>
        if opener == '[' then do bump; closeAfterValue budget outer
        else failAhead .expectedObjectCommaOrEnd
      | some '}' =>
        if opener == '{' then do bump; closeAfterValue budget outer
        else failAhead .expectedListCommaOrEnd
      | some _ =>
        failAhead (if opener == '[' then .expectedListCommaOrEnd else .expectedObjectCommaOrEnd)
      | none =>
        failAhead (if opener == '[' then .eofWhileParsingList else .eofWhileParsingObject)

/-- Reads the key and colon that start a member of an object being skipped. -/
def skipMemberKey : JsonReader Unit := do
  match ← skipBlank with
  | some '"' => bump
  | some _ => failAhead .keyMustBeAString
  | none => failAhead .eofWhileParsingObject
  skipString
  match ← skipBlank with
  | some ':' => bump
  | some _ => failAhead .expectedColon
  | none => failAhead .eofWhileParsingObject

/-- Skips values with an explicit stack of open brackets (innermost first); `budget` bounds the
number of steps, each of which reads at least one character. -/
def skipLoop : Nat → List Char → JsonReader Unit
  | 0, _ => fail .eofWhileParsingValue
  | budget + 1, openers => do
    let first ← match ← skipBlank with
      | some character => pure character
      | none => failAhead .eofWhileParsingValue
    if first == '[' || first == '{' then
      bump
      -- an empty array or object closes at once
      let closing := if first == '[' then ']' else '}'
      if (← skipBlank) == some closing then
        bump
        match ← closeAfterValue (budget + 1) openers with
        | none => pure ()
        | some stack =>
          if stack.head? == some '{' then skipMemberKey
          skipLoop budget stack
      else
        if first == '{' then skipMemberKey
        skipLoop budget (first :: openers)
    else
      skipScalar first
      match ← closeAfterValue (budget + 1) openers with
      | none => pure ()
      | some stack =>
        if stack.head? == some '{' then skipMemberKey
        skipLoop budget stack

/-- Skips one value, checking its grammar but not the range of its numbers. -/
def skipValue : JsonReader Unit := do
  skipLoop ((← get).rest.length + 1) []

/-- The members of an object with one member per key, the last one read winning, in the order
of their keys. -/
def normalizeMembers (members : List (String × Json)) : List (String × Json) :=
  let unique := members.foldl
    (fun kept member => (kept.filter fun other => other.1 != member.1) ++ [member]) []
  unique.mergeSort fun first second => decide (first.1 ≤ second.1)

/-- Reads a value that is not an array or object, whose first character is `first`, not yet
read. -/
def scalar (first : Char) : JsonReader Json :=
  match first with
  | 'n' => do bump; expectWord "ull".toList; return .null
  | 't' => do bump; expectWord "rue".toList; return .bool true
  | 'f' => do bump; expectWord "alse".toList; return .bool false
  | '-' => do bump; return .number (← number false)
  | '"' => do bump; return .string (← string)
  | _ => if first.isDigit then do return .number (← number true) else failAhead .expectedSomeValue

mutual

/-- Reads one value, with `depth` more levels of nesting allowed. -/
def value : Nat → JsonReader Json
  | 0 => do
    match ← skipBlank with
    | none => failAhead .eofWhileParsingValue
    | some '[' => failAhead .recursionLimitExceeded
    | some '{' => failAhead .recursionLimitExceeded
    | some character => scalar character
  | depth + 1 => do
    match ← skipBlank with
    | none => failAhead .eofWhileParsingValue
    | some '[' =>
      bump
      let items ← arrayItems depth ((← get).rest.length + 1) true []
      match ← skipBlank with
      | some ']' => bump
      | some _ => failAhead .expectedListCommaOrEnd
      | none => failAhead .eofWhileParsingList
      return .array items
    | some '{' =>
      bump
      let members ← objectMembers depth ((← get).rest.length + 1) true []
      match ← skipBlank with
      | some '}' => bump
      | some _ => failAhead .trailingCharacters
      | none => failAhead .eofWhileParsingObject
      return .object (normalizeMembers members)
    | some character => scalar character
termination_by depth => (depth, 0)

/-- Reads array elements up to the closing bracket, which is left unread. -/
def arrayItems : Nat → Nat → Bool → List Json → JsonReader (List Json)
  | _, 0, _, _ => fail .eofWhileParsingList
  | depth, budget + 1, first, collected => do
    match ← skipBlank with
    | some ']' => return collected.reverse
    | some ',' =>
      if first then failAhead .expectedSomeValue
      else
        bump
        match ← skipBlank with
        | some ']' => failAhead .trailingComma
        | none => failAhead .eofWhileParsingValue
        | some _ => arrayItems depth budget false ((← value depth) :: collected)
    | some _ =>
      if first then arrayItems depth budget false ((← value depth) :: collected)
      else failAhead .expectedListCommaOrEnd
    | none => failAhead .eofWhileParsingList
termination_by depth budget _ _ => (depth, budget + 1)

/-- Reads object members up to the closing brace, which is left unread. -/
def objectMembers : Nat → Nat → Bool → List (String × Json) → JsonReader (List (String × Json))
  | _, 0, _, _ => fail .eofWhileParsingObject
  | depth, budget + 1, first, collected => do
    let start ← match ← skipBlank with
      | some '}' => pure none
      | some ',' =>
        if first then failAhead .keyMustBeAString
        else do bump; pure (some (← skipBlank))
      | some character =>
        if first then pure (some (some character)) else failAhead .expectedObjectCommaOrEnd
      | none => failAhead .eofWhileParsingObject
    match start with
    | none => return collected.reverse
    | some (some '"') =>
      bump
      let key ← string
      match ← skipBlank with
      | some ':' => bump
      | some _ => failAhead .expectedColon
      | none => failAhead .eofWhileParsingObject
      let item ← value depth
      objectMembers depth budget false ((key, item) :: collected)
    | some (some '}') => failAhead .trailingComma
    | some (some _) => failAhead .keyMustBeAString
    | some none => failAhead .eofWhileParsingValue
termination_by depth budget _ _ => (depth, budget + 1)

end

/-- After a complete value, only blanks may follow. -/
def finish : JsonReader Unit := do
  match ← skipBlank with
  | some _ => failAhead .trailingCharacters
  | none => pure ()

end JsonReader

/-- Reads a complete JSON text into a value; objects keep one member per key, in key order. At
most 127 levels of arrays and objects may nest. -/
def Json.parse (text : String) : Except JsonError Json :=
  (do
    let result ← JsonReader.value 127
    JsonReader.finish
    return result).run' (Cursor.start text)

end Toolpath
