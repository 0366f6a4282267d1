import Toolpath.Toml.Scan
import Toolpath.Number.Read

/-!
# Reading TOML documents

The rules of the TOML grammar, from strings and numbers up to whole documents.

* Strings come in four kinds: basic (`"…"`, with escapes), literal (`'…'`), and their multi-line
  forms with tripled quotes, where a line break right after the opening quotes is dropped and a
  backslash at the end of a line swallows the blanks and line breaks after it.
* A value that starts with a sign or a digit is tried as a date or time first, then as a float,
  then as an integer. Underscores may stand between digits. A float that overflows to positive
  infinity is refused; the words `inf` and `nan` are floats.
* Arrays may spread over lines and hold comments; inline tables stay on one line.
* A key is one or more simple keys joined by dots; a simple key is bare (letters, digits, `-`,
  `_`) or quoted.

Nesting of arrays and inline tables is bounded by `fuel`, which starts above the length of the
text, so it never runs out first; loops over repeated parts carry the length of what is left.
-/

namespace Toolpath.Toml

open Toolpath.Number
open Rule

/-- The message of a value outside its range. -/
def outOfRange : String := "value is out of range"

/-- Whether a character is an ASCII digit. -/
def isDigitChar (character : Char) : Bool := character.isDigit

/-- Whether a character is a hexadecimal digit. -/
def isHexChar (character : Char) : Bool :=
  character.isDigit || ('a' ≤ character && character ≤ 'f') || ('A' ≤ character && character ≤ 'F')

/-- The value of digits in a base. -/
def digitsValue (base : Nat) (digits : List Char) : Nat :=
  digits.foldl (fun value character =>
    let digit :=
      if character.isDigit then character.toNat - '0'.toNat
      else if 'a' ≤ character && character ≤ 'f' then character.toNat - 'a'.toNat + 10
      else character.toNat - 'A'.toNat + 10
    value * base + digit) 0

/-! ## Strings -/

/-- Reads exactly `count` hexadecimal digits of a Unicode escape and gives the character. Too
few digits, or a code that is no character, fail at the first digit. -/
def hexEscape (count : Nat) : Rule Char := do
  let start ← offset
  let digits ← takeUpTo isHexChar count
  if digits.length != count then failAt start none false
  let code := digitsValue 16 digits
  if code > 0x10FFFF || (0xD800 ≤ code && code ≤ 0xDFFF) then failAt start (some outOfRange) false
  return Char.ofNat code

/-- Reads the character after a backslash. -/
def escapeSequence : Rule Char := do
  match ← anyChar with
  | 'b' => return Char.ofNat 8
  | 'f' => return Char.ofNat 12
  | 'n' => return '\n'
  | 'r' => return '\r'
  | 't' => return '\t'
  | '\\' => return '\\'
  | '"' => return '"'
  | 'u' => commit (withContext (.label "unicode 4-digit hex code") (hexEscape 4))
  | 'U' => commit (withContext (.label "unicode 8-digit hex code") (hexEscape 8))
  | _ =>
    let expected := ['b', 'f', 'n', 'r', 't', 'u', 'U', '\\', '"'].map fun character =>
      Context.expected (.char character)
    throw { offset := ← offset, contexts := .label "escape sequence" :: expected, committed := true }

/-- Reads an escape: a backslash and what follows. -/
def escaped : Rule Char := do
  char '\\'
  escapeSequence

/-- A character that stands for itself in a basic string. -/
def isBasicChar (character : Char) : Bool :=
  isBlank character || character == '!' || ('#' ≤ character && character ≤ '[') ||
    (']' ≤ character && character.toNat ≤ 0x7E) || character.toNat ≥ 0x80

/-- Reads the pieces of a basic string up to the first that is neither plain nor an escape. -/
def basicPieces : Nat → Rule (List Char)
  | 0 => pure []
  | budget + 1 => do
    let piece ← attempt (orElse (takeWhile1 isBasicChar) (do return [← escaped]))
    match piece with
    | some piece => return piece ++ (← basicPieces budget)
    | none => return []

/-- Reads a basic string. -/
def basicString : Rule String := do
  char '"'
  let body ← basicPieces ((← get).rest.length + 1)
  commit (withContext (.label "basic string") (char '"'))
  return String.ofList body

/-- A character that may stand in a literal string. -/
def isLiteralChar (character : Char) : Bool :=
  character == '\t' || (' ' ≤ character && character.toNat ≤ 0x26) ||
    ('(' ≤ character && character.toNat ≤ 0x7E) || character.toNat ≥ 0x80

/-- Reads a literal string. -/
def literalString : Rule String :=
  withContext (.label "literal string") do
    char '\''
    let body ← takeWhile isLiteralChar
    commit (char '\'')
    return String.ofList body

/-- Reads blanks and line breaks in any mix. -/
def wsNewlines : Nat → Rule Unit
  | 0 => pure ()
  | budget + 1 => do
    match ← attempt (orElse newline (discard (takeWhile1 isBlank))) with
    | some () => wsNewlines budget
    | none => pure ()

/-- Reads a backslash at the end of a line with the blanks and line breaks after it, one or more
times. -/
def escapedNewline : Nat → Rule Unit
  | 0 => fail
  | budget + 1 => do
    char '\\'
    ws
    newline
    wsNewlines ((← get).rest.length + 1)
    match ← attempt (lookAhead (do char '\\'; ws; newline)) with
    | some () => escapedNewline budget
    | none => pure ()

/-- Reads one piece of a multi-line basic string: plain characters, an escaped line end
(nothing), an escape, or a line break. -/
def multiLinePiece : Rule (List Char) :=
  orElse (takeWhile1 fun character => isBasicChar character)
    (orElse (do escapedNewline ((← get).rest.length + 1); return [])
      (orElse (do return [← escaped]) (do newline; return ['\n'])))

/-- Reads pieces of a multi-line basic string while there are any. -/
def multiLinePieces : Nat → Rule (List Char)
  | 0 => pure []
  | budget + 1 => do
    match ← attempt multiLinePiece with
    | some piece => return piece ++ (← multiLinePieces budget)
    | none => return []

/-- Reads one or two quote characters that are followed by what `follow` accepts. -/
def quotesBefore (quote : Char) (follow : Rule Unit) : Rule (List Char) :=
  orElse (do literal [quote, quote]; lookAhead follow; return [quote, quote])
    (do char quote; lookAhead follow; return [quote])

/-- Reads runs of quotes followed by more content, inside a multi-line basic string. -/
def quotedRuns : Nat → Rule (List Char)
  | 0 => pure []
  | budget + 1 => do
    match ← attempt (quotesBefore '"' (discard (oneOf (· != '"')))) with
    | none => return []
    | some quotes =>
      match ← attempt multiLinePiece with
      | none => return []
      | some piece =>
        let more ← multiLinePieces ((← get).rest.length + 1)
        return quotes ++ piece ++ more ++ (← quotedRuns budget)

/-- Reads a multi-line basic string. -/
def multiLineBasicString : Rule String :=
  withContext (.label "multiline basic string") do
    literal ['"', '"', '"']
    discard (attempt newline)
    let body ← commit do
      let start ← multiLinePieces ((← get).rest.length + 1)
      let runs ← quotedRuns ((← get).rest.length + 1)
      let closing ← attempt (quotesBefore '"' (literal ['"', '"', '"']))
      return start ++ runs ++ closing.getD []
    commit (literal ['"', '"', '"'])
    return String.ofList body

/-- Reads one character or line break of a multi-line literal string. -/
def literalPiece : Rule Unit :=
  orElse (discard (oneOf isLiteralChar)) newline

/-- Reads characters and line breaks of a multi-line literal string while there are any. -/
def literalPieces : Nat → Rule Unit
  | 0 => pure ()
  | budget + 1 => do
    match ← attempt literalPiece with
    | some () => literalPieces budget
    | none => pure ()

/-- Reads runs of apostrophes followed by more content, inside a multi-line literal string. -/
def literalRuns : Nat → Rule Unit
  | 0 => pure ()
  | budget + 1 => do
    let round ← attempt do
      discard (quotesBefore '\'' (discard (oneOf (· != '\''))))
      literalPiece
      literalPieces ((← get).rest.length + 1)
    match round with
    | some () => literalRuns budget
    | none => pure ()

/-- Line breaks written as carriage return and line feed become line feeds. -/
def normalizeBreaks : List Char → List Char
  | '\r' :: '\n' :: rest => '\n' :: normalizeBreaks rest
  | character :: rest => character :: normalizeBreaks rest
  | [] => []

/-- Reads a multi-line literal string. -/
def multiLineLiteralString : Rule String :=
  withContext (.label "multiline literal string") do
    literal ['\'', '\'', '\'']
    discard (attempt newline)
    let ((), body) ← commit (recognize do
      literalPieces ((← get).rest.length + 1)
      literalRuns ((← get).rest.length + 1)
      discard (attempt (quotesBefore '\'' (literal ['\'', '\'', '\'']))))
    commit (literal ['\'', '\'', '\''])
    return String.ofList (normalizeBreaks body)

/-- Reads a string of any of the four kinds. -/
def stringValue : Rule String :=
  orElse multiLineBasicString (orElse basicString (orElse multiLineLiteralString literalString))

/-! ## Numbers -/

/-- Reads further digits, each possibly after one underscore. -/
def digitRun (digit : Char → Bool) : Nat → Rule (List Char)
  | 0 => pure []
  | budget + 1 => do
    let part ← attempt (orElse (do return [← oneOf digit])
      (do
        char '_'
        let next ← commit (withContext (.expected (.description "digit")) (oneOf digit))
        return ['_', next]))
    match part with
    | some part => return part ++ (← digitRun digit budget)
    | none => return []

/-- Reads a decimal integer: an optional sign, then `0` or a digit from one to nine and more
digits. -/
def decimalInteger : Rule (List Char) :=
  withContext (.label "integer") do
    let sign ← attempt (oneOf fun character => character == '+' || character == '-')
    let body ← orElse
      (do
        let first ← oneOf fun character => '1' ≤ character && character ≤ '9'
        return first :: (← digitRun isDigitChar ((← get).rest.length + 1)))
      (do return [← oneOf isDigitChar])
    return sign.toList ++ body

/-- Reads digits where a leading zero is allowed. -/
def zeroPrefixable : Rule (List Char) := do
  let first ← oneOf isDigitChar
  return first :: (← digitRun isDigitChar ((← get).rest.length + 1))

/-- Reads an exponent. -/
def exponentPart : Rule (List Char) := do
  let marker ← oneOf fun character => character == 'e' || character == 'E'
  let sign ← attempt (oneOf fun character => character == '+' || character == '-')
  let digits ← commit zeroPrefixable
  return marker :: (sign.toList ++ digits)

/-- Reads a fraction. -/
def fractionPart : Rule (List Char) := do
  char '.'
  let digits ← commit (withContext (.expected (.description "digit")) zeroPrefixable)
  return '.' :: digits

/-- Reads the text of a float with digits: an integer part, then an exponent, or a fraction and
perhaps an exponent. -/
def floatText : Rule (List Char) := do
  let whole ← decimalInteger
  let rest ← orElse exponentPart (do
    let fraction ← fractionPart
    let exponent ← attempt exponentPart
    return fraction ++ exponent.getD [])
  return whole ++ rest

/-- Negative infinity. -/
def negativeInfinity : Float := -infinity

/-- Reads `inf` or `nan` with an optional sign. -/
def specialFloat : Rule Float := do
  let sign ← attempt (oneOf fun character => character == '+' || character == '-')
  let value ← orElse (do literal "inf".toList; return infinity) (do literal "nan".toList; return notANumber)
  return if sign == some '-' then -value else value

/-- Reads a float; one that overflows to positive infinity is refused at its start. -/
def floatValue : Rule Float :=
  withContext (.label "floating-point number") (orElse
    (do
      let start ← offset
      let text ← floatText
      match readFloat? (text.filter (· != '_')) with
      | some value =>
        if value.isInf && value > 0.0 then failAt start none true else return value
      | none => failAt start none true)
    specialFloat)

/-- The complaint about an integer outside 64 bits. -/
def integerOverflow (negative : Bool) : String :=
  if negative then "number too small to fit in target type" else "number too large to fit in target type"

/-- Checks that an integer fits in 64 bits, failing at `start` otherwise. -/
def fitInteger (start : Nat) (value : Int) : Rule Int :=
  if value > 9223372036854775807 then failAt start (some (integerOverflow false)) true
  else if value < -9223372036854775808 then failAt start (some (integerOverflow true)) true
  else pure value

/-- Reads an integer with a base prefix (`0x`, `0o`, `0b`). -/
def prefixedInteger (name : String) (base : Nat) (digit : Char → Bool) : Rule Int := do
  let start ← offset
  let digits ← withContext (.label name) do
    advance
    advance
    commit do
      let first ← oneOf digit
      return first :: (← digitRun digit ((← get).rest.length + 1))
  commit (fitInteger start (digitsValue base (digits.filter (· != '_'))))

/-- Reads an integer in any base. An integer outside 64 bits is refused with only the reason,
as the range is checked after the digits are read. -/
def integerValue : Rule Int := do
  let two := (← get).rest.take 2
  if two == ['0', 'x'] then prefixedInteger "hexadecimal integer" 16 isHexChar
  else if two == ['0', 'o'] then
    prefixedInteger "octal integer" 8 fun character => '0' ≤ character && character ≤ '7'
  else if two == ['0', 'b'] then
    prefixedInteger "binary integer" 2 fun character => character == '0' || character == '1'
  else
    let start ← offset
    let text := (← decimalInteger).filter (· != '_')
    let (negative, digits) := takeSign text
    let magnitude : Int := digitsValue 10 digits
    commit (fitInteger start (if negative then -magnitude else magnitude))

/-! ## Dates and times -/

/-- Reads exactly `count` digits and checks their value against a range; a value out of range
fails at the first digit, committed when `committed`. -/
def boundedDigits (count low high : Nat) (committed : Bool) : Rule Nat := do
  let start ← offset
  let digits ← takeUpTo isDigitChar count
  if digits.length != count then failAt start none committed
  let value := digitsValue 10 digits
  if value < low || value > high then failAt start (some outOfRange) committed
  return value

/-- Reads a date `YYYY-MM-DD`, checking the day against the month. -/
def fullDate : Rule Unit := do
  let year ← do
    let start ← offset
    let digits ← takeUpTo isDigitChar 4
    if digits.length != 4 then failAt start none false
    pure (digitsValue 10 digits)
  char '-'
  let month ← boundedDigits 2 1 12 true
  commit (char '-')
  let dayStart ← offset
  let day ← boundedDigits 2 1 31 true
  let leap := year % 4 == 0 && (year % 100 != 0 || year % 400 == 0)
  let longest :=
    if month == 2 then (if leap then 29 else 28)
    else if month == 4 || month == 6 || month == 9 || month == 11 then 30 else 31
  if day > longest then failAt dayStart (some outOfRange) true

/-- Reads a time `HH:MM:SS` with an optional fraction of a second. -/
def partialTime : Rule Unit := do
  discard (boundedDigits 2 0 23 false)
  char ':'
  commit do
    discard (boundedDigits 2 0 59 false)
    char ':'
    discard (boundedDigits 2 0 60 false)
    discard (attempt (do char '.'; discard (takeWhile1 isDigitChar)))

/-- Reads a time offset: `Z`, or a sign with hours and minutes. -/
def timeOffset : Rule Unit :=
  withContext (.label "time offset") (orElse
    (discard (oneOf fun character => character == 'Z' || character == 'z'))
    (do
      discard (oneOf fun character => character == '+' || character == '-')
      commit do
        discard (boundedDigits 2 0 23 false)
        char ':'
        discard (boundedDigits 2 0 59 false)))

/-- Reads a date with an optional time, or a time alone; its failures are about a date-time. -/
def dateTime : Rule Unit :=
  withContext (.label "date-time") <| orElse
    (do
      fullDate
      discard (attempt do
        discard (oneOf fun character => character == 'T' || character == 't' || character == ' ')
        partialTime
        discard (attempt timeOffset)))
    partialTime

/-! ## Values, keys and documents -/

/-- Reads a bare key. -/
def isBareKeyChar (character : Char) : Bool :=
  character.isAlphanum || character == '-' || character == '_'

/-- Reads a simple key: bare or quoted. -/
def simpleKey : Rule Key := do
  let start ← offset
  let (name, raw) ← recognize do
    match ← peek with
    | some '"' => basicString
    | some '\'' => literalString
    | _ => return String.ofList (← takeWhile1 isBareKeyChar)
  return { name, raw := String.ofList raw, span := ⟨start, start + (String.ofList raw).utf8ByteSize⟩ }

/-- Reads more simple keys after dots. -/
def moreKeys : Nat → Rule (List Key)
  | 0 => pure []
  | budget + 1 => do
    let next ← attempt do
      char '.'
      ws
      let key ← simpleKey
      ws
      return key
    match next with
    | some key => return key :: (← moreKeys budget)
    | none => return []

/-- How deep arrays and inline tables may nest, and how many parts a dotted key may have: the
reader refuses to go this deep. -/
def nestingLimit : Nat := 80

/-- The complaint about going too deep. -/
def tooDeep : String := "recursion limit exceeded"

/-- Reads a key: simple keys joined by dots, with blanks around them, fewer than
`nestingLimit` of them. -/
def keyPath : Rule (List Key) := do
  let start ← offset
  let keys ← withContext (.label "key") do
    ws
    let first ← simpleKey
    ws
    return first :: (← moreKeys ((← get).rest.length + 1))
  if nestingLimit ≤ keys.length then failAt start (some tooDeep) false
  return keys

/-- Reads the text of a word (`true`, `false`, `inf`, `nan`) where a string was more likely
meant; failures say so. -/
def asString (rule : Rule α) : Rule α :=
  withContext (.expected (.char '\'')) (withContext (.expected (.char '"'))
    (withContext (.label "string") rule))

/-- Files an entry into an inline table, creating dotted inline tables on the way. -/
def insertInline (walked : List Key) : List Key → Key → Value → List (Key × Value) →
    Except BuildError (List (Key × Value))
  | [], key, value, entries =>
    if entries.any (fun (other, _) => other.name == key.name) then
      .error (.duplicateKey key.name none)
    else .ok (entries ++ [(key, value)])
  | step :: rest, key, value, entries =>
    match entries.find? (fun (other, _) => other.name == step.name) with
    | none => do
      let inner ← insertInline (walked ++ [step]) rest key value []
      return entries ++ [(step, .inlineTable inner true none)]
    | some (_, .inlineTable inner dotted span) => do
      let inner ← insertInline (walked ++ [step]) rest key value inner
      return entries.map fun (other, old) =>
        if other.name == step.name then (other, .inlineTable inner dotted span) else (other, old)
    | some (_, other) => .error (.extendWrongType ((walked ++ [step]).map Key.name) other.typeName)

mutual

/-- Reads a value inside `depth` arrays and inline tables; one more of them than the limit allows
is refused where it opens. -/
def value (depth : Nat) : Nat → Rule Value
  | 0 => fail
  | fuel + 1 => do
    let start ← offset
    let spanFrom (stop : Nat) : Span := ⟨start, stop⟩
    match ← peek with
    | none => fail
    | some '"' | some '\'' =>
      let text ← stringValue
      return .string text (spanFrom (← offset))
    | some '[' =>
      if nestingLimit ≤ depth + 1 then failAt start (some tooDeep) true
      let items ← arrayValue (depth + 1) fuel
      return .array items (spanFrom (← offset))
    | some '{' =>
      if nestingLimit ≤ depth + 1 then failAt start (some tooDeep) true
      let entries ← inlineTable (depth + 1) fuel
      return .inlineTable entries false (some (spanFrom (← offset)))
    | some character =>
      if character == '+' || character == '-' || character.isDigit then
        let asDate : Rule Value := do
          let ((), text) ← recognize dateTime
          return .datetime (String.ofList text) (spanFrom (← offset))
        let asFloat : Rule Value := do
          let number ← floatValue
          return .float number (spanFrom (← offset))
        let asInteger : Rule Value := do
          let number ← integerValue
          return .integer number (spanFrom (← offset))
        orElse asDate (orElse asFloat asInteger)
      else if character == '_' then
        withContext (.expected (.description "leading digit")) do
          let number ← integerValue
          return .integer number (spanFrom (← offset))
      else if character == '.' then
        withContext (.expected (.description "leading digit")) do
          let number ← floatValue
          return .float number (spanFrom (← offset))
      else if character == 't' then
        asString do
          commit (literal "true".toList)
          return .boolean true (spanFrom (← offset))
      else if character == 'f' then
        asString do
          commit (literal "false".toList)
          return .boolean false (spanFrom (← offset))
      else if character == 'i' || character == 'n' then
        asString do
          let number ← specialFloat
          return .float number (spanFrom (← offset))
      else asString fail

/-- Reads an array that is the `depth`-th of the arrays and inline tables around its elements. -/
def arrayValue (depth : Nat) : Nat → Rule (List Value)
  | 0 => fail
  | fuel + 1 => do
    char '['
    let items ← commit do
      if (← peek) == some ']' then return [] else
      let items ← arrayItems depth fuel ((← get).rest.length + 1) true
      if !items.isEmpty then discard (attempt (char ','))
      wsCommentNewline ((← get).rest.length + 1)
      return items
    commit (withContext (.expected (.char ']')) (withContext (.label "array") (char ']')))
    return items

/-- Reads array elements separated by commas, inside `depth` arrays and inline tables. -/
def arrayItems (depth : Nat) : Nat → Nat → Bool → Rule (List Value)
  | 0, _, _ => pure []
  | _, 0, _ => pure []
  | fuel + 1, budget + 1, first => do
    let element : Rule Value := do
      wsCommentNewline ((← get).rest.length + 1)
      let item ← value depth fuel
      wsCommentNewline ((← get).rest.length + 1)
      return item
    let next ← attempt (if first then element else do char ','; element)
    match next with
    | some item => return item :: (← arrayItems depth (fuel + 1) budget false)
    | none => return []

/-- Reads an inline table's entries; the table is the `depth`-th of the arrays and inline tables
around its values. -/
def inlineTable (depth : Nat) : Nat → Rule (List (Key × Value))
  | 0 => fail
  | fuel + 1 => do
    char '{'
    let entries ← commit do
      let start ← offset
      let pairs ← inlinePairs depth fuel ((← get).rest.length + 1) true
      ws
      match pairs.foldlM (fun entries (path, key, item) => insertInline [] path key item entries) [] with
      | .ok entries => return entries
      | .error refusal => failAt start (some refusal.message) false
    commit (withContext (.expected (.char '}')) (withContext (.label "inline table") (char '}')))
    return entries

/-- Reads the key-value pairs of an inline table, separated by commas, inside `depth` arrays and
inline tables. -/
def inlinePairs (depth : Nat) : Nat → Nat → Bool → Rule (List (List Key × Key × Value))
  | 0, _, _ => pure []
  | _, 0, _ => pure []
  | fuel + 1, budget + 1, first => do
    let pair : Rule (List Key × Key × Value) := do
      let path ← keyPath
      commit do
        expecting '.' '=' (char '=')
        ws
        let item ← value depth fuel
        ws
        return (path.dropLast, path.getLast?.getD default, item)
    let next ← attempt (if first then pair else do char ','; pair)
    match next with
    | some entry => return entry :: (← inlinePairs depth (fuel + 1) budget false)
    | none => return []

end

/-- Files with the builder, failing at `start` with the builder's complaint. -/
def build (start : Nat) (step : Builder → Except BuildError Builder) : Rule Unit := do
  let scan ← get
  match step scan.builder with
  | .ok builder => set { scan with builder }
  | .error refusal => failAt start (some refusal.message) false

/-- Reads a key-value pair and its line end, and files it. -/
def keyValueLine (fuel : Nat) : Rule Unit := do
  let start ← offset
  let path ← keyPath
  let item ← commit do
    expecting '.' '=' (char '=')
    ws
    let item ← value 0 fuel
    expecting '\n' '#' lineTrailing
    return item
  build start fun builder => builder.addPair path.dropLast (path.getLast?.getD default) item

/-- Reads a table header `[key]` or `[[key]]` and its line end, and starts the table. -/
def tableHeader : Rule Unit := do
  let array := (← get).rest.take 2 == ['[', '[']
  let start ← offset
  withContext (.label (if array then "array table" else "table header")) do
    if array then literal ['[', '['] else char '['
    let path ← commit keyPath
    commit (expecting '.' ']' (if array then literal [']', ']'] else char ']'))
    let stop ← offset
    commit (expecting '\n' '#' lineTrailing)
    build start fun builder =>
      if array then builder.startArrayTable path ⟨start, stop⟩ else builder.startTable path ⟨start, stop⟩

/-- Reads one line-level item of a document and the blanks after it. -/
def documentItem (fuel : Nat) : Rule Unit := do
  match ← peek with
  | none => fail
  | some '#' => commit (do comment; lineEnding)
  | some '[' => commit tableHeader
  | some '\n' | some '\r' => newline
  | some _ => commit (keyValueLine fuel)
  ws

/-- Reads line-level items while there are any. -/
def documentItems (fuel : Nat) : Nat → Rule Unit
  | 0 => pure ()
  | budget + 1 => do
    match ← attempt (documentItem fuel) with
    | some () => documentItems fuel budget
    | none => pure ()

/-- Reads a whole document: an optional byte-order mark, then items up to the end. -/
def documentRule : Rule Unit := do
  discard (attempt (char (Char.ofNat 0xFEFF)))
  ws
  let fuel := (← get).rest.length + 1
  documentItems (3 * fuel) fuel
  eof

/-- Reads a TOML document into its root table. -/
def readDocument (text : String) : Except TomlError Table :=
  match documentRule.run { rest := text.toList } with
  | .error failure => .error (failure.toError text)
  | .ok ((), scan) =>
    match scan.builder.finish with
    | .ok builder => .ok builder.root
    | .error refusal => .error { message := refusal.message, span := none, document := text }

end Toolpath.Toml
