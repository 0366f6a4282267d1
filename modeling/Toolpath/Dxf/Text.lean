/-!
# Text in drawing files

A drawing file in text form is a sequence of lines of bytes. A line is read as Windows-1252 text,
one character per byte, until the file's header says that it was written by a version that keeps
its text in UTF-8; from then on lines are read as UTF-8, a malformed sequence becoming one
replacement character. A line that starts with a byte-order mark is read in the encoding the mark
names, without the mark.

Lines that are not UTF-8 may escape characters: a backslash starts a sequence of seven
characters, and `\U+` with four hex digits stands for the character of that code. Text values
escape control characters: a caret and the character after it stand for the control character
`0x40` below it (`^J` is a line feed, `^ ` a caret itself).

Main definitions:
* `windows1252`, `decodeUtf8`, `decodeUtf16`: the three decoders, total on every byte sequence;
* `decodeLine`: the text of a line, the byte-order mark deciding the decoder;
* `isWhiteSpace`, `trimText`: blanks in the Unicode sense and trimming by them;
* `replaceCodeEscapes`, `unescape`: the code escapes of lines and the caret escapes of values.
-/

namespace Toolpath.Dxf

/-- The characters of the bytes `0x80` to `0x9F` in Windows-1252; the five bytes it leaves
undefined keep their own code. -/
def windows1252High : List Nat :=
  [0x20AC, 0x81, 0x201A, 0x192, 0x201E, 0x2026, 0x2020, 0x2021, 0x2C6, 0x2030, 0x160, 0x2039,
   0x152, 0x8D, 0x17D, 0x8F, 0x90, 0x2018, 0x2019, 0x201C, 0x201D, 0x2022, 0x2013, 0x2014,
   0x2DC, 0x2122, 0x161, 0x203A, 0x153, 0x9D, 0x17E, 0x178]

/-- The character of a byte in Windows-1252: the byte's own code outside `0x80` to `0x9F`. -/
def windows1252 (byte : UInt8) : Char :=
  let code := byte.toNat
  if 0x80 ≤ code && code < 0xA0 then Char.ofNat (windows1252High.getD (code - 0x80) code)
  else Char.ofNat code

/-- The replacement character, standing for a malformed sequence. -/
def replacement : Char := Char.ofNat 0xFFFD

/-- Whether a byte lies in a range. -/
def byteWithin (low high : Nat) (byte : UInt8) : Bool :=
  low ≤ byte.toNat && byte.toNat ≤ high

/-- The continuation bytes a UTF-8 lead byte needs, with the range allowed for the first of them
(which excludes overlong forms, surrogates and codes past `0x10FFFF`); `none` for a byte that
cannot lead. -/
def utf8Lead (byte : UInt8) : Option (Nat × Nat × Nat) :=
  let code := byte.toNat
  if 0xC2 ≤ code && code ≤ 0xDF then some (1, 0x80, 0xBF)
  else if code == 0xE0 then some (2, 0xA0, 0xBF)
  else if code == 0xED then some (2, 0x80, 0x9F)
  else if 0xE1 ≤ code && code ≤ 0xEF then some (2, 0x80, 0xBF)
  else if code == 0xF0 then some (3, 0x90, 0xBF)
  else if code == 0xF4 then some (3, 0x80, 0x8F)
  else if 0xF1 ≤ code && code ≤ 0xF3 then some (3, 0x80, 0xBF)
  else none

/-- Takes up to `count` continuation bytes onto a partial code, the first in `low`..`high` and
the others in `0x80`..`0xBF`: the code and the bytes left when all were there, or the bytes left
at the first one missing or out of range (it is not taken). -/
def utf8Continue : Nat → Nat → Nat → Nat → List UInt8 → Option Nat × List UInt8
  | 0, _, _, code, bytes => (some code, bytes)
  | _ + 1, _, _, _, [] => (none, [])
  | count + 1, low, high, code, byte :: rest =>
    if byteWithin low high byte then
      utf8Continue count 0x80 0xBF (code * 64 + (byte.toNat - 0x80)) rest
    else (none, byte :: rest)

/-- Decodes UTF-8 bytes with at most `fuel` characters. A malformed sequence (a byte that cannot
lead, or a lead whose continuation is cut short) becomes one replacement character, and decoding
goes on from the byte that broke it. -/
def decodeUtf8Chars : Nat → List UInt8 → List Char
  | 0, _ => []
  | _ + 1, [] => []
  | fuel + 1, byte :: rest =>
    if byte.toNat < 0x80 then Char.ofNat byte.toNat :: decodeUtf8Chars fuel rest
    else
      match utf8Lead byte with
      | none => replacement :: decodeUtf8Chars fuel rest
      | some (count, low, high) =>
        let lead := byte.toNat % (if count == 1 then 32 else if count == 2 then 16 else 8)
        match utf8Continue count low high lead rest with
        | (some code, after) => Char.ofNat code :: decodeUtf8Chars fuel after
        | (none, after) => replacement :: decodeUtf8Chars fuel after

/-- The text of UTF-8 bytes, malformed sequences replaced. -/
def decodeUtf8 (bytes : List UInt8) : String :=
  String.ofList (decodeUtf8Chars bytes.length bytes)

/-- The UTF-16 code units of bytes in the given order; a last odd byte is left over. -/
def utf16Units (bigEndian : Bool) : List UInt8 → List Nat × Bool
  | first :: second :: rest =>
    let unit :=
      if bigEndian then first.toNat * 256 + second.toNat else second.toNat * 256 + first.toNat
    let (units, odd) := utf16Units bigEndian rest
    (unit :: units, odd)
  | [_] => ([], true)
  | [] => ([], false)

/-- Characters of UTF-16 code units: a leading surrogate followed by a trailing one makes one
character, and a surrogate without its partner becomes a replacement character. -/
def utf16Chars : List Nat → List Char
  | [] => []
  | [unit] => [if 0xD800 ≤ unit && unit ≤ 0xDFFF then replacement else Char.ofNat unit]
  | unit :: next :: after =>
    if 0xD800 ≤ unit && unit ≤ 0xDBFF && 0xDC00 ≤ next && next ≤ 0xDFFF then
      Char.ofNat (0x10000 + (unit - 0xD800) * 1024 + (next - 0xDC00)) :: utf16Chars after
    else if 0xD800 ≤ unit && unit ≤ 0xDFFF then replacement :: utf16Chars (next :: after)
    else Char.ofNat unit :: utf16Chars (next :: after)

/-- The text of UTF-16 bytes; an odd last byte becomes a replacement character. -/
def decodeUtf16 (bigEndian : Bool) (bytes : List UInt8) : String :=
  let (units, odd) := utf16Units bigEndian bytes
  String.ofList (utf16Chars units ++ (if odd then [replacement] else []))

/-- The text of the bytes of a line: a byte-order mark picks UTF-8 or UTF-16 and is dropped;
otherwise UTF-8 when `utf8` is set, else Windows-1252. -/
def decodeBytes (utf8 : Bool) (bytes : List UInt8) : String :=
  match bytes with
  | 0xEF :: 0xBB :: 0xBF :: rest => decodeUtf8 rest
  | 0xFE :: 0xFF :: rest => decodeUtf16 true rest
  | 0xFF :: 0xFE :: rest => decodeUtf16 false rest
  | _ => if utf8 then decodeUtf8 bytes else String.ofList (bytes.map windows1252)

/-- The bytes of a code line without the bytes of a byte-order mark: the first byte is dropped
when it is `0xEF`, the second when it is `0xBB`, the third when it is `0xBF`. -/
def withoutMark (bytes : List UInt8) : List UInt8 :=
  (bytes.zipIdx.filter fun (byte, index) =>
    !((index == 0 && byte == 0xEF) || (index == 1 && byte == 0xBB) ||
      (index == 2 && byte == 0xBF))).map Prod.fst

/-- A text without one carriage return at its end. -/
def dropReturn (text : String) : String :=
  match text.toList.getLast? with
  | some '\r' => String.ofList text.toList.dropLast
  | _ => text

/-- Whether a character is white space in the Unicode sense. -/
def isWhiteSpace (character : Char) : Bool :=
  let code := character.toNat
  (0x09 ≤ code && code ≤ 0x0D) || code == 0x20 || code == 0x85 || code == 0xA0 ||
    code == 0x1680 || (0x2000 ≤ code && code ≤ 0x200A) || code == 0x2028 || code == 0x2029 ||
    code == 0x202F || code == 0x205F || code == 0x3000

/-- A text without its leading and trailing white space. -/
def trimText (text : String) : String :=
  String.ofList ((text.toList.dropWhile isWhiteSpace).reverse.dropWhile isWhiteSpace).reverse

/-- The value of a hex digit. -/
def hexDigitValue? (character : Char) : Option Nat :=
  if character.isDigit then some (character.toNat - '0'.toNat)
  else if 'a' ≤ character && character ≤ 'f' then some (character.toNat - 'a'.toNat + 10)
  else if 'A' ≤ character && character ≤ 'F' then some (character.toNat - 'A'.toNat + 10)
  else none

/-- Reads an unsigned hexadecimal number: an optional plus sign and at least one hex digit. -/
def readHexNumber? (text : List Char) : Option Nat :=
  let digits := match text with
    | '+' :: rest => rest
    | _ => text
  if digits.isEmpty then none
  else digits.foldlM (fun value character => (value * 16 + ·) <$> hexDigitValue? character) 0

/-- The character a complete escape sequence of seven characters stands for, when it starts
with `\U+`: the character whose code the four characters after it read as in hexadecimal (an
optional plus sign, then hex digits), or a question mark when they do not read as a number or the
number is no character's code. Any other sequence stands for nothing but itself. -/
def codeEscape? (sequence : List Char) : Option Char :=
  match sequence with
  | '\\' :: 'U' :: '+' :: digits =>
    some (match readHexNumber? digits with
      | some code =>
        if code < 0xD800 || (0xDFFF < code && code ≤ 0x10FFFF) then Char.ofNat code else '?'
      | none => '?')
  | _ => none

/-- Replaces the code escapes of a line, with the escape sequence read so far when inside one. A
backslash starts a sequence that is complete at seven characters, which is replaced by its
character when it is a `\U+` code and kept as written otherwise; a sequence cut off by the end
of the line is dropped. -/
def codeEscapesFrom : List Char → Option (List Char) → List Char
  | [], _ => []
  | character :: rest, some sequence =>
    let sequence := sequence ++ [character]
    if sequence.length == 7 then
      (match codeEscape? sequence with
        | some decoded => [decoded]
        | none => sequence) ++ codeEscapesFrom rest none
    else codeEscapesFrom rest (some sequence)
  | '\\' :: rest, none => codeEscapesFrom rest (some ['\\'])
  | character :: rest, none => character :: codeEscapesFrom rest none

/-- The text of a line with its code escapes replaced. -/
def replaceCodeEscapes (text : String) : String :=
  String.ofList (codeEscapesFrom text.toList none)

/-- The text of a line: its bytes decoded by `decodeBytes`, and unless the text is UTF-8, its code
escapes replaced. -/
def decodeLine (utf8 : Bool) (bytes : List UInt8) : String :=
  let text := decodeBytes utf8 bytes
  if utf8 then text else replaceCodeEscapes text

/-- The character a caret escape stands for, given the character after the caret: a caret for a
blank; otherwise the low byte of the character's code, less `0x40` when that byte lies in
`0x40`..`0x5F` (`^J` is a line feed, `^@` a nul). -/
def caretCharacter (next : Char) : Char :=
  if next == ' ' then '^'
  else
    let low := next.toNat % 256
    if 0x40 ≤ low && low ≤ 0x5F then Char.ofNat (low - 0x40) else Char.ofNat low

/-- Undoes the caret escapes of a text: a caret and the character after it stand for
`caretCharacter` of that character, and a caret at the end is dropped. -/
def uncaretFrom : List Char → List Char
  | [] => []
  | ['^'] => []
  | '^' :: next :: rest => caretCharacter next :: uncaretFrom rest
  | character :: rest => character :: uncaretFrom rest

/-- The text of a value with its caret escapes undone. -/
def unescape (text : String) : String :=
  String.ofList (uncaretFrom text.toList)

/-- The number of bytes of a sequence of characters in UTF-8. -/
def utf8Length (characters : List Char) : Nat :=
  characters.foldl (fun total character => total + character.utf8Size) 0

end Toolpath.Dxf
