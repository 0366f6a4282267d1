import Toolpath.Number.Text

/-!
# JSON values and their text

A JSON value keeps what a reader can tell apart: a number read without fraction or exponent is a
whole number (non-negative, or negative), any other number a binary64 value, and an object keeps
its members in the order of the text.

Two printers: `Json.compact` writes a value on one line without blanks, `Json.pretty` indents
members and elements by two spaces per level. Floats are written as the JSON style of
`FloatStyle` writes them; strings escape the quote, the backslash and every control character,
the common ones by their short escapes and the rest as `\u00XX` with lower-case hex digits.
-/

namespace Toolpath

open Toolpath.Number

/-- A JSON number: a whole number read as such, or a binary64 value. -/
inductive JsonNumber where
  | natural (value : Nat)
  | negative (value : Int)
  | float (value : Float)
  deriving Inhabited

/-- A JSON value; object members keep their order. -/
inductive Json where
  | null
  | bool (value : Bool)
  | number (value : JsonNumber)
  | string (value : String)
  | array (items : List Json)
  | object (members : List (String × Json))
  deriving Inhabited

/-- The text of a number. -/
def JsonNumber.text : JsonNumber → String
  | .natural value => natText value
  | .negative value => if value < 0 then "-" ++ natText value.natAbs else natText value.natAbs
  | .float value => FloatStyle.json.render value

namespace Json

/-- The lower-case hex digit of a value below sixteen. -/
def hexDigit (value : Nat) : Char :=
  if value < 10 then Char.ofNat ('0'.toNat + value) else Char.ofNat ('a'.toNat + value - 10)

/-- The escaped form of one character inside a JSON string. -/
def escapeChar (character : Char) : List Char :=
  match character with
  | '"' => ['\\', '"']
  | '\\' => ['\\', '\\']
  | '\n' => ['\\', 'n']
  | '\r' => ['\\', 'r']
  | '\t' => ['\\', 't']
  | _ =>
    let code := character.toNat
    if code == 8 then ['\\', 'b']
    else if code == 12 then ['\\', 'f']
    else if code < 0x20 then ['\\', 'u', '0', '0', hexDigit (code / 16), hexDigit (code % 16)]
    else [character]

/-- A string as a JSON string literal. -/
def quote (text : String) : String :=
  String.ofList ('"' :: (text.toList.flatMap escapeChar ++ ['"']))

mutual

/-- A value on one line without blanks. -/
def compact : Json → String
  | .null => "null"
  | .bool value => if value then "true" else "false"
  | .number value => value.text
  | .string value => quote value
  | .array items => "[" ++ compactItems items ++ "]"
  | .object members => "\x7b" ++ compactMembers members ++ "\x7d"

/-- Array elements on one line, separated by commas. -/
def compactItems : List Json → String
  | [] => ""
  | [item] => compact item
  | item :: rest => compact item ++ "," ++ compactItems rest

/-- Object members on one line, separated by commas. -/
def compactMembers : List (String × Json) → String
  | [] => ""
  | [(key, value)] => quote key ++ ":" ++ compact value
  | (key, value) :: rest => quote key ++ ":" ++ compact value ++ "," ++ compactMembers rest

end

/-- Two spaces per level of nesting. -/
def indentation (depth : Nat) : String :=
  repeatChar (2 * depth) ' '

mutual

/-- A value indented by two spaces per level, starting at nesting `depth`. Empty arrays and
objects stay on one line. -/
def prettyAt (depth : Nat) : Json → String
  | .array [] => "[]"
  | .object [] => "\x7b\x7d"
  | .array items => "[\n" ++ prettyItems (depth + 1) items ++ "\n" ++ indentation depth ++ "]"
  | .object members =>
    "\x7b\n" ++ prettyMembers (depth + 1) members ++ "\n" ++ indentation depth ++ "\x7d"
  | value => compact value

/-- Array elements, one per line. -/
def prettyItems (depth : Nat) : List Json → String
  | [] => ""
  | [item] => indentation depth ++ prettyAt depth item
  | item :: rest => indentation depth ++ prettyAt depth item ++ ",\n" ++ prettyItems depth rest

/-- Object members, one per line. -/
def prettyMembers (depth : Nat) : List (String × Json) → String
  | [] => ""
  | [(key, value)] => indentation depth ++ quote key ++ ": " ++ prettyAt depth value
  | (key, value) :: rest =>
    indentation depth ++ quote key ++ ": " ++ prettyAt depth value ++ ",\n" ++
      prettyMembers depth rest

end

/-- A value with two spaces of indentation per level and no final line break. -/
def pretty (value : Json) : String :=
  prettyAt 0 value

/-- The member of an object with a given key, the first one if there are several. -/
def field? (value : Json) (key : String) : Option Json :=
  match value with
  | .object members => members.lookup key
  | _ => none

end Json

end Toolpath
