import Toolpath.Toml.Value
import Toolpath.Number.Text

/-!
# TOML errors

An error of the TOML reader is a message, the stretch of the document it is about, and the
document. Its text names the line and column of the start of the stretch, quotes that line under
a gutter with the line number, and marks the stretch with carets (at least one, and never past
the end of the quoted line), then gives the message.

Columns count characters from one, except when the stretch starts inside a character of more
than one byte, where they count bytes. A syntax error marks one byte, or nothing at the end of
the document.

A syntax error's message is built from what the failing rule was reading (`invalid table
header`), what it expected there (`expected `.`, `]``) and the reason a value was refused, each on
a line of its own.
-/

namespace Toolpath.Toml

open Toolpath.Number

/-- Something a rule expected to find. -/
inductive Expectation where
  | char (character : Char)
  | description (text : String)
  deriving Inhabited

/-- The text of an expectation: a character in back quotes (a line break is `newline`), or a
description as it is. -/
def Expectation.text : Expectation → String
  | .char '\n' => "newline"
  | .char '`' => "'`'"
  | .char character => "`" ++ String.ofList [character] ++ "`"
  | .description text => text

/-- What a failing rule adds to a syntax error. -/
inductive Context where
  /-- The name of what was being read. -/
  | label (name : String)
  /-- Something that would have been accepted. -/
  | expected (expectation : Expectation)
  deriving Inhabited

/-- A syntax error while it travels out of the rules: where reading stood, the contexts added by
the rules it left (innermost first), the reason a value was refused, and whether other
alternatives may still be tried (`committed` forbids it). -/
structure Failure where
  offset : Nat
  contexts : List Context := []
  cause : Option String := none
  committed : Bool := false
  deriving Inhabited

/-- The message of a syntax error: `invalid` and the first label, the expected things, and the
cause, on separate lines. -/
def Failure.message (failure : Failure) : String :=
  let label := failure.contexts.findSome? fun
    | .label name => some name
    | .expected _ => none
  let expected := failure.contexts.filterMap fun
    | .expected expectation => some expectation.text
    | .label _ => none
  let parts :=
    (match label with | some name => ["invalid " ++ name] | none => []) ++
    (if expected.isEmpty then [] else ["expected " ++ ", ".intercalate expected]) ++
    (match failure.cause with | some cause => [cause] | none => [])
  "\n".intercalate parts

/-- An error about a TOML document. -/
structure TomlError where
  message : String
  span : Option Span
  document : String
  deriving Inhabited

/-- Whether a byte continues a character of several bytes. -/
def isContinuation (byte : UInt8) : Bool :=
  0x80 ≤ byte && byte < 0xC0

/-- The line (from zero) and column of a byte offset: the column counts characters from the
start of the line, or bytes when the offset falls inside a character. An offset past the end
counts as one column after the last byte. -/
def lineAndColumn (bytes : List UInt8) (index : Nat) : Nat × Nat :=
  if bytes.isEmpty then (0, index) else
  let safeIndex := min index (bytes.length - 1)
  let beyond := index - safeIndex
  let before := bytes.take safeIndex
  let lineStart := match (before.reverse.findIdx? (· == 10)) with
    | some back => safeIndex - back
    | none => 0
  let line := (bytes.take lineStart).count 10
  let piece := (bytes.drop lineStart).take (safeIndex + 1 - lineStart)
  let endsOnBoundary := match bytes.drop (safeIndex + 1) with
    | [] => true
    | next :: _ => !isContinuation next
  let column :=
    if endsOnBoundary then (piece.filter (fun byte => !isContinuation byte)).length - 1
    else safeIndex - lineStart
  (line, column + beyond)

/-- The text of a TOML error. -/
def TomlError.text (error : TomlError) : String :=
  match error.span with
  | none => error.message ++ "\n"
  | some span =>
    let bytes := error.document.toUTF8.toList
    let (line, column) := lineAndColumn bytes span.start
    let lineNumber := natText (line + 1)
    let gutter := lineNumber.length
    let content := (error.document.splitOn "\n").getD line ""
    let highlight := min (span.stop - span.start) (content.utf8ByteSize - column)
    "TOML parse error at line " ++ lineNumber ++ ", column " ++ natText (column + 1) ++ "\n" ++
      repeatChar (gutter + 1) ' ' ++ "|\n" ++
      lineNumber ++ " | " ++ content ++ "\n" ++
      repeatChar (gutter + 1) ' ' ++ "|" ++ repeatChar (column + 1) ' ' ++ "^" ++
      repeatChar (highlight - 1) '^' ++ "\n" ++
      error.message ++ "\n"

/-- The number of bytes of the character that starts at a byte offset: its first byte and the
continuation bytes after it; zero at the end. -/
def characterWidthAt (bytes : List UInt8) (offset : Nat) : Nat :=
  match bytes.drop offset with
  | [] => 0
  | _ :: rest => 1 + (rest.takeWhile isContinuation).length

/-- The error of a syntax failure in a document: it marks the character where reading stopped,
or the empty stretch at the end. -/
def Failure.toError (failure : Failure) (document : String) : TomlError :=
  let stop := failure.offset + characterWidthAt document.toUTF8.toList failure.offset
  { message := failure.message, span := some ⟨failure.offset, stop⟩, document }

end Toolpath.Toml
