import Toolpath.Toml.Builder
import Toolpath.Toml.Error

/-!
# Scanning TOML text

The reader runs over the characters of the text and counts its position in bytes. A rule that
fails raises a `Failure` at the position where it stopped; an alternative catches a failure and
tries the next rule from where the first one started, unless the failure is committed, which
happens once a rule has seen enough to know that nothing else can apply. Rules that check a value
after reading it (a range, a length) report the failure at the start of what they read.

This module holds the scanning primitives and the rules for blanks, comments and line ends. The
builder of the document travels with the scan, so that a key-value pair or a header is filed as
soon as it is read.
-/

namespace Toolpath.Toml

/-- The state of a scan: the characters left, the bytes read, and the document built so far. -/
structure Scan where
  rest : List Char
  offset : Nat := 0
  builder : Builder := {}
  deriving Inhabited

/-- A rule of the reader. -/
abbrev Rule := StateT Scan (Except Failure)

namespace Rule

/-- The byte offset of the scan. -/
def offset : Rule Nat := do
  return (← get).offset

/-- The next character, not read. -/
def peek : Rule (Option Char) := do
  return (← get).rest.head?

/-- Reads one character. -/
def advance : Rule Unit :=
  modify fun scan =>
    match scan.rest with
    | [] => scan
    | character :: rest => { scan with rest, offset := scan.offset + character.utf8Size }

/-- Fails where the scan stands, leaving room for alternatives. -/
def fail : Rule α := do
  throw { offset := (← offset) }

/-- Fails at a given offset with a cause. -/
def failAt (at_ : Nat) (cause : Option String) (committed : Bool) : Rule α :=
  throw { offset := at_, cause, committed }

/-- Runs a rule; a failure of it is committed. -/
def commit (rule : Rule α) : Rule α :=
  tryCatch rule fun failure => throw { failure with committed := true }

/-- Runs a rule; a failure of it gets a context. -/
def withContext (context : Context) (rule : Rule α) : Rule α :=
  tryCatch rule fun failure => throw { failure with contexts := failure.contexts ++ [context] }

/-- Runs a rule with the expectations `first`, then `second`, added to its failures. -/
def expecting (first second : Char) (rule : Rule α) : Rule α :=
  withContext (.expected (.char second)) (withContext (.expected (.char first)) rule)

/-- Runs a rule, giving `none` and restoring the scan when it fails without commitment. -/
def attempt (rule : Rule α) : Rule (Option α) :=
  tryCatch (some <$> rule) fun failure => if failure.committed then throw failure else pure none

/-- Runs `first`; when it fails without commitment, runs `second` from the same place. -/
def orElse (first second : Rule α) : Rule α :=
  tryCatch first fun failure => if failure.committed then throw failure else second

/-- Runs a rule and puts the scan back where it was, keeping its result. -/
def lookAhead (rule : Rule α) : Rule α := do
  let scan ← get
  let result ← rule
  set scan
  return result

/-- Reads one character that satisfies a test. -/
def oneOf (test : Char → Bool) : Rule Char := do
  match ← peek with
  | some character => if test character then do advance; return character else fail
  | none => fail

/-- Reads one character equal to a given one. -/
def char (expected : Char) : Rule Unit := do
  discard (oneOf (· == expected))

/-- Reads any one character. -/
def anyChar : Rule Char :=
  oneOf fun _ => true

/-- Reads a fixed text, or fails without reading anything. -/
def literal (text : List Char) : Rule Unit := do
  let scan ← get
  if text.isPrefixOf scan.rest then
    for _ in text do advance
  else fail

/-- Reads the longest run (up to `most` characters) of characters that satisfy a test. -/
def takeUpTo (test : Char → Bool) (most : Nat) : Rule (List Char) := do
  let scan ← get
  let taken := (scan.rest.takeWhile test).take most
  for _ in taken do advance
  return taken

/-- Reads the longest run of characters that satisfy a test. -/
def takeWhile (test : Char → Bool) : Rule (List Char) := do
  takeUpTo test (← get).rest.length

/-- Reads a run of at least one character that satisfies a test. -/
def takeWhile1 (test : Char → Bool) : Rule (List Char) := do
  match ← peek with
  | some character => if test character then takeWhile test else fail
  | none => fail

/-- Succeeds only at the end of the text. -/
def eof : Rule Unit := do
  if (← get).rest.isEmpty then pure () else fail

/-- Runs a rule and also returns the characters it read. -/
def recognize (rule : Rule α) : Rule (α × List Char) := do
  let before := (← get).rest
  let result ← rule
  let after := (← get).rest
  return (result, before.take (before.length - after.length))

/-- A blank inside a line: space or tab. -/
def isBlank (character : Char) : Bool :=
  character == ' ' || character == '\t'

/-- Skips blanks inside a line. -/
def ws : Rule Unit :=
  discard (takeWhile isBlank)

/-- Reads a line break: a line feed, or a carriage return and a line feed. -/
def newline : Rule Unit :=
  orElse (char '\n') (do char '\r'; char '\n')

/-- A character that may stand in a comment: tab, printable ASCII, or anything outside ASCII. -/
def isCommentChar (character : Char) : Bool :=
  character == '\t' || (' ' ≤ character && character.toNat ≤ 0x7E) || character.toNat ≥ 0x80

/-- Reads a comment up to the end of its line, which is left unread. -/
def comment : Rule Unit := do
  char '#'
  discard (takeWhile isCommentChar)

/-- Reads a line break, or succeeds at the end of the text. -/
def lineEnding : Rule Unit :=
  orElse newline eof

/-- Reads what may follow a value or header on its line: blanks, a comment, the line break. -/
def lineTrailing : Rule Unit := do
  ws
  discard (attempt comment)
  lineEnding

/-- Skips blanks, comments and line breaks, as between array elements; `budget` bounds the
rounds, each of which reads at least one character. -/
def wsCommentNewline : Nat → Rule Unit
  | 0 => pure ()
  | budget + 1 => do
    ws
    let before ← offset
    match ← peek with
    | some '#' => comment; newline
    | some '\n' | some '\r' => newline
    | _ => return ()
    if (← offset) == before then return ()
    wsCommentNewline budget

end Rule

end Toolpath.Toml
