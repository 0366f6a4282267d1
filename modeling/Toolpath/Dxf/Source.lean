import Toolpath.Dxf.Pair

/-!
# The pairs of a file

A `Source` hands out the pairs of a file one at a time. A text file gives a pair for each code
line and the value line after it; a binary file, which starts with the line
`AutoCAD Binary DXF` and the bytes `0x1A 0x00`, gives a pair for each code (one byte, or two
when the first code shows two) and its value in little-endian binary. Comments (code 999) are
passed over.

Reading can stop without the file being over: a blank code line in a text file stops the
pairs there, like the end of the file, but asking again goes on after it. A pair that cannot be
read is a fault; its lines are read all the same, so asking again goes on after them. Readers can
put pairs back, and they come out again first, the last put back first.

`Reader` is the monad of everything that reads a drawing: it keeps the source even when it stops
with a fault, because some readers take a fault as the end of a list and go on reading.
-/

namespace Toolpath.Dxf

open Toolpath.Number

/-- Where the pairs not read yet are. -/
inductive Layout where
  /-- Lines of a text file. -/
  | text (lines : List (List UInt8))
  /-- Bytes of a binary file; `wide` says whether codes take two bytes, once the first code
  has shown it. -/
  | binary (bytes : List UInt8) (wide : Option Bool)
  deriving Inhabited

/-- A source of pairs: what is left of the file, the offset reached (lines read of a text file,
bytes of a binary one), whether text is UTF-8, and the pairs put back, next first. -/
structure Source where
  layout : Layout
  offset : Nat := 0
  utf8 : Bool := false
  pending : List Pair := []
  deriving Inhabited

/-- What one read gives: a pair, a fault, or a stop. -/
inductive Step where
  | pair (pair : Pair)
  | fault (fault : DxfFault)
  | stop
  deriving Inhabited

/-- How much is left to read: lines or bytes, and pairs put back. -/
def Source.size (source : Source) : Nat :=
  source.pending.length + match source.layout with
    | .text lines => lines.length
    | .binary bytes _ => bytes.length

/-- Reads one pair from the lines of a text file, with the number of lines read before them:
the step, the lines left and the number of lines read. A code line at the end of the file has an
empty value line after it. -/
def textStep (utf8 : Bool) (offset : Nat) : List (List UInt8) → Step × List (List UInt8) × Nat
  | [] => (.stop, [], offset)
  | codeLine :: rest =>
    let offset := offset + 1
    let codeText := trimText (dropReturn (decodeLine utf8 (withoutMark codeLine)))
    if codeText.isEmpty then (.stop, rest, offset) else
    match readInteger (-2147483648) 2147483647 codeText.toList with
    | .error problem => (.fault (.invalidInteger problem offset), rest, offset)
    | .ok code =>
      let (valueLine, after) := match rest with
        | [] => ([], [])
        | valueLine :: after => (valueLine, after)
      let valueOffset := offset + 1
      match ValueType.ofCode code with
      | none => (.fault (.codeOutOfRange valueOffset), after, valueOffset)
      | some kind =>
        match readValue kind (dropReturn (decodeLine utf8 valueLine)) valueOffset with
        | .ok value => (.pair { code, value, offset }, after, valueOffset)
        | .error fault => (.fault fault, after, valueOffset)

/-- The unsigned little-endian number of bytes. -/
def littleEndian (bytes : List UInt8) : Nat :=
  bytes.foldr (fun byte value => value * 256 + byte.toNat) 0

/-- A number of `bits` bits read as two's complement. -/
def signed (bits : Nat) (value : Nat) : Int :=
  if value ≥ Nat.pow 2 (bits - 1) then (value : Int) - (Nat.pow 2 bits : Nat) else value

/-- Takes `count` bytes, or fails at the end of the file. -/
def takeBytes (count : Nat) (bytes : List UInt8) : Except DxfFault (List UInt8 × List UInt8) :=
  if bytes.length < count then .error .unexpectedEnd else .ok (bytes.take count, bytes.drop count)

/-- Reads a value of a binary file: the value, the bytes left and the size the offset advances
by. Text ends at a zero byte and has one character per byte, each byte its own code, and it
advances the offset by its length in UTF-8 and one; binary data has its length in its first byte;
flags take one byte with two-byte codes and two otherwise. -/
def binaryValue (wide : Bool) (kind : ValueType) (bytes : List UInt8) :
    Except DxfFault (PairValue × List UInt8 × Nat) := do
  match kind with
  | .text =>
    let text := bytes.takeWhile (· != 0)
    if text.length == bytes.length then throw .unexpectedEnd
    let characters := text.map fun byte => Char.ofNat byte.toNat
    return (.text (unescape (String.ofList characters)), bytes.drop (text.length + 1),
      utf8Length characters + 1)
  | .real =>
    let (taken, rest) ← takeBytes 8 bytes
    return (.real (Float.ofBits (UInt64.ofNat (littleEndian taken))), rest, 8)
  | .short =>
    let (taken, rest) ← takeBytes 2 bytes
    return (.short (signed 16 (littleEndian taken)), rest, 2)
  | .flag =>
    let size := if wide then 1 else 2
    let (taken, rest) ← takeBytes size bytes
    return (.flag (if wide then (littleEndian taken : Int) else signed 16 (littleEndian taken)),
      rest, size)
  | .integer =>
    let (taken, rest) ← takeBytes 4 bytes
    return (.integer (signed 32 (littleEndian taken)), rest, 4)
  | .long =>
    let (taken, rest) ← takeBytes 8 bytes
    return (.long (signed 64 (littleEndian taken)), rest, 8)
  | .binary =>
    let (length, rest) ← takeBytes 1 bytes
    let (taken, rest) ← takeBytes (littleEndian length) rest
    return (.binary taken, rest, littleEndian length + 1)

/-- Reads one pair from the bytes of a binary file: the step, the bytes left, the offset reached
and what is known of the width of codes. The first code of a file is two bytes wide when it is
zero and so is the byte after it; a one-byte code of 255 is followed by a two-byte code. -/
def binaryStep (offset : Nat) (wide : Option Bool) (bytes : List UInt8) :
    Step × List UInt8 × Nat × Option Bool :=
  match bytes with
  | [] => (.stop, [], offset, wide)
  | first :: rest =>
    let offset := offset + 1
    let coded : Except DxfFault (Int × List UInt8 × Nat × Bool) :=
      match wide, rest with
      | none, 0 :: after =>
        if first == 0 then .ok (0, after, offset + 1, true)
        else .ok (first.toNat, rest, offset, false)
      | none, _ => .ok (first.toNat, rest, offset, false)
      | some true, high :: after => .ok (first.toNat + 256 * high.toNat, after, offset + 1, true)
      | some true, [] => .error .unexpectedEnd
      | some false, _ =>
        if first == 255 then
          match rest with
          | low :: high :: after =>
            .ok (signed 16 (littleEndian [low, high]), after, offset + 2, false)
          | _ => .error .unexpectedEnd
        else .ok (first.toNat, rest, offset, false)
    match coded with
    | .error fault => (.fault fault, [], offset, wide)
    | .ok (code, rest, offset, isWide) =>
      match ValueType.ofCode code with
      | none => (.fault (.codeOutOfRange offset), rest, offset, some isWide)
      | some kind =>
        match binaryValue isWide kind rest with
        | .error fault => (.fault fault, [], offset, some isWide)
        | .ok (value, after, size) =>
          let offset := offset + size
          (.pair { code, value, offset }, after, offset, some isWide)

/-- Reads one step from the file itself, not from the pairs put back. -/
def Source.readStep (source : Source) : Step × Source :=
  match source.layout with
  | .text lines =>
    let (step, rest, offset) := textStep source.utf8 source.offset lines
    (step, { source with layout := .text rest, offset })
  | .binary bytes wide =>
    let (step, rest, offset, wide) := binaryStep source.offset wide bytes
    (step, { source with layout := .binary rest wide, offset })

/-- Reads steps from the file, passing over comments, at most `fuel` of them. -/
def Source.pull : Nat → Source → Step × Source
  | 0, source => (.stop, source)
  | fuel + 1, source =>
    match source.readStep with
    | (.pair pair, after) =>
      if pair.code == 999 then Source.pull fuel after else (.pair pair, after)
    | other => other

/-- The reader of a drawing: it reads pairs from a source and may stop with a fault, keeping the
source as it stands then. -/
abbrev Reader := ExceptT DxfFault (StateM Source)

/-- The next pair: one put back, else one read from the file past comments; `none` at a stop.
A pair that cannot be read stops the reader with its fault. -/
def nextPair : Reader (Option Pair) := do
  let source ← get
  match source.pending with
  | pair :: rest =>
    set { source with pending := rest }
    return some pair
  | [] =>
    let (step, after) := source.pull (source.size + 1)
    set after
    match step with
    | .pair pair => return some pair
    | .fault fault => throw fault
    | .stop => return none

/-- The next pair; the end of the pairs is a fault. -/
def requirePair : Reader Pair := do
  match ← nextPair with
  | some pair => return pair
  | none => throw .unexpectedEnd

/-- Puts a pair back, to be read next. -/
def putBack (pair : Pair) : Reader Unit :=
  modify fun source => { source with pending := pair :: source.pending }

/-- Reads text as UTF-8 from now on. -/
def readTextAsUtf8 : Reader Unit :=
  modify fun source => { source with utf8 := true }

/-- A bound on the rounds of a loop that reads at least one pair each round: what is left to
read, and one more. -/
def rounds : Reader Nat := do
  return (← get).size + 1

/-- Runs a reader that may stop with a fault, giving whether it did and going on either way
from where it stopped. -/
def attempt (reader : Reader α) : Reader (Except DxfFault α) :=
  tryCatch (Except.ok <$> reader) fun fault => return .error fault

/-- A pair put back is the next pair read, and reading it leaves the source as it was. -/
theorem nextPair_after_putBack (pair : Pair) (source : Source) :
    (putBack pair *> nextPair).run.run source = (.ok (some pair), source) := rfl

/-- With pairs put back, the next pair is the first of them. -/
theorem nextPair_pending (pair : Pair) (rest : List Pair) (source : Source) :
    nextPair.run.run { source with pending := pair :: rest } =
      (.ok (some pair), { source with pending := rest }) := rfl

/-- The bound on rounds leaves the source as it is. -/
theorem rounds_run (source : Source) : rounds.run.run source = (.ok (source.size + 1), source) :=
  rfl

/-- An attempt never stops the reader: it gives the outcome of the reader, fault or value, and
the source where the reader left it. -/
theorem attempt_run (reader : Reader α) (source : Source) :
    (attempt reader).run.run source =
      ((.ok (reader.run.run source).1 : Except DxfFault (Except DxfFault α)),
        (reader.run.run source).2) := by
  unfold attempt
  simp only [tryCatch, tryCatchThe, MonadExceptOf.tryCatch, ExceptT.tryCatch, ExceptT.run,
    ExceptT.mk, Functor.map, ExceptT.map, bind, StateT.bind, StateT.run, pure, ExceptT.pure]
  rcases reader source with ⟨result, after⟩
  cases result <;> rfl

/-- The lines of a file: split at line feeds, no empty line after a final line feed. -/
def fileLines (bytes : List UInt8) : List (List UInt8) :=
  let pieces := bytes.splitOn 10
  match pieces.getLast? with
  | some [] => pieces.dropLast
  | _ => pieces

/-- The first line of a binary file. -/
def binaryMark : String := "AutoCAD Binary DXF"

/-- The first line of a drawing exchange file in the binary form of plotting output. -/
def exchangeMark : String := "AutoCAD DXB 1.0"

/-- Checks the bytes `0x1A` and `0x00` that follow the first line of a binary file, the first
line having `start` bytes; gives the bytes after them. The file may not end before them. -/
def checkSentinel (start : Nat) (rest : List UInt8) : Except DxfFault (List UInt8) :=
  match rest with
  | 0x1A :: 0x00 :: after => .ok after
  | [0x1A] | [] => .error .unexpectedEnd
  | 0x1A :: _ => .error (.unexpectedByte 0x00 (start + 1))
  | _ => .error (.unexpectedByte 0x1A start)

/-- Opens a file as a source of pairs; `none` for an empty file. A binary file must go on with
the bytes `0x1A` and `0x00` after its first line. A file of plotting output has no pairs: it
ends before a drawing is complete. -/
def Source.open (bytes : List UInt8) : Except DxfFault (Option Source) :=
  match fileLines bytes with
  | [] => .ok none
  | first :: _ =>
    let firstText := dropReturn (decodeLine false (withoutMark first))
    let rest := bytes.drop (first.length + 1)
    if firstText == binaryMark then do
      let after ← checkSentinel firstText.utf8ByteSize rest
      return some { layout := .binary after none, offset := firstText.utf8ByteSize + 2 }
    else if firstText == exchangeMark then do
      discard (checkSentinel firstText.utf8ByteSize rest)
      throw .unexpectedEnd
    else .ok (some { layout := .text (fileLines bytes) })

end Toolpath.Dxf
