import Toolpath.Dxf.Header
import Toolpath.Dxf.Object

/-!
# Reading a drawing

A drawing file is a sequence of sections, each `0/SECTION`, `2/<name>`, its content and
`0/ENDSEC`, and it ends with `0/EOF`. The pairs may also just stop, between sections or after the
last one, and then whatever pair comes after the stop must be `0/EOF`.

* The header holds variables (`Header`); the classes section is passed over up to its
  `0/ENDSEC`, like any section this library does not read.
* Tables hold tables (`Table`), blocks hold block definitions, each `0/BLOCK`, its own pairs
  (name, handles, groups), its entities and `0/ENDBLK` with pairs of its own; a block cut short
  by `0/ENDSEC` or `0/EOF` ends there.
* Entities (`Entity`) and objects (`Object`) end their lists quietly at the first item that
  cannot be read, and it is the missing `0/ENDSEC` after them that is a fault.
* The thumbnail image is a byte count under code 90 and a bitmap under code 310, whose header
  must describe no more than the bitmap holds.

An empty file is an empty drawing.
-/

namespace Toolpath.Dxf

/-- The handle codes of a block. -/
def blockHandleCodes : List Int := [5, 330]

/-- Passes over the pairs of `0/ENDBLK` up to the next `0` pair, which is put back. -/
def skipBlockEnd : Nat → Reader Unit
  | 0 => throw .unexpectedEnd
  | fuel + 1 => do
    let pair ← requirePair
    if pair.code == 0 then putBack pair else skipBlockEnd fuel

/-- Reads a block definition after its `0/BLOCK` pair, adding to `block`. -/
def readBlockBody : Nat → Block → Reader Block
  | 0, _ => throw .unexpectedEnd
  | fuel + 1, block => do
    let pair ← requirePair
    if pair.code == 0 then
      if pair.text == "ENDBLK" then
        skipBlockEnd (← rounds)
        return block
      else if pair.text == "ENDSEC" || pair.text == "EOF" then
        putBack pair
        return block
      else
        putBack pair
        let entities ← readEntities
        readBlockBody fuel { block with entities := block.entities ++ entities }
    else if pair.code == 2 then readBlockBody fuel { block with name := pair.text }
    else
      applyItemPair blockHandleCodes pair
      readBlockBody fuel block

/-- Reads a block definition after its `0/BLOCK` pair. -/
def readBlock : Reader Block := do
  readBlockBody (← rounds) { name := "", entities := [] }

/-- The unsigned little-endian number of `count` bytes of `data` from `start`. -/
def fieldAt (data : List UInt8) (start count : Nat) : Nat :=
  littleEndian ((data.drop start).take count)

/-- The number of bytes a bitmap needs after an info header of 40 bytes: its palette (the
colours the header counts, or all colours of at most 8 bits a pixel when it counts none) and its
rows, each padded to a multiple of four bytes. -/
def bitmapDataSize (data : List UInt8) : Nat :=
  let width := (signed 32 (fieldAt data 4 4)).natAbs
  let height := (signed 32 (fieldAt data 8 4)).natAbs
  let bits := fieldAt data 14 2
  let colors := fieldAt data 32 4
  let palette := if colors != 0 then colors else if bits ≤ 8 then Nat.pow 2 bits else 0
  palette * 4 + (width * bits + 31) / 32 * 4 * height

/-- Checks the data of a thumbnail image, a bitmap without its file header. It must hold the size
of its info header; an info header of 40 bytes must hold the fields up to its count of colours,
and then the bitmap must hold the palette and the rows it describes. Other headers are not
looked into. -/
def checkThumbnail (data : List UInt8) : Except DxfFault Unit :=
  if data.length < 4 then .error .unexpectedEnd
  else if fieldAt data 0 4 != 40 then .ok ()
  else if data.length < 36 then .error .unexpectedEnd
  else if data.length < 40 + bitmapDataSize data then .error .truncatedImage
  else .ok ()

/-- Reads the data pairs of a thumbnail image up to the next `0` pair, which is put back, or a
stop: the bytes read so far and after them those of the pairs. -/
def readThumbnailData : Nat → List UInt8 → Reader (List UInt8)
  | 0, data => return data
  | fuel + 1, data => do
    match ← nextPair with
    | none => return data
    | some pair =>
      if pair.code == 0 then
        putBack pair
        return data
      else if pair.code == 310 then readThumbnailData fuel (data ++ pair.bytes)
      else throw (.unexpectedCode pair.code pair.offset)

/-- Reads the thumbnail image section after its name: its byte count, then its data, which is
checked. -/
def readThumbnail : Reader Unit := do
  match ← nextPair with
  | none => pure ()
  | some pair =>
    if pair.code != 90 then throw (.unexpectedCode pair.code pair.offset)
    else liftExcept (checkThumbnail (← readThumbnailData (← rounds) []))

/-- Passes over a section up to its `0/ENDSEC`, which is put back, or a stop. -/
def skipSection : Nat → Reader Unit
  | 0 => throw .unexpectedEnd
  | fuel + 1 => do
    match ← nextPair with
    | none => pure ()
    | some pair => if pair.marks "ENDSEC" then putBack pair else skipSection fuel

/-- Reads the content of a section into a drawing. -/
def readSection (name : String) (drawing : Drawing) : Reader Drawing := do
  if name == "HEADER" then
    readHeader
    return drawing
  else if name == "TABLES" then
    readTables
    return drawing
  else if name == "BLOCKS" then
    let blocks ← readSectionItems "BLOCK" readBlock (← rounds) []
    return { drawing with blocks := drawing.blocks ++ blocks }
  else if name == "ENTITIES" then
    let entities ← readEntities
    return { drawing with entities := drawing.entities ++ entities }
  else if name == "OBJECTS" then
    readObjects
    return drawing
  else if name == "THUMBNAILIMAGE" then
    readThumbnail
    return drawing
  else
    skipSection (← rounds)
    return drawing

/-- Reads sections until `0/EOF` (put back) or a stop. -/
def readSections : Nat → Drawing → Reader Drawing
  | 0, drawing => return drawing
  | fuel + 1, drawing => do
    match ← nextPair with
    | none => return drawing
    | some pair =>
      if pair.code != 0 then throw (.unexpectedPair pair "expected 0/SECTION or 0/EOF")
      else if pair.text == "EOF" then
        putBack pair
        return drawing
      else if pair.text != "SECTION" then throw (.unexpectedPair pair "expected 0/SECTION")
      else
        let namePair ← requirePair
        if namePair.code != 2 then throw (.unexpectedPair namePair "expected 2/<section-name>")
        let drawing ← readSection namePair.text drawing
        let closing ← requirePair
        if !closing.marks "ENDSEC" then throw (.unexpectedPair closing "expected 0/ENDSEC")
        readSections fuel drawing

/-- Reads a whole drawing: its sections, then `0/EOF` or nothing. -/
def readFile : Reader Drawing := do
  let drawing ← readSections (← rounds) {}
  match ← nextPair with
  | none => return drawing
  | some pair =>
    if pair.marks "EOF" then return drawing else throw (.unexpectedPair pair "expected 0/EOF")

/-- Reads a drawing from the bytes of a file. An empty file is an empty drawing. -/
def readDrawing (bytes : List UInt8) : Except DxfFault Drawing :=
  match Source.open bytes with
  | .error fault => .error fault
  | .ok none => .ok {}
  | .ok (some source) => (readFile.run.run source).1

end Toolpath.Dxf
