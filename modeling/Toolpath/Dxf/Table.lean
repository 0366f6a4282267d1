import Toolpath.Dxf.Group

/-!
# Tables

The tables section lists tables, each `0/TABLE`, `2/<type>`, its entries and `0/ENDTAB`. An entry
of a table of a known type starts with `0/<type>` and runs up to the next `0` pair; pairs before
the first entry (the table's own handle, flags and groups) are passed over, and the first `0`
pair that does not start an entry ends the entries. A table of another type is passed over up to
the next `0/TABLE`, `0/ENDTAB` or `0/ENDSEC`.

Inside an entry, handles must be hexadecimal, extension groups and extended data must be well
formed, and other pairs are taken as they come. Unlike entities, an entry that cannot be read is
a fault of the whole drawing.
-/

namespace Toolpath.Dxf

/-- The codes that hold handles in the entries of a table of the given type; `none` for a type
this library does not know. -/
def tableHandleCodes (tableType : String) : Option (List Int) :=
  if tableType == "APPID" || tableType == "STYLE" then some [5, 330]
  else if tableType == "BLOCK_RECORD" || tableType == "LTYPE" then some [5, 330, 340]
  else if tableType == "DIMSTYLE" then some [5, 330]
  else if tableType == "LAYER" then some [5, 330, 347, 390]
  else if tableType == "UCS" then some [5, 330, 346]
  else if tableType == "VIEW" then some [5, 330, 332, 334, 345, 346]
  else if tableType == "VPORT" then some [5, 330, 332, 333, 345, 346, 348]
  else none

/-- Applies one pair of an entry (or of a block): a handle is checked, a group or extended data
is read, any other pair is taken as it comes. -/
def applyItemPair (handleCodes : List Int) (pair : Pair) : Reader Unit := do
  if handleCodes.contains pair.code then liftExcept pair.handle
  else if pair.code == 102 then skipGroup pair
  else if pair.code == 1001 then skipExtendedData

/-- Reads the pairs of one entry up to the next `0` pair, which is put back. -/
def readEntryPairs (handleCodes : List Int) : Nat → Reader Unit
  | 0 => throw .unexpectedEnd
  | fuel + 1 => do
    let pair ← requirePair
    if pair.code == 0 then putBack pair
    else
      applyItemPair handleCodes pair
      readEntryPairs handleCodes fuel

/-- Reads the entries of a table of a known type up to the first `0` pair that does not start
one, which is put back. -/
def readEntries (tableType : String) (handleCodes : List Int) : Nat → Reader Unit
  | 0 => throw .unexpectedEnd
  | fuel + 1 => do
    let pair ← requirePair
    if pair.code != 0 then readEntries tableType handleCodes fuel
    else if pair.text != tableType then putBack pair
    else
      readEntryPairs handleCodes (← rounds)
      readEntries tableType handleCodes fuel

/-- Passes over a table of an unknown type up to the next `0/TABLE`, `0/ENDTAB` or `0/ENDSEC`,
which is put back. -/
def skipTable : Nat → Reader Unit
  | 0 => throw .unexpectedEnd
  | fuel + 1 => do
    let pair ← requirePair
    if pair.code == 0 &&
        (pair.text == "TABLE" || pair.text == "ENDTAB" || pair.text == "ENDSEC") then
      putBack pair
    else skipTable fuel

/-- Reads a table after its `0/TABLE` pair: its type, its entries and its `0/ENDTAB`. -/
def readTable : Reader Unit := do
  let typePair ← requirePair
  if typePair.code != 2 then throw (.expectedTableType typePair.offset)
  match tableHandleCodes typePair.text with
  | some handleCodes => readEntries typePair.text handleCodes (← rounds)
  | none => skipTable (← rounds)
  let closing ← requirePair
  if !closing.marks "ENDTAB" then throw (.unexpectedPair closing "expected 0/ENDTAB")

/-- Reads items of a section, each starting with `0/<item>`, up to its `0/ENDSEC`, which is put
back; any other pair is a fault. `found` holds the items read so far, last first. -/
def readSectionItems (item : String) (readItem : Reader α) : Nat → List α → Reader (List α)
  | 0, _ => throw .unexpectedEnd
  | fuel + 1, found => do
    let pair ← requirePair
    if pair.marks "ENDSEC" then
      putBack pair
      return found.reverse
    else if pair.marks item then
      let read ← readItem
      readSectionItems item readItem fuel (read :: found)
    else throw (.unexpectedPair pair "")

/-- Reads the tables section after its name. -/
def readTables : Reader Unit := do
  discard (readSectionItems "TABLE" readTable (← rounds) [])

end Toolpath.Dxf
