import Toolpath.Dxf.Entity

/-!
# Objects

The objects section lists non-graphical objects (dictionaries, layouts, styles, records), each
`0/<type>` followed by its pairs up to the next `0` pair. Nothing of them is kept, but they are
read as entities are: handles are checked and groups and extended data read, an object of a type
no reader knows is passed over, and the first object that cannot be read ends the list without a
complaint.

Most objects need their pairs to run up to a `0` pair. Dictionaries, records, sort tables and
spatial filters read their pairs in their own way and are complete at a stop as well. A
record's data starts after its subclass marker or its code 280, or at its first pair under
another code than its handles and groups, and from there every pair up to the next `0` pair is
data, taken as it comes. A spatial filter lists its boundary points as pairs under codes 10 and
20, and a `20` before any `10` is a fault.
-/

namespace Toolpath.Dxf

/-- Type names of the objects that are read. -/
def objectTypes : List String :=
  ["ACAD_PROXY_OBJECT", "ACDBDICTIONARYWDFLT", "ACDBPLACEHOLDER", "AcDbNavisworksModelDef",
   "DATATABLE", "DICTIONARY", "DICTIONARYVAR", "DIMASSOC", "FIELD", "GEODATA", "GROUP",
   "IDBUFFER", "IMAGEDEF", "IMAGEDEF_REACTOR", "LAYER_FILTER", "LAYER_INDEX", "LAYOUT",
   "LIGHTLIST", "MATERIAL", "MENTALRAYRENDERSETTINGS", "MLEADERSTYLE", "MLINESTYLE",
   "OBJECT_PTR", "PLOTSETTINGS", "RAPIDRTRENDERENVIRONMENT", "RASTERVARIABLES",
   "RENDERENVIRONMENT", "RENDERGLOBAL", "SECTIONMANAGER", "SECTIONSETTINGS", "SORTENTSTABLE",
   "SPATIAL_FILTER", "SPATIAL_INDEX", "SUNSTUDY", "TABLESTYLE", "UNDERLAYDEFINITION",
   "VBA_PROJECT", "VISUALSTYLE", "WIPEOUTVARIABLES", "XRECORD"]

/-- The handle codes of an object of the given type: its handle, its owner and its own. -/
def objectHandleCodes (objectType : String) : List Int :=
  [5, 330] ++
    if objectType == "DICTIONARY" then [350, 360]
    else if objectType == "ACDBDICTIONARYWDFLT" then [340, 350, 360]
    else if objectType == "GROUP" || objectType == "RAPIDRTRENDERENVIRONMENT" ||
        objectType == "TABLESTYLE" then [340]
    else if objectType == "MLEADERSTYLE" || objectType == "SUNSTUDY" then [340, 341, 342, 343]
    else if objectType == "DIMASSOC" then [301, 331, 332]
    else if objectType == "FIELD" then [331, 360]
    else if objectType == "LAYER_INDEX" || objectType == "SECTIONMANAGER" then [360]
    else if objectType == "PLOTSETTINGS" then [333]
    else if objectType == "LAYOUT" then [331, 333, 345, 346]
    else if objectType == "SORTENTSTABLE" then [331]
    else []

/-- Types of objects that read their pairs in their own way and are complete at a stop. -/
def selfReadObjects : List String :=
  ["DICTIONARY", "SORTENTSTABLE", "SPATIAL_FILTER"]

/-- Reads the pairs of an object up to the next `0` pair, which is put back. With `selfRead` a
stop completes the object; otherwise it is a fault. With `pointList` codes 10 and 20 list
points, and `points` counts those started. -/
def readObjectPairs (selfRead pointList : Bool) (handleCodes : List Int) :
    Nat → Nat → Reader Unit
  | 0, _ => throw .unexpectedEnd
  | fuel + 1, points => do
    match ← nextPair with
    | none => if selfRead then pure () else throw .unexpectedEnd
    | some pair =>
      if pair.code == 0 then putBack pair
      else if pointList && pair.code == 10 then
        readObjectPairs selfRead pointList handleCodes fuel (points + 1)
      else if pointList && pair.code == 20 then
        if points == 0 then throw .emptySet
        else readObjectPairs selfRead pointList handleCodes fuel points
      else
        applyItemPair handleCodes pair
        readObjectPairs selfRead pointList handleCodes fuel points

/-- Reads the data of a record up to the next `0` pair, which is put back, or a stop. -/
def readRecordData : Nat → Reader Unit
  | 0 => throw .unexpectedEnd
  | fuel + 1 => do
    match ← nextPair with
    | none => pure ()
    | some pair => if pair.code == 0 then putBack pair else readRecordData fuel

/-- Reads the pairs of a record before its data, then its data. -/
def readRecord : Nat → Reader Unit
  | 0 => throw .unexpectedEnd
  | fuel + 1 => do
    match ← nextPair with
    | none => pure ()
    | some pair =>
      if pair.code == 0 then putBack pair
      else if pair.code == 100 || pair.code == 280 then readRecordData (← rounds)
      else if pair.code == 5 || pair.code == 330 || pair.code == 102 then
        applyItemPair [5, 330] pair
        readRecord fuel
      else readRecordData (← rounds)

/-- Reads one object: `false` at `0/ENDSEC`, which is put back. Objects of unknown types are
passed over. -/
def readObject : Nat → Reader Bool
  | 0 => throw .unexpectedEnd
  | fuel + 1 => do
    let pair ← requirePair
    if pair.code != 0 then throw (.unexpectedPair pair "expected 0/<object-type> or 0/ENDSEC")
    let name := pair.text
    if name == "ENDSEC" then
      putBack pair
      return false
    if name == "XRECORD" then
      readRecord (← rounds)
      return true
    else if objectTypes.contains name then
      readObjectPairs (selfReadObjects.contains name) (name == "SPATIAL_FILTER")
        (objectHandleCodes name) (← rounds) 0
      return true
    else
      skipEntityBody (← rounds)
      readObject fuel

/-- Reads objects until the end of the section, the first that cannot be read, or a stop. -/
def readObjectList : Nat → Reader Unit
  | 0 => pure ()
  | fuel + 1 => do
    match ← attempt (readObject (← rounds)) with
    | .ok true => readObjectList fuel
    | _ => pure ()

/-- Reads the objects section after its name. -/
def readObjects : Reader Unit := do
  readObjectList (← rounds)

end Toolpath.Dxf
