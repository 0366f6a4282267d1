import Toolpath.Dxf.Table
import Toolpath.Drawing.Basic

/-!
# Entities

An entity is `0/<type>` followed by the pairs that set its fields, up to the next `0` pair. The
fields kept are those the importer reads (points, radii, angles, ellipse parameters, polyline
vertices and flags); pairs every entity shares are read as in table entries: handles are checked
and groups and extended data read.

A list of entities (of the entities section or of a block) ends at `0/ENDSEC` or `0/ENDBLK`,
which is left in place, and also, without a complaint, at the first entity that cannot be read
and at a stop of the pairs: the reader then stands after the pairs that entity used. Pairs
before the `0` pair of an entity are passed over. An entity of a type no reader knows is passed
over, and so is a dimension whose kind no subclass marker names. Most entities need their pairs
to run up to a `0` pair; the few that read their pairs in their own way (light-weight
polylines, attributes, attribute definitions, multi-line text) are complete at a stop as well.
An attribute or attribute definition takes a multi-line text entity right after it.

A polyline takes the vertex entities read after it, and an insertion whose flag (code 66, set by
the value 1 only) says attributes follow takes the attributes read after it; either stops at a
sequence end, which it takes, at another entity, which is the next of the list, or at an entity
that cannot be read or the end of the list, after which the list goes on.
-/

namespace Toolpath.Dxf

/-- The handle codes every entity shares. -/
def commonHandleCodes : List Int := [5, 330, 347, 390]

/-- The handle codes of an entity of the given type: those every entity shares and its own. -/
def entityHandleCodes (name : String) : List Int :=
  if ["MLINE", "LEADER", "DGNUNDERLAY", "DWFUNDERLAY", "PDFUNDERLAY"].contains name then
    commonHandleCodes ++ [340]
  else if name == "IMAGE" || name == "WIPEOUT" then commonHandleCodes ++ [340, 360]
  else if name == "3DSOLID" then commonHandleCodes ++ [350]
  else commonHandleCodes

/-- Type names of entities that are read but not converted. -/
def otherEntityTypes : List String :=
  ["3DFACE", "3DSOLID", "ACAD_PROXY_ENTITY", "ARCALIGNEDTEXT", "ATTDEF", "ATTRIB", "BODY",
   "HELIX", "IMAGE", "LEADER", "LIGHT", "MLINE", "MTEXT", "OLEFRAME", "OLE2FRAME",
   "POINT", "RAY", "REGION", "RTEXT", "SECTION", "SEQEND", "SHAPE", "SOLID", "SPLINE", "TEXT",
   "TOLERANCE", "TRACE", "DGNUNDERLAY", "DWFUNDERLAY", "PDFUNDERLAY", "VIEWPORT", "WIPEOUT",
   "XLINE"]

/-- Types of entities that read their pairs in their own way and are complete at a stop. -/
def selfReadTypes : List String :=
  ["LWPOLYLINE", "ATTRIB", "ATTDEF", "MTEXT"]

/-- Subclass markers that name the kind of a dimension. -/
def dimensionKinds : List String :=
  ["AcDbAlignedDimension", "AcDbRadialDimension", "AcDbDiametricDimension",
   "AcDb3PointAngularDimension", "AcDbOrdinateDimension"]

/-- A fresh entity of a type name with every field at its default, `none` for a type no reader
knows. The vertices of a light-weight polyline are kept last-first while it is read. -/
def startEntity (name : String) : Option DrawingEntity :=
  if name == "LINE" || name == "3DLINE" then some (.line Point.origin Point.origin)
  else if name == "CIRCLE" then some (.circle Point.origin 0.0)
  else if name == "ARC" then some (.arc Point.origin 0.0 0.0 360.0)
  else if name == "ELLIPSE" then
    some (.ellipse Point.origin ⟨1.0, 0.0⟩ 1.0 0.0 6.283185307179586)
  else if name == "LWPOLYLINE" then some (.lightPolyline [] 0)
  else if name == "POLYLINE" then some (.polyline [] 0)
  else if name == "VERTEX" then some (.vertex Point.origin)
  else if name == "INSERT" then some (.insertion false)
  else if otherEntityTypes.contains name then some (.other name)
  else none

/-- Sets the field of an entity that a pair names; `none` when the pair names none of the fields
kept. -/
def setField (entity : DrawingEntity) (pair : Pair) : Option (Except DxfFault DrawingEntity) :=
  let value := pair.real
  match entity, pair.code with
  | .line first second, 10 => some (.ok (.line { first with x := value } second))
  | .line first second, 20 => some (.ok (.line { first with y := value } second))
  | .line first second, 11 => some (.ok (.line first { second with x := value }))
  | .line first second, 21 => some (.ok (.line first { second with y := value }))
  | .circle center radius, 10 => some (.ok (.circle { center with x := value } radius))
  | .circle center radius, 20 => some (.ok (.circle { center with y := value } radius))
  | .circle center _, 40 => some (.ok (.circle center value))
  | .arc center radius start finish, 10 =>
    some (.ok (.arc { center with x := value } radius start finish))
  | .arc center radius start finish, 20 =>
    some (.ok (.arc { center with y := value } radius start finish))
  | .arc center _ start finish, 40 => some (.ok (.arc center value start finish))
  | .arc center radius _ finish, 50 => some (.ok (.arc center radius value finish))
  | .arc center radius start _, 51 => some (.ok (.arc center radius start value))
  | .ellipse center major ratio start finish, 10 =>
    some (.ok (.ellipse { center with x := value } major ratio start finish))
  | .ellipse center major ratio start finish, 20 =>
    some (.ok (.ellipse { center with y := value } major ratio start finish))
  | .ellipse center major ratio start finish, 11 =>
    some (.ok (.ellipse center { major with x := value } ratio start finish))
  | .ellipse center major ratio start finish, 21 =>
    some (.ok (.ellipse center { major with y := value } ratio start finish))
  | .ellipse center major _ start finish, 40 =>
    some (.ok (.ellipse center major value start finish))
  | .ellipse center major ratio _ finish, 41 =>
    some (.ok (.ellipse center major ratio value finish))
  | .ellipse center major ratio start _, 42 => some (.ok (.ellipse center major ratio start value))
  | .lightPolyline vertices flags, 10 =>
    some (.ok (.lightPolyline (⟨value, 0.0⟩ :: vertices) flags))
  | .lightPolyline vertices flags, 20 =>
    match vertices with
    | [] => some (.error .emptySet)
    | last :: earlier => some (.ok (.lightPolyline ({ last with y := value } :: earlier) flags))
  | .lightPolyline vertices flags, code =>
    if code == 40 || code == 41 || code == 42 || code == 91 then
      some (if vertices.isEmpty then .error .emptySet else .ok (.lightPolyline vertices flags))
    else if code == 70 then some (.ok (.lightPolyline vertices pair.short))
    else none
  | .polyline vertices _, 70 => some (.ok (.polyline vertices pair.short))
  | .vertex location, 10 => some (.ok (.vertex { location with x := value }))
  | .vertex location, 20 => some (.ok (.vertex { location with y := value }))
  | .insertion _, 66 => some (.ok (.insertion (pair.short == 1)))
  | _, _ => none

/-- Applies one pair to an entity: its own field, else a pair every entity shares, with the
given handle codes. -/
def applyEntityPair (handleCodes : List Int) (entity : DrawingEntity) (pair : Pair) :
    Reader DrawingEntity := do
  match setField entity pair with
  | some result => liftExcept result
  | none =>
    applyItemPair handleCodes pair
    return entity

/-- Reads the pairs of an entity up to the next `0` pair, which is put back. With `selfRead` a
stop completes the entity; otherwise it is a fault. -/
def readEntityBody (selfRead : Bool) (handleCodes : List Int) :
    Nat → DrawingEntity → Reader DrawingEntity
  | 0, _ => throw .unexpectedEnd
  | fuel + 1, entity => do
    match ← nextPair with
    | none => if selfRead then return entity else throw .unexpectedEnd
    | some pair =>
      if pair.code == 0 then
        putBack pair
        return entity
      else readEntityBody selfRead handleCodes fuel (← applyEntityPair handleCodes entity pair)

/-- Reads the pairs of an attribute or attribute definition up to the next `0` pair, which is
put back, or a stop. After the subclass marker `AcDbXrecord` code 70 may stand three times only
(`flags` counts them); code 340 holds handles. -/
def readAttributeBody : Nat → Bool → Nat → Reader Unit
  | 0, _, _ => throw .unexpectedEnd
  | fuel + 1, inRecord, flags => do
    match ← nextPair with
    | none => pure ()
    | some pair =>
      if pair.code == 0 then putBack pair
      else if pair.code == 100 then readAttributeBody fuel (pair.text == "AcDbXrecord") flags
      else if pair.code == 70 && inRecord then
        if 3 ≤ flags then throw (.unexpectedPair pair "")
        else readAttributeBody fuel inRecord (flags + 1)
      else
        applyItemPair (commonHandleCodes ++ [340]) pair
        readAttributeBody fuel inRecord flags

/-- Reads a multi-line text entity right after an attribute, if the next pair starts one. -/
def readAttachedText : Reader Unit := do
  match ← nextPair with
  | none => pure ()
  | some pair =>
    if pair.marks "MTEXT" then
      discard (readEntityBody true commonHandleCodes (← rounds) (.other "MTEXT"))
    else putBack pair

/-- Passes over the pairs of an entity of an unknown type up to the next `0` pair, which is put
back. -/
def skipEntityBody : Nat → Reader Unit
  | 0 => throw .unexpectedEnd
  | fuel + 1 => do
    let pair ← requirePair
    if pair.code == 0 then putBack pair else skipEntityBody fuel

/-- Reads the pairs of a dimension up to the next `0` pair, which is put back; whether a subclass
marker named its kind. -/
def readDimensionBody : Nat → Bool → Reader Bool
  | 0, _ => throw .unexpectedEnd
  | fuel + 1, named => do
    let pair ← requirePair
    if pair.code == 0 then
      putBack pair
      return named
    else if !named && pair.code == 100 then
      readDimensionBody fuel (dimensionKinds.contains pair.text)
    else
      applyItemPair commonHandleCodes pair
      readDimensionBody fuel named

/-- The polyline form of an entity when it is complete: light-weight polyline vertices back in
file order. -/
def finishEntity : DrawingEntity → DrawingEntity
  | .lightPolyline vertices flags => .lightPolyline vertices.reverse flags
  | entity => entity

/-- Reads one entity: `none` at `0/ENDSEC` or `0/ENDBLK`, which is put back. Pairs before the
entity's `0` pair, entities of unknown types and dimensions of unnamed kinds are passed over. -/
def readEntity : Nat → Reader (Option DrawingEntity)
  | 0 => throw .unexpectedEnd
  | fuel + 1 => do
    let pair ← requirePair
    if pair.code != 0 then readEntity fuel else
    let name := pair.text
    if name == "ENDSEC" || name == "ENDBLK" then
      putBack pair
      return none
    if name == "DIMENSION" then
      if ← readDimensionBody (← rounds) false then return some (.other "DIMENSION")
      else readEntity fuel
    else if name == "ATTRIB" || name == "ATTDEF" then
      readAttributeBody (← rounds) false 0
      readAttachedText
      return some (.other name)
    else
      match startEntity name with
      | some entity =>
        let read ←
          readEntityBody (selfReadTypes.contains name) (entityHandleCodes name) (← rounds) entity
        return some (finishEntity read)
      | none =>
        skipEntityBody (← rounds)
        readEntity fuel

/-- Reads the entities that belong to a polyline or an insertion, those for which `member`
holds, `found` holding those read so far, last first. They end at a sequence end, which is
taken; at another entity, which is given back; or at an entity that cannot be read or the end
of the list. -/
def readMembers (member : DrawingEntity → Bool) :
    Nat → List DrawingEntity → Reader (List DrawingEntity × Option DrawingEntity)
  | 0, found => return (found.reverse, none)
  | fuel + 1, found => do
    match ← attempt (readEntity (← rounds)) with
    | .ok (some entity) =>
      if member entity then readMembers member fuel (entity :: found)
      else if entity.isNamed "SEQEND" then return (found.reverse, none)
      else return (found.reverse, some entity)
    | _ => return (found.reverse, none)

/-- Reads entities until the end of the section or block, the first that cannot be read, or a
stop, with the entity given back by the members of the last one, if any; `found` holds those
read so far, last first. A polyline takes its vertices, and an insertion its attributes. -/
def readEntityList : Nat → Option DrawingEntity → List DrawingEntity →
    Reader (List DrawingEntity)
  | 0, _, found => return found.reverse
  | fuel + 1, pending, found => do
    let next ← match pending with
      | some entity => pure (.ok (some entity))
      | none => attempt (readEntity (← rounds))
    match next with
    | .ok (some (.polyline _ flags)) =>
      let (vertices, after) ← readMembers DrawingEntity.isVertex (← rounds) []
      readEntityList fuel after (.polyline (vertices.map DrawingEntity.location) flags :: found)
    | .ok (some (.insertion true)) =>
      let (_, after) ← readMembers (fun entity => entity.isNamed "ATTRIB") (← rounds) []
      readEntityList fuel after (.insertion true :: found)
    | .ok (some entity) => readEntityList fuel none (entity :: found)
    | _ => return found.reverse

/-- Reads the entities of a section or block. -/
def readEntities : Reader (List DrawingEntity) := do
  readEntityList (2 * (← rounds)) none []

end Toolpath.Dxf
