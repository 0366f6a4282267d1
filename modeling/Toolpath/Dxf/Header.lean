import Toolpath.Dxf.Source

/-!
# Header variables

The header section is a list of variables, each `9/$NAME` followed by the pairs of its value.
Every known variable takes its value under fixed codes: most under one code, a few under one of
several, points and directions under `10`, `20` and `30`. A value pair under another code is a
fault that names the code or the codes expected; variables this library does not know take any
pairs. Handles must be hexadecimal.

The version variable `$ACADVER` matters beyond its own value: from version `AC1021` on, text in
the file is UTF-8, and the reading of the lines after it switches to UTF-8.
-/

namespace Toolpath.Dxf

/-- How a header variable takes its value. -/
inductive VariableShape where
  /-- One pair under this code. -/
  | single (code : Int)
  /-- A handle under this code. -/
  | handle (code : Int)
  /-- A pair under one of these codes. -/
  | oneOf (codes : List Int)
  /-- A point: pairs under `10`, `20` and `30`. -/
  | point
  /-- A direction: pairs under `10`, `20` and `30`. -/
  | vector
  deriving Inhabited

/-- Variables whose value is one real under code 40. -/
def realVariables : List String :=
  ["$LTSCALE", "$TEXTSIZE", "$TRACEWID", "$CELTSCALE", "$DIMSCALE", "$DIMASZ", "$DIMEXO", "$DIMDLI",
   "$DIMEXE", "$DIMRND", "$DIMDLE", "$DIMTP", "$DIMTM", "$DIMTXT", "$DIMCEN", "$DIMTSZ", "$DIMALTF",
   "$DIMLFAC", "$DIMTVP", "$DIMTFAC", "$DIMGAP", "$DIMALTRND", "$DIMFXL", "$DIMJOGANG",
   "$SKETCHINC", "$FILLETRAD", "$ELEVATION", "$PELEVATION", "$THICKNESS", "$CHAMFERA", "$CHAMFERB",
   "$CHAMFERC", "$CHAMFERD", "$TDCREATE", "$TDUCREATE", "$TDUPDATE", "$TDUUPDATE", "$TDINDWG",
   "$TDUSRTIMER", "$PDSIZE", "$PLINEWID", "$USERR1", "$USERR2", "$USERR3", "$USERR4", "$USERR5",
   "$CMLSCALE", "$PSVPSCALE", "$LENSLENGTH", "$CAMERAHEIGHT", "$STEPSPERSEC", "$STEPSIZE",
   "$3DDWFPREC", "$PSOLWIDTH", "$PSOLHEIGHT", "$LOFTANG1", "$LOFTANG2", "$LOFTMAG1", "$LOFTMAG2",
   "$LATITUDE", "$LONGITUDE", "$NORTHDIRECTION", "$SHADOWPLANELOCATION", "$VIEWSIZE"]

/-- Variables whose value is one short under code 70. -/
def shortVariables : List String :=
  ["$ORTHOMODE", "$REGENMODE", "$FILLMODE", "$QTEXTMODE", "$MIRRTEXT", "$DRAGMODE", "$OSMODE",
   "$ATTMODE", "$DISPSILH", "$DIMTOL", "$DIMLIM", "$DIMTIH", "$DIMTOH", "$DIMSE1", "$DIMSE2",
   "$DIMTAD", "$DIMZIN", "$DIMASO", "$DIMSHO", "$DIMALT", "$DIMALTD", "$DIMTOFL", "$DIMTIX",
   "$DIMSOXD", "$DIMSAH", "$DIMCLRD", "$DIMCLRE", "$DIMCLRT", "$DIMJUST", "$DIMTOLJ", "$DIMTZIN",
   "$DIMALTZ", "$DIMALTTZ", "$DIMFIT", "$DIMUPT", "$DIMDEC", "$DIMTDEC", "$DIMALTU", "$DIMALTTD",
   "$DIMAUNIT", "$DIMADEC", "$DIMAZIN", "$DIMDSEP", "$DIMFRAC", "$DIMLUNIT", "$DIMLWD", "$DIMLWE",
   "$DIMTMOVE", "$DIMFXLON", "$DIMTFILL", "$DIMTFILLCLR", "$DIMARCSYM", "$DIMTXTDIRECTION",
   "$DIMUNIT", "$LUNITS", "$LUPREC", "$AUNITS", "$AUPREC", "$LIMCHECK", "$SKPOLY", "$USRTIMER",
   "$ANGDIR", "$PDMODE", "$SPLFRAME", "$SPLINETYPE", "$SPLINESEGS", "$SURFTAB1", "$SURFTAB2",
   "$SURFTYPE", "$SURFU", "$SURFV", "$UCSORTHOVIEW", "$PUCSORTHOVIEW", "$USERI1", "$USERI2",
   "$USERI3", "$USERI4", "$USERI5", "$WORLDVIEW", "$SHADEDGE", "$SHADEDIF", "$TILEMODE",
   "$MAXACTVP", "$PLIMCHECK", "$UNITMODE", "$VISRETAIN", "$PLINEGEN", "$PSLTSCALE", "$TREEDEPTH",
   "$CMLJUST", "$PROXYGRAPHICS", "$MEASUREMENT", "$INSUNITS", "$OBSCOLOR", "$INTERSECTIONCOLOR",
   "$LOFTPARAM", "$TIMEZONE", "$SNAPMODE", "$SNAPSTYLE", "$SNAPISOPAIR", "$GRIDMODE", "$AXISMODE",
   "$FASTZOOM", "$BLIPMODE", "$COORDS", "$ATTDIA", "$ATTREQ", "$HANDLING", "$DELOBJ", "$PICKSTYLE"]

/-- Variables whose value is one short under code 280. -/
def choiceVariables : List String :=
  ["$ENDCAPS", "$JOINSTYLE", "$SORTENTS", "$INDEXCTL", "$HALOGAP", "$OBSLTYPE", "$DIMASSOC",
   "$LOFTNORMALS", "$LIGHTGLYPHDISPLAY", "$TILEMODELIGHTSYNCH", "$SOLIDHIST", "$SHOWHIST",
   "$DWFFRAME", "$DGNFRAME", "$CSHADOW"]

/-- Variables whose value is one flag under code 290. -/
def flagVariables : List String :=
  ["$LWDISPLAY", "$XEDIT", "$PSTYLEMODE", "$EXTNAMES", "$OLESTARTUP", "$CAMERADISPLAY",
   "$REALWORLDSCALE"]

/-- Variables whose value is a point. -/
def pointVariables : List String :=
  ["$INSBASE", "$EXTMIN", "$EXTMAX", "$LIMMIN", "$LIMMAX", "$UCSORG", "$PUCSORG", "$PINSBASE",
   "$PEXTMIN", "$PEXTMAX", "$PLIMMIN", "$PLIMMAX", "$UCSORGTOP", "$UCSORGBOTTOM", "$UCSORGLEFT",
   "$UCSORGRIGHT", "$UCSORGFRONT", "$UCSORGBACK", "$PUCSORGTOP", "$PUCSORGBOTTOM",
   "$PUCSORGLEFT", "$PUCSORGRIGHT", "$PUCSORGFRONT", "$PUCSORGBACK", "$VIEWCTR", "$SNAPBASE",
   "$SNAPUNIT", "$GRIDUNIT", "$AXISUNIT"]

/-- Variables whose value is a direction. -/
def vectorVariables : List String :=
  ["$UCSXDIR", "$UCSYDIR", "$PUCSXDIR", "$PUCSYDIR", "$VIEWDIR"]

/-- Variables whose value is text, with the code it stands under. -/
def textVariables : List (String × Int) :=
  [("$ACADVER", 1), ("$LASTSAVEDBY", 1), ("$MENU", 1), ("$DIMBLK", 1), ("$DIMBLK1", 1),
   ("$DIMBLK2", 1), ("$DIMPOST", 1), ("$DIMAPOST", 1), ("$DIMLDRBLK", 1), ("$HYPERLINKBASE", 1),
   ("$STYLESHEET", 1), ("$PROJECTNAME", 1), ("$DIMSTYLE", 2), ("$UCSBASE", 2), ("$UCSNAME", 2),
   ("$UCSORTHOREF", 2), ("$PUCSBASE", 2), ("$PUCSNAME", 2), ("$PUCSORTHOREF", 2),
   ("$FINGERPRINTGUID", 2), ("$VERSIONGUID", 2), ("$DWGCODEPAGE", 3), ("$CELTYPE", 6),
   ("$DIMLTYPE", 6), ("$DIMLTEX1", 6), ("$DIMLTEX2", 6), ("$TEXTSTYLE", 7), ("$DIMTXSTY", 7),
   ("$CLAYER", 8)]

/-- Variables whose value is a handle, with the code it stands under. -/
def handleVariables : List (String × Int) :=
  [("$HANDSEED", 5), ("$INTERFEREOBJVS", 345), ("$INTERFEREVPVS", 346), ("$CMATERIAL", 347),
   ("$DRAGVS", 349), ("$CEPSNID", 390)]

/-- Variables under other single codes. -/
def otherVariables : List (String × Int) :=
  [("$ANGBASE", 50), ("$SNAPANG", 50), ("$CECOLOR", 62), ("$INTERFERECOLOR", 62),
   ("$REQUIREDVERSIONS", 160), ("$CELWEIGHT", 370), ("$CEPSNTYPE", 380)]

/-- Variables that take their value under one of several codes, as different versions write
it, with the codes in the order a complaint names them. -/
def choiceCodes : List (String × List Int) :=
  [("$ACADMAINTVER", [70, 90]), ("$DIMSD1", [70, 290]), ("$DIMSD2", [70, 290]),
   ("$DIMATFIT", [70, 280]), ("$CMLSTYLE", [2, 7]), ("$HIDETEXT", [280, 290]),
   ("$XCLIPFRAME", [290, 280]), ("$INTERSECTIONDISPLAY", [280, 290])]

/-- How a header variable takes its value; `none` for a variable this library does not know. -/
def VariableShape.ofName (name : String) : Option VariableShape :=
  match choiceCodes.lookup name with
  | some codes => some (.oneOf codes)
  | none =>
    if pointVariables.contains name then some .point
    else if vectorVariables.contains name then some .vector
    else if realVariables.contains name then some (.single 40)
    else if shortVariables.contains name then some (.single 70)
    else if choiceVariables.contains name then some (.single 280)
    else if flagVariables.contains name then some (.single 290)
    else
      match handleVariables.lookup name with
      | some code => some (.handle code)
      | none =>
        match (textVariables ++ otherVariables).lookup name with
        | some code => some (.single code)
        | none => none

/-- The list of codes a complaint names: `[70, 90]`. -/
def codeList (codes : List Int) : String :=
  "[" ++ ", ".intercalate (codes.map intText) ++ "]"

/-- Checks one value pair of a variable of the given shape. -/
def VariableShape.check (shape : VariableShape) (pair : Pair) : Except DxfFault Unit :=
  let coordinate := pair.code == 10 || pair.code == 20 || pair.code == 30
  match shape with
  | .single code =>
    if pair.code == code then .ok () else .error (.unexpectedCode pair.code pair.offset)
  | .handle code =>
    if pair.code == code then pair.handle else .error (.unexpectedCode pair.code pair.offset)
  | .oneOf codes =>
    if codes.contains pair.code then .ok ()
    else .error (.unexpectedPair pair ("expected code " ++ codeList codes))
  | .point =>
    if coordinate then .ok ()
    else .error (.unexpectedPair pair "expected code [10, 20, 30] for point")
  | .vector =>
    if coordinate then .ok ()
    else .error (.unexpectedPair pair "expected code [10, 20, 30] for vector")

/-- The versions whose text is UTF-8. -/
def utf8Versions : List String :=
  ["AC1021", "AC1024", "AC1027", "AC1032"]

/-- Reads the value pairs of a variable up to the next variable or the end of the section, which
is put back. -/
def readVariableValues (name : String) : Nat → Reader Unit
  | 0 => throw .unexpectedEnd
  | fuel + 1 => do
    match ← nextPair with
    | none => pure ()
    | some pair =>
      if pair.code == 0 || pair.code == 9 then putBack pair
      else
        match VariableShape.ofName name with
        | some shape => liftExcept (shape.check pair)
        | none => pure ()
        if name == "$ACADVER" && utf8Versions.contains pair.text then readTextAsUtf8
        readVariableValues name fuel

/-- Reads header variables up to the end of the section, which is put back. A value before the
first variable name is a fault. -/
def readHeaderVariables : Nat → Reader Unit
  | 0 => throw .unexpectedEnd
  | fuel + 1 => do
    match ← nextPair with
    | none => pure ()
    | some pair =>
      if pair.code == 0 then putBack pair
      else if pair.code == 9 then
        readVariableValues pair.text (← rounds)
        readHeaderVariables fuel
      else throw (.unexpectedPair pair "")

/-- Reads the header section after its name. -/
def readHeader : Reader Unit := do
  readHeaderVariables (← rounds)

end Toolpath.Dxf
