import Toolpath.Json.Reader
import Toolpath.Settings.Config
import Toolpath.Settings.Mismatch

/-!
# Configurations as JSON text

Reading decodes a configuration straight from the text, field by field, so every complaint names
the line and column where reading stood. A record is an object whose members set the fields
they name (a field named twice is a complaint, unknown members are read and dropped), or an
array of its fields in declaration order. Fields a record does not get keep their defaults,
except the two coordinates of a point, which are required.

A value of the wrong type is read in full before the complaint, so the complaint stands after
it; an array or object is not entered. A complaint that concerns a whole record (a field named
twice, a missing coordinate, a short array) is reported after the reader has looked for the
record's closing bracket and taken it if it was there.

Writing gives the pretty form: two spaces of indentation, the home position left out when
there is none, and no final line break.
-/

namespace Toolpath

open Toolpath.Number

/-- The binary64 value of a number. -/
def JsonNumber.toFloat : JsonNumber → Float
  | .natural value => floatOfDecimal false value 0
  | .negative value => floatOfDecimal true value.natAbs 0
  | .float value => value

namespace JsonReader

/-- Stops with a decoding complaint at the position after the characters read. -/
def mismatch (complaint : Mismatch) : JsonReader α :=
  failWith (complaint.message FloatStyle.json)

/-- How a number read from the text is described in a complaint. -/
def numberFound : JsonNumber → Found
  | .natural value => .unsigned value
  | .negative value => .signed value
  | .float value => .float value

/-- Reads the value at the cursor, which is not of the expected type, and complains about it.
Scalars are read in full; arrays and objects are described without being entered. -/
def refuse (expected : String) : JsonReader α := do
  match ← peek with
  | some 'n' => bump; expectWord "ull".toList; mismatch (.invalidType .unit expected)
  | some 't' => bump; expectWord "rue".toList; mismatch (.invalidType (.boolean true) expected)
  | some 'f' => bump; expectWord "alse".toList; mismatch (.invalidType (.boolean false) expected)
  | some '-' => bump; let found ← number false; mismatch (.invalidType (numberFound found) expected)
  | some '"' => bump; let found ← string; mismatch (.invalidType (.string found) expected)
  | some '[' => mismatch (.invalidType .sequence expected)
  | some '{' => mismatch (.invalidType .map expected)
  | some character =>
    if character.isDigit then do
      let found ← number true
      mismatch (.invalidType (numberFound found) expected)
    else failAhead .expectedSomeValue
  | none => failAhead .expectedSomeValue

/-- Reads a number field, or complains about the value found instead. -/
def numberField (expected : String) : JsonReader JsonNumber := do
  match ← skipBlank with
  | none => failAhead .eofWhileParsingValue
  | some '-' => bump; number false
  | some character => if character.isDigit then number true else refuse expected

/-- Reads a binary64 field: any number. -/
def floatField : JsonReader Float :=
  JsonNumber.toFloat <$> numberField "f64"

/-- Reads an unsigned 32-bit field: a whole number from `0` to `2 ^ 32 - 1`. -/
def unsignedField : JsonReader UInt32 := do
  match ← numberField "u32" with
  | .natural value =>
    if value ≤ maxUnsigned32 then return UInt32.ofNat value
    else mismatch (.invalidValue (.unsigned value) "u32")
  | .negative value => mismatch (.invalidValue (.signed value) "u32")
  | .float value => mismatch (.invalidType (.float value) "u32")

/-- Reads a yes-or-no field. -/
def booleanField : JsonReader Bool := do
  match ← skipBlank with
  | none => failAhead .eofWhileParsingValue
  | some 't' => bump; expectWord "rue".toList; return true
  | some 'f' => bump; expectWord "alse".toList; return false
  | some _ => refuse "a boolean"

/-- Reads a text field. -/
def textField (expected : String) : JsonReader String := do
  match ← skipBlank with
  | none => failAhead .eofWhileParsingValue
  | some '"' => bump; string
  | some _ => refuse expected

/-- The units a name stands for. -/
def unitsNamed (name : String) : JsonReader Units :=
  if name == "metric" then pure .metric
  else if name == "imperial" then pure .imperial
  else mismatch (.unknownVariant name ["metric", "imperial"])

/-- Reads the colon between a key and its value. -/
def colon : JsonReader Unit := do
  match ← skipBlank with
  | some ':' => bump
  | some _ => failAhead .expectedColon
  | none => failAhead .eofWhileParsingObject

/-- Reads the units: a name in quotes, or an object whose single key is the name and whose value
is `null`. -/
def unitsField : JsonReader Units := do
  match ← skipBlank with
  | some '"' => bump; unitsNamed (← string)
  | some '{' =>
    bump
    let units ← unitsNamed (← textField "variant identifier")
    colon
    match ← skipBlank with
    | none => failAhead .eofWhileParsingValue
    | some 'n' => bump; expectWord "ull".toList
    | some _ => refuse "unit"
    match ← skipBlank with
    | some '}' => bump; return units
    | some _ => fail .expectedSomeValue
    | none => fail .eofWhileParsingObject
  | some _ => failAhead .expectedSomeValue
  | none => failAhead .eofWhileParsingValue

/-- The shape of a record: what a complaint calls it, its field names in declaration order, how
each field is read into the record, and which fields have no default. -/
structure RecordShape (σ : Type) where
  expected : String
  fields : List String
  setField : σ → String → JsonReader σ
  required : Bool
  complete : σ → List String → Except Mismatch σ

/-- Reads the members of a record's object after its opening brace, up to the closing brace,
which is left unread; `seen` lists the fields set so far. A field named twice ends reading with
a complaint that has no position yet. -/
def recordMembers (shape : RecordShape σ) : Nat → σ → List String → Bool →
    JsonReader (Except Mismatch σ)
  | 0, _, _, _ => fail .eofWhileParsingObject
  | budget + 1, record, seen, first => do
    let start ← match ← skipBlank with
      | some '}' => pure none
      | some ',' =>
        if first then pure (some (some ','))
        else do bump; pure (some (← skipBlank))
      | some character =>
        if first then pure (some (some character)) else failAhead .expectedObjectCommaOrEnd
      | none => failAhead .eofWhileParsingObject
    match start with
    | none => return shape.complete record seen
    | some (some '"') =>
      bump
      let key ← string
      if shape.fields.contains key then
        if seen.contains key then return .error (.duplicateField key)
        colon
        let record ← shape.setField record key
        recordMembers shape budget record (key :: seen) false
      else
        colon
        skipValue
        recordMembers shape budget record seen false
    | some (some '}') => failAhead .trailingComma
    | some (some _) => failAhead .keyMustBeAString
    | some none => failAhead .eofWhileParsingValue

/-- Reads the start of the next element of a record's array: `true` when there is one, `false`
at the closing bracket, which is left unread. -/
def nextElement (first : Bool) : JsonReader Bool := do
  let start ← match ← skipBlank with
    | some ']' => pure none
    | some ',' =>
      if first then pure (some (some ','))
      else do bump; pure (some (← skipBlank))
    | some character =>
      if first then pure (some (some character)) else failAhead .expectedListCommaOrEnd
    | none => failAhead .eofWhileParsingList
  match start with
  | none => return false
  | some (some ']') => failAhead .trailingComma
  | some (some _) => return true
  | some none => failAhead .eofWhileParsingValue

/-- Reads a record's fields from the elements of its array, in declaration order; `index`
counts the fields already taken. A required field without an element is a complaint that has
no position yet. -/
def recordElements (shape : RecordShape σ) : List String → Nat → σ → Bool →
    JsonReader (Except Mismatch σ)
  | [], _, record, _ => return .ok record
  | field :: rest, index, record, first => do
    if ← nextElement first then
      let record ← shape.setField record field
      recordElements shape rest (index + 1) record false
    else if shape.required then
      return .error (.invalidLength index
        (shape.expected ++ " with " ++ natText shape.fields.length ++ " elements"))
    else recordElements shape rest (index + 1) record first

/-- Reads a record: an object or an array. A complaint without a position gets the position
after the closing bracket, which is looked for (and taken if present) first. -/
def record (shape : RecordShape σ) (initial : σ) : JsonReader σ := do
  match ← skipBlank with
  | none => failAhead .eofWhileParsingValue
  | some '{' =>
    bump
    let result ← recordMembers shape ((← get).rest.length + 1) initial [] true
    match result with
    | .ok value =>
      match ← skipBlank with
      | some '}' => bump; return value
      | some ',' => failAhead .trailingComma
      | some _ => failAhead .trailingCharacters
      | none => failAhead .eofWhileParsingObject
    | .error complaint =>
      if (← skipBlank) == some '}' then bump
      mismatch complaint
  | some '[' =>
    bump
    let result ← recordElements shape shape.fields 0 initial true
    match result with
    | .ok value =>
      match ← skipBlank with
      | some ']' => bump; return value
      | some ',' =>
        bump
        if (← skipBlank) == some ']' then failAhead .trailingComma
        else failAhead .trailingCharacters
      | some _ => failAhead .trailingCharacters
      | none => failAhead .eofWhileParsingList
    | .error complaint =>
      match ← skipBlank with
      | some ']' => bump
      | some ',' => do bump; discard skipBlank
      | _ => pure ()
      mismatch complaint
  | some _ => refuse shape.expected

/-- A point: both coordinates are required. -/
def pointShape : RecordShape (Option Float × Option Float) where
  expected := "struct Point"
  fields := ["x", "y"]
  setField := fun (x, y) key => do
    if key == "x" then return (some (← floatField), y) else return (x, some (← floatField))
  required := true
  complete := fun (x, y) _ =>
    match x, y with
    | some _, some _ => .ok (x, y)
    | none, _ => .error (.missingField "x")
    | _, none => .error (.missingField "y")

/-- Reads a point. -/
def pointField : JsonReader Point := do
  let (x, y) ← record pointShape (none, none)
  return ⟨x.getD 0.0, y.getD 0.0⟩

/-- Reads an optional point: `null` for none. -/
def homeField : JsonReader (Option Point) := do
  if (← skipBlank) == some 'n' then
    bump
    expectWord "ull".toList
    return none
  else some <$> pointField

/-- The machine record. -/
def machineShape : RecordShape Machine where
  expected := "struct MachineSettings"
  fields := ["xy_feedrate", "spindle_on", "spindle_off", "start_delay_ms", "stop_delay_ms"]
  setField := fun machine key => do
    if key == "xy_feedrate" then return { machine with feedrate := ← floatField }
    else if key == "spindle_on" then return { machine with toolOn := ← textField "a string" }
    else if key == "spindle_off" then return { machine with toolOff := ← textField "a string" }
    else if key == "start_delay_ms" then return { machine with onDelay := ← unsignedField }
    else return { machine with offDelay := ← unsignedField }
  required := false
  complete := fun machine _ => .ok machine

/-- The output options record. -/
def outputShape : RecordShape OutputOptions where
  expected := "struct OutputSettings"
  fields := ["units", "optimize_order", "skip_unsupported", "home"]
  setField := fun output key => do
    if key == "units" then return { output with units := ← unitsField }
    else if key == "optimize_order" then return { output with optimizeOrder := ← booleanField }
    else if key == "skip_unsupported" then return { output with skipUnsupported := ← booleanField }
    else return { output with home := ← homeField }
  required := false
  complete := fun output _ => .ok output

/-- The configuration record. -/
def configShape : RecordShape Config where
  expected := "struct Config"
  fields := ["machine", "output"]
  setField := fun config key => do
    if key == "machine" then return { config with machine := ← record machineShape {} }
    else return { config with output := ← record outputShape {} }
  required := false
  complete := fun config _ => .ok config

end JsonReader

/-- Reads a configuration from JSON text, rounding its decimal numbers as `rounding` says; only
blanks may follow it. -/
def Config.readJson (rounding : DecimalRounding) (text : String) : Except JsonError Config :=
  (do
    let config ← JsonReader.record JsonReader.configShape {}
    JsonReader.finish
    return config).run' (Cursor.start text rounding)

/-- A configuration as a JSON value, fields in declaration order, the home position left out
when there is none. -/
def Config.toJson (config : Config) : Json :=
  .object [
    ("machine", .object [
      ("xy_feedrate", .number (.float config.machine.feedrate)),
      ("spindle_on", .string config.machine.toolOn),
      ("spindle_off", .string config.machine.toolOff),
      ("start_delay_ms", .number (.natural config.machine.onDelay.toNat)),
      ("stop_delay_ms", .number (.natural config.machine.offDelay.toNat))]),
    ("output", .object ([
      ("units", .string config.output.units.keyword),
      ("optimize_order", .bool config.output.optimizeOrder),
      ("skip_unsupported", .bool config.output.skipUnsupported)] ++
      match config.output.home with
      | some home => [("home", .object [("x", .number (.float home.x)), ("y", .number (.float home.y))])]
      | none => []))]

/-- The pretty JSON text of a configuration. -/
def Config.writeJson (config : Config) : String :=
  config.toJson.pretty

end Toolpath
