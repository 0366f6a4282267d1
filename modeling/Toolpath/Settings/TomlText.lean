import Toolpath.Toml.Read
import Toolpath.Settings.Config
import Toolpath.Settings.Mismatch

/-!
# Configurations as TOML text

Reading first reads the whole document, so a syntax error anywhere comes first; then the
configuration is decoded from the document's root table in the order of its keys. Tables, inline
tables and dates decode as records (a date is a record with one private key), arrays and arrays
of tables as sequences of fields in declaration order, where extra elements are ignored.
Integers are accepted for floats. Unknown keys are ignored.

A decoding complaint marks the innermost value or table it concerns that has a place in the
text, or else the key it sits under: a table that only dotted keys made has no place of its own.

Writing gives the pretty form: the `[machine]` and `[output]` tables with every field, and an
`[output.home]` table when there is a home position. A text is written as a literal string
(between apostrophes) when it holds a quote or a backslash and can be written so, and as a basic
string with escapes otherwise; a text with a line break is written over several lines.
-/

namespace Toolpath

open Toolpath.Number
open Toolpath.Toml

namespace TomlDecode

/-- A decoding complaint and the stretch of text it concerns, when known. -/
structure Complaint where
  message : String
  span : Option Span := none
  deriving Inhabited

/-- A complaint about a mismatch, not placed yet. -/
def complain (mismatch : Mismatch) : Except Complaint α :=
  .error { message := mismatch.message FloatStyle.pointed }

/-- Places an unplaced complaint at a stretch. -/
def placed (span : Option Span) : Except Complaint α → Except Complaint α
  | .error complaint => .error (if complaint.span.isNone then { complaint with span } else complaint)
  | .ok value => .ok value

/-- What the decoder looks at: an item of a table, or a value inside an array or inline table. -/
inductive Node where
  | item (item : Item)
  | value (value : Value)
  deriving Inhabited

/-- Where a node stands. -/
def Node.span? : Node → Option Span
  | .item held => held.span?
  | .value held => held.span?

/-- The key under which a date is seen as a record. -/
def dateKey : String := "$__toml_private_datetime"

/-- A node as a record: its entries, when it is a table, an inline table or a date. -/
def Node.entries? : Node → Option (List (Key × Node))
  | .item (.table table) => some (table.entries.map fun (key, held) => (key, .item held))
  | .item (.value held) => Node.entries? (.value held)
  | .item (.tables _) => none
  | .value (.inlineTable entries _ _) => some (entries.map fun (key, held) => (key, .value held))
  | .value (.datetime text span) =>
    some [({ name := dateKey, raw := dateKey, span := span }, .value (.string text span))]
  | .value _ => none

/-- A node as a sequence: its elements, when it is an array or an array of tables. -/
def Node.elements? : Node → Option (List Node)
  | .item (.tables tables) => some (tables.map fun table => .item (.table table))
  | .item (.value (.array items _)) => some (items.map Node.value)
  | .value (.array items _) => some (items.map Node.value)
  | _ => none

/-- How a node is described in a complaint. -/
def Node.found : Node → Found
  | .item (.value held) => Node.found (.value held)
  | .item (.table _) => .map
  | .item (.tables _) => .sequence
  | .value (.string text _) => .string text
  | .value (.integer number _) => .signed number
  | .value (.float number _) => .float number
  | .value (.boolean flag _) => .boolean flag
  | .value (.datetime ..) => .map
  | .value (.array ..) => .sequence
  | .value (.inlineTable ..) => .map

/-- The scalar value of a node, if it is one. -/
def Node.scalar? : Node → Option Value
  | .item (.value held) => Node.scalar? (.value held)
  | .value (.array ..) | .value (.inlineTable ..) => none
  | .value held => some held
  | .item _ => none

/-- A float field: a float or an integer. -/
def float (node : Node) : Except Complaint Float :=
  placed node.span? <|
    match node.scalar? with
    | some (.float value _) => .ok value
    | some (.integer value _) => .ok (floatOfDecimal (value < 0) value.natAbs 0)
    | _ => complain (.invalidType node.found "f64")

/-- An unsigned 32-bit field. -/
def unsigned32 (node : Node) : Except Complaint UInt32 :=
  placed node.span? <|
    match node.scalar? with
    | some (.integer value _) =>
      if 0 ≤ value && value ≤ maxUnsigned32 then .ok (UInt32.ofNat value.toNat)
      else complain (.invalidValue (.signed value) "u32")
    | _ => complain (.invalidType node.found "u32")

/-- A text field. -/
def text (node : Node) : Except Complaint String :=
  placed node.span? <|
    match node.scalar? with
    | some (.string value _) => .ok value
    | _ => complain (.invalidType node.found "a string")

/-- A yes-or-no field. -/
def boolean (node : Node) : Except Complaint Bool :=
  placed node.span? <|
    match node.scalar? with
    | some (.boolean value _) => .ok value
    | _ => complain (.invalidType node.found "a boolean")

/-- The units a name stands for. -/
def unitsNamed (name : String) : Except Complaint Units :=
  if name == "metric" then .ok .metric
  else if name == "imperial" then .ok .imperial
  else complain (.unknownVariant name ["metric", "imperial"])

/-- The value of a one-entry table naming the units must be empty. A non-empty array of tables is
refused as an array, any other non-empty array or table as a table. -/
def emptyVariant (node : Node) : Except Complaint Unit :=
  let fault (message : String) : Except Complaint Unit := .error { message, span := node.span? }
  match node with
  | .item (.table table) => if table.entries.isEmpty then .ok () else fault "expected empty table"
  | .item (.tables list) => if list.isEmpty then .ok () else fault "expected empty array"
  | .item (.value held) | .value held =>
    match held with
    | .inlineTable entries _ _ => if entries.isEmpty then .ok () else fault "expected empty table"
    | .array items _ => if items.isEmpty then .ok () else fault "expected empty table"
    | other => fault ("expected table, found " ++ other.typeName)

/-- The units: a name as a string, or a table with the name as its only key. -/
def units (node : Node) : Except Complaint Units :=
  placed node.span? <|
    let oneEntry (entries : List (Key × Node)) : Except Complaint Units :=
      match entries with
      | [] => .error { message := "wanted exactly 1 element, found 0 elements", span := node.span? }
      | [(key, content)] => do
        let chosen ← placed (some key.span) (unitsNamed key.name)
        emptyVariant content
        return chosen
      | _ => .error { message := "wanted exactly 1 element, more than 1 element", span := node.span? }
    match node with
    | .item (.value (.string name _)) | .value (.string name _) => unitsNamed name
    | .item (.table table) => oneEntry (table.entries.map fun (key, held) => (key, .item held))
    | .item (.value (.inlineTable entries _ _)) | .value (.inlineTable entries _ _) =>
      oneEntry (entries.map fun (key, held) => (key, .value held))
    | _ => .error { message := "wanted string or table", span := node.span? }

/-- The shape of a record: what a complaint calls it, its fields in declaration order, how a
field is set, and how the record is completed once all entries are read. -/
structure RecordShape (σ : Type) where
  expected : String
  fields : List String
  setField : σ → String → Node → Except Complaint σ
  complete : σ → Except Complaint σ
  /-- The complaint when a sequence has fewer elements than a required field needs. -/
  short : Option (Nat → Mismatch)

/-- Decodes a record from a node. -/
def record (shape : RecordShape σ) (initial : σ) (node : Node) : Except Complaint σ :=
  placed node.span? <|
    match node.entries?, node.elements? with
    | some entries, _ => do
      let filled ← entries.foldlM (fun record (key, content) =>
          if shape.fields.contains key.name then
            placed (content.span? <|> some key.span) (shape.setField record key.name content)
          else .ok record) initial
      shape.complete filled
    | none, some elements => do
      let (filled, _) ← shape.fields.foldlM (fun (record, index) field =>
          match elements[index]? with
          | some content => do return (← shape.setField record field content, index + 1)
          | none =>
            match shape.short with
            | some complaint => complain (complaint index)
            | none => .ok (record, index + 1)) (initial, 0)
      shape.complete filled
    | none, none => complain (.invalidType node.found shape.expected)

/-- A point: both coordinates are required. -/
def pointShape : RecordShape (Option Float × Option Float) where
  expected := "struct Point"
  fields := ["x", "y"]
  setField := fun (x, y) key content => do
    if key == "x" then return (some (← float content), y) else return (x, some (← float content))
  complete := fun (x, y) =>
    match x, y with
    | some _, some _ => .ok (x, y)
    | none, _ => complain (.missingField "x")
    | _, none => complain (.missingField "y")
  short := some fun index => .invalidLength index "struct Point with 2 elements"

/-- A point. -/
def point (node : Node) : Except Complaint Point := do
  let (x, y) ← record pointShape (none, none) node
  return ⟨x.getD 0.0, y.getD 0.0⟩

/-- The machine record. -/
def machineShape : RecordShape Machine where
  expected := "struct MachineSettings"
  fields := ["xy_feedrate", "spindle_on", "spindle_off", "start_delay_ms", "stop_delay_ms"]
  setField := fun machine key content => do
    if key == "xy_feedrate" then return { machine with feedrate := ← float content }
    else if key == "spindle_on" then return { machine with toolOn := ← text content }
    else if key == "spindle_off" then return { machine with toolOff := ← text content }
    else if key == "start_delay_ms" then return { machine with onDelay := ← unsigned32 content }
    else return { machine with offDelay := ← unsigned32 content }
  complete := .ok
  short := none

/-- The output options record; TOML has no empty value, so a home key always gives a point. -/
def outputShape : RecordShape OutputOptions where
  expected := "struct OutputSettings"
  fields := ["units", "optimize_order", "skip_unsupported", "home"]
  setField := fun output key content => do
    if key == "units" then return { output with units := ← units content }
    else if key == "optimize_order" then return { output with optimizeOrder := ← boolean content }
    else if key == "skip_unsupported" then return { output with skipUnsupported := ← boolean content }
    else return { output with home := some (← placed content.span? (point content)) }
  complete := .ok
  short := none

/-- The configuration record. -/
def configShape : RecordShape Config where
  expected := "struct Config"
  fields := ["machine", "output"]
  setField := fun config key content => do
    if key == "machine" then return { config with machine := ← record machineShape {} content }
    else return { config with output := ← record outputShape {} content }
  complete := .ok
  short := none

end TomlDecode

/-- Reads a configuration from TOML text. -/
def Config.readToml (text : String) : Except Toml.TomlError Config := do
  let root ← readDocument text
  match TomlDecode.record TomlDecode.configShape {} (.item (.table root)) with
  | .ok config => return config
  | .error complaint => throw { message := complaint.message, span := complaint.span, document := text }

/-- What the form of a TOML string depends on: the longest runs of apostrophes and of quotes,
and whether the text holds a control character other than tab and line feed, a backslash, or a
line feed. -/
structure TextMetrics where
  apostrophes : Nat := 0
  quotes : Nat := 0
  controls : Bool := false
  backslash : Bool := false
  newline : Bool := false
  deriving Inhabited

/-- The metrics of a text, with the lengths of the runs of apostrophes and quotes it ends in. -/
def TextMetrics.scan : List Char → TextMetrics × Nat × Nat
  | [] => ({}, 0, 0)
  | character :: rest =>
    let (metrics, apostropheRun, quoteRun) := TextMetrics.scan rest
    let apostropheRun := if character == '\'' then apostropheRun + 1 else 0
    let quoteRun := if character == '"' then quoteRun + 1 else 0
    let code := character.toNat
    ({ apostrophes := max metrics.apostrophes apostropheRun
       quotes := max metrics.quotes quoteRun
       controls := metrics.controls || (code != 9 && code != 10 && (code ≤ 0x1F || code == 0x7F))
       backslash := metrics.backslash || character == '\\'
       newline := metrics.newline || character == '\n' }, apostropheRun, quoteRun)

/-- The metrics of a text. -/
def TextMetrics.of (value : String) : TextMetrics :=
  (TextMetrics.scan value.toList).1

/-- The four forms of a TOML string. -/
inductive StringForm where
  /-- Between quotes, with escapes. -/
  | basic
  /-- Between apostrophes, as it is. -/
  | literal
  /-- Between tripled quotes, line feeds kept, with escapes. -/
  | multiLineBasic
  /-- Between tripled apostrophes, as it is. -/
  | multiLineLiteral
  deriving BEq, Inhabited

/-- The form of a text: the first of basic, literal, multi-line basic and multi-line literal that
writes it without escapes and without closing early; failing all, basic with escapes (multi-line
if it holds a line feed). A basic string needs no escape without quotes, backslashes, line feeds
and control characters; a literal one holds no apostrophe and no line feed; a multi-line basic
one has no run of three quotes; a multi-line literal one no run of three apostrophes. -/
def StringForm.choose (metrics : TextMetrics) : StringForm :=
  if !metrics.controls && !metrics.backslash && metrics.quotes == 0 && !metrics.newline then .basic
  else if !metrics.controls && metrics.apostrophes == 0 && !metrics.newline then .literal
  else if !metrics.controls && !metrics.backslash && metrics.quotes ≤ 2 then .multiLineBasic
  else if !metrics.controls && metrics.apostrophes ≤ 2 then .multiLineLiteral
  else if metrics.newline then .multiLineBasic
  else .basic

/-- The four upper-case hex digits of a code below `0x10000`. -/
def hexFour (code : Nat) : String :=
  let digit (value : Nat) : Char :=
    if value < 10 then Char.ofNat ('0'.toNat + value) else Char.ofNat ('A'.toNat + value - 10)
  String.ofList [digit (code / 4096 % 16), digit (code / 256 % 16), digit (code / 16 % 16), digit (code % 16)]

/-- The escaped body of a basic string. A quote is escaped when it would make a run longer than
the form allows (none in one line, two over several), and the run starts again after it; a line
feed is kept over several lines. -/
def escapeBasic (multiLine : Bool) : List Char → Nat → String
  | [], _ => ""
  | character :: rest, run =>
    if character == '"' then
      if run + 1 > (if multiLine then 2 else 0) then "\\\"" ++ escapeBasic multiLine rest 0
      else "\"" ++ escapeBasic multiLine rest (run + 1)
    else
      let code := character.toNat
      let written :=
        if code == 8 then "\\b"
        else if code == 9 then "\\t"
        else if code == 10 then (if multiLine then "\n" else "\\n")
        else if code == 12 then "\\f"
        else if code == 13 then "\\r"
        else if character == '\\' then "\\\\"
        else if code ≤ 0x1F || code == 0x7F then "\\u" ++ hexFour code
        else String.ofList [character]
      written ++ escapeBasic multiLine rest 0

/-- A text as a TOML string, in the form `StringForm.choose` picks. A multi-line string starts
with a line feed when the text holds one. -/
def tomlString (value : String) : String :=
  let metrics := TextMetrics.of value
  let opening := if metrics.newline then "\n" else ""
  match StringForm.choose metrics with
  | .basic => "\"" ++ escapeBasic false value.toList 0 ++ "\""
  | .literal => "'" ++ value ++ "'"
  | .multiLineBasic => "\"\"\"" ++ opening ++ escapeBasic true value.toList 0 ++ "\"\"\""
  | .multiLineLiteral => "'''" ++ opening ++ value ++ "'''"

/-- The pretty TOML text of a configuration. -/
def Config.writeToml (config : Config) : String :=
  let float := FloatStyle.toml.render
  "[machine]\n" ++
    "xy_feedrate = " ++ float config.machine.feedrate ++ "\n" ++
    "spindle_on = " ++ tomlString config.machine.toolOn ++ "\n" ++
    "spindle_off = " ++ tomlString config.machine.toolOff ++ "\n" ++
    "start_delay_ms = " ++ natText config.machine.onDelay.toNat ++ "\n" ++
    "stop_delay_ms = " ++ natText config.machine.offDelay.toNat ++ "\n" ++
    "\n[output]\n" ++
    "units = \"" ++ config.output.units.keyword ++ "\"\n" ++
    "optimize_order = " ++ (if config.output.optimizeOrder then "true" else "false") ++ "\n" ++
    "skip_unsupported = " ++ (if config.output.skipUnsupported then "true" else "false") ++ "\n" ++
    (match config.output.home with
     | some home => "\n[output.home]\nx = " ++ float home.x ++ "\ny = " ++ float home.y ++ "\n"
     | none => "")

end Toolpath
