import Toolpath.Json.Value
import Toolpath.Number.Read
import Toolpath.Settings.Config
import Toolpath.Settings.Mismatch

/-!
# Configurations from JSON values

Decodes a configuration from a JSON value that was already read. An object sets the fields it
names, in the order of its members, and leaves the others at their defaults; unknown members are
ignored. An array sets the fields in declaration order. A point needs both coordinates. The first
complaint stops decoding; complaints carry no position.

Whole numbers are accepted where a float is expected and converted to the nearest binary64
value; a delay must be a whole number from `0` to `2 ^ 32 - 1`.
-/

namespace Toolpath

open Toolpath.Number

/-- How a JSON value is described in a complaint. -/
def Json.found : Json → Found
  | .null => .unit
  | .bool value => .boolean value
  | .number (.natural value) => .unsigned value
  | .number (.negative value) => .signed value
  | .number (.float value) => .float value
  | .string value => .string value
  | .array _ => .sequence
  | .object _ => .map

namespace JsonDecode

/-- A float field. -/
def float : Json → Except Mismatch Float
  | .number (.natural value) => .ok (floatOfDecimal false value 0)
  | .number (.negative value) => .ok (floatOfDecimal true value.natAbs 0)
  | .number (.float value) => .ok value
  | other => .error (.invalidType other.found "f64")

/-- An unsigned 32-bit field. -/
def unsigned32 : Json → Except Mismatch UInt32
  | .number (.natural value) =>
    if value ≤ maxUnsigned32 then .ok (UInt32.ofNat value)
    else .error (.invalidValue (.unsigned value) "u32")
  | .number (.negative value) => .error (.invalidValue (.signed value) "u32")
  | other => .error (.invalidType other.found "u32")

/-- A text field. -/
def text : Json → Except Mismatch String
  | .string value => .ok value
  | other => .error (.invalidType other.found "a string")

/-- A yes-or-no field. -/
def boolean : Json → Except Mismatch Bool
  | .bool value => .ok value
  | other => .error (.invalidType other.found "a boolean")

/-- The units, spelled `metric` or `imperial`, alone or as the single key of an object whose
value is `null`. -/
def units : Json → Except Mismatch Units
  | .string name => unitsNamed name
  | .object [(name, content)] => do
    let chosen ← unitsNamed name
    match content with
    | .null => return chosen
    | other => throw (.invalidType other.found "unit")
  | .object _ => .error (.invalidValue .map "map with a single key")
  | other => .error (.invalidType other.found "string or map")
where
  unitsNamed (name : String) : Except Mismatch Units :=
    if name == "metric" then .ok .metric
    else if name == "imperial" then .ok .imperial
    else .error (.unknownVariant name ["metric", "imperial"])

/-- The elements of an array beyond those a record takes are a complaint. -/
def noExtra (items : List Json) (taken : Nat) : Except Mismatch Unit :=
  if items.length > taken then .error (.invalidLength items.length "fewer elements in array")
  else .ok ()

/-- A point: an object with both coordinates, or an array of two numbers. -/
def point : Json → Except Mismatch Point
  | .object members => do
    let start : Option Float × Option Float := (none, none)
    let (x, y) ← members.foldlM
      (fun (x, y) (key, content) => do
        if key == "x" then return (some (← float content), y)
        else if key == "y" then return (x, some (← float content))
        else return (x, y)) start
    match x, y with
    | some x, some y => return ⟨x, y⟩
    | none, _ => throw (.missingField "x")
    | _, none => throw (.missingField "y")
  | .array items => do
    match items with
    | [] => throw (.invalidLength 0 "struct Point with 2 elements")
    | [first] => do
      discard (float first)
      throw (.invalidLength 1 "struct Point with 2 elements")
    | first :: second :: _ => do
      let x ← float first
      let y ← float second
      noExtra items 2
      return ⟨x, y⟩
  | other => .error (.invalidType other.found "struct Point")

/-- An optional point: `null` for none. -/
def home : Json → Except Mismatch (Option Point)
  | .null => .ok none
  | other => some <$> point other

/-- Sets one field of a machine from a member. -/
def machineField (machine : Machine) (key : String) (content : Json) : Except Mismatch Machine :=
  if key == "xy_feedrate" then return { machine with feedrate := ← float content }
  else if key == "spindle_on" then return { machine with toolOn := ← text content }
  else if key == "spindle_off" then return { machine with toolOff := ← text content }
  else if key == "start_delay_ms" then return { machine with onDelay := ← unsigned32 content }
  else if key == "stop_delay_ms" then return { machine with offDelay := ← unsigned32 content }
  else return machine

/-- The field names of a machine, in declaration order. -/
def machineKeys : List String :=
  ["xy_feedrate", "spindle_on", "spindle_off", "start_delay_ms", "stop_delay_ms"]

/-- A machine: an object or an array of its fields, missing ones at their defaults. -/
def machine : Json → Except Mismatch Machine
  | .object members => members.foldlM (fun machine (key, content) => machineField machine key content) {}
  | .array items => do
    let set ← (machineKeys.zip items).foldlM
      (fun machine (key, content) => machineField machine key content) {}
    noExtra items machineKeys.length
    return set
  | other => .error (.invalidType other.found "struct MachineSettings")

/-- Sets one field of the output options from a member. -/
def outputField (output : OutputOptions) (key : String) (content : Json) :
    Except Mismatch OutputOptions :=
  if key == "units" then return { output with units := ← units content }
  else if key == "optimize_order" then return { output with optimizeOrder := ← boolean content }
  else if key == "skip_unsupported" then return { output with skipUnsupported := ← boolean content }
  else if key == "home" then return { output with home := ← home content }
  else return output

/-- The field names of the output options, in declaration order. -/
def outputKeys : List String :=
  ["units", "optimize_order", "skip_unsupported", "home"]

/-- Output options: an object or an array of their fields, missing ones at their defaults. -/
def output : Json → Except Mismatch OutputOptions
  | .object members => members.foldlM (fun output (key, content) => outputField output key content) {}
  | .array items => do
    let set ← (outputKeys.zip items).foldlM
      (fun output (key, content) => outputField output key content) {}
    noExtra items outputKeys.length
    return set
  | other => .error (.invalidType other.found "struct OutputSettings")

/-- Sets one section of a configuration from a member. -/
def configField (config : Config) (key : String) (content : Json) : Except Mismatch Config :=
  if key == "machine" then return { config with machine := ← machine content }
  else if key == "output" then return { config with output := ← output content }
  else return config

/-- A configuration: an object or an array of its two sections, missing ones at their
defaults. -/
def config : Json → Except Mismatch Config
  | .object members => members.foldlM (fun config (key, content) => configField config key content) {}
  | .array items => do
    let set ← (["machine", "output"].zip items).foldlM
      (fun config (key, content) => configField config key content) {}
    noExtra items 2
    return set
  | other => .error (.invalidType other.found "struct Config")

end JsonDecode

end Toolpath
