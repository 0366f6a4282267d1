import Toolpath.Motion.Plotter
import Toolpath.Units

/-!
# Configuration

A configuration is a machine dialect and the output options: the units of the program, whether
to reorder primitives by proximity, whether to skip primitives that cannot be cut, and an
optional home position to return to at the end.

A configuration is valid when the feed rate is finite and positive, both tool words hold a
character that is not white space, and the home position, if any, is finite; the checks run in
that order and the first failure is reported.
-/

namespace Toolpath

open Toolpath.Number

/-- The output options of a program. -/
structure OutputOptions where
  units : Units := .metric
  optimizeOrder : Bool := false
  skipUnsupported : Bool := false
  home : Option Point := none
  deriving BEq, Inhabited

/-- A complete configuration. -/
structure Config where
  machine : Machine := {}
  output : OutputOptions := {}
  deriving BEq, Inhabited

/-- Why a configuration is refused. -/
inductive ConfigError where
  /-- A file extension names no known format. -/
  | unsupportedFormat (extension : String)
  /-- A value is outside its range; the value is given as text. -/
  | valueOutOfRange (key : String) (value : String)
  /-- A required text is empty or blank. -/
  | missingValue (key : String)
  deriving Repr, BEq, Inhabited

namespace ConfigError

/-- The message of a configuration error. -/
def message : ConfigError → String
  | .unsupportedFormat extension => "Unsupported config format: " ++ extension
  | .valueOutOfRange key value => "Value out of range for '" ++ key ++ "': " ++ value
  | .missingValue key => "Missing configuration value: " ++ key

/-- The name of the kind of error. -/
def kindName : ConfigError → String
  | .unsupportedFormat _ => "UnsupportedFormat"
  | .valueOutOfRange .. => "ValueOutOfRange"
  | .missingValue _ => "MissingValue"

end ConfigError

/-- White space in the sense of the Unicode `White_Space` property, which is what trimming a tool
word removes. -/
def isUnicodeSpace (character : Char) : Bool :=
  let code := character.toNat
  (0x09 ≤ code && code ≤ 0x0D) || code == 0x20 || code == 0x85 || code == 0xA0 ||
    code == 0x1680 || (0x2000 ≤ code && code ≤ 0x200A) || code == 0x2028 || code == 0x2029 ||
    code == 0x202F || code == 0x205F || code == 0x3000

/-- Whether a text is empty or only white space. -/
def isBlank (text : String) : Bool :=
  text.toList.all isUnicodeSpace

namespace Config

/-- Checks a configuration: feed rate finite and positive, tool words not blank, home finite. -/
def validate (config : Config) : Except ConfigError Unit := do
  let feed := config.machine.feedrate
  if !feed.isFinite || feed <= 0.0 then
    throw (.valueOutOfRange "machine.xy_feedrate" (plainText feed))
  if isBlank config.machine.toolOn then throw (.missingValue "machine.spindle_on")
  if isBlank config.machine.toolOff then throw (.missingValue "machine.spindle_off")
  match config.output.home with
  | some home =>
    if !home.isFinite then throw (.valueOutOfRange "output.home" home.label)
  | none => pure ()

end Config

end Toolpath
