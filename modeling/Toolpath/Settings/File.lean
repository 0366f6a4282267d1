import Toolpath.Settings.JsonText
import Toolpath.Settings.TomlText
import Toolpath.Drawing.Load
import Toolpath.Files.Workspace

/-!
# Configuration files

A configuration file is read in full first (a file that cannot be read is an input-output error,
whatever its name), then its format is chosen by the extension of its name, `json` or `toml`
exactly, and the configuration is decoded and checked. Saving checks the configuration first,
then chooses the format, and gives the text to write, which is then written to the file.

Every failure is a settings error whose message names its kind; the message of the underlying
error follows it again as its cause.
-/

namespace Toolpath

/-- Why a configuration file could not be loaded or saved. -/
inductive SettingsError where
  /-- The file could not be read or written. -/
  | io (message : String)
  /-- The JSON text is not a configuration. -/
  | json (error : JsonError)
  /-- The TOML text is not a configuration. -/
  | toml (error : Toml.TomlError)
  /-- The configuration is refused. -/
  | config (error : ConfigError)
  deriving Inhabited

namespace SettingsError

/-- The message of the underlying error. -/
def cause : SettingsError → String
  | .io message => message
  | .json error => error.text
  | .toml error => error.text
  | .config error => error.message

/-- The message of a settings error. -/
def message (error : SettingsError) : String :=
  match error with
  | .io _ => "I/O error: " ++ error.cause
  | .json _ => "JSON error: " ++ error.cause
  | .toml _ => "TOML error: " ++ error.cause
  | .config _ => "Config error: " ++ error.cause

/-- The name of the kind of a settings error; a refused configuration gives its own kind. -/
def kindName : SettingsError → String
  | .io _ => "IoError"
  | .json _ => "JsonError"
  | .toml _ => "TomlError"
  | .config error => error.kindName

end SettingsError

/-- The format of a configuration file, by the exact extension of its name. -/
inductive ConfigFormat where
  | json
  | toml
  deriving BEq, Inhabited

/-- The format named by a path, or the refusal naming its extension (empty when it has none). -/
def ConfigFormat.ofPath (path : String) : Except SettingsError ConfigFormat :=
  match extension? path with
  | some "json" => .ok .json
  | some "toml" => .ok .toml
  | other => .error (.config (.unsupportedFormat (other.getD "")))

/-- Loads a configuration from a file's path and what reading it gave: its text, or the system's
message. JSON numbers are rounded as `rounding` says. -/
def Config.load (rounding : DecimalRounding) (path : String) (contents : Except String String) :
    Except SettingsError Config := do
  let text ← match contents with
    | .ok text => pure text
    | .error message => throw (.io message)
  let config ← match ← ConfigFormat.ofPath path with
    | .json => (Config.readJson rounding text).mapError SettingsError.json
    | .toml => (Config.readToml text).mapError SettingsError.toml
  (config.validate).mapError SettingsError.config
  return config

/-- The text a configuration is saved as under a path. -/
def Config.save (config : Config) (path : String) : Except SettingsError String := do
  (config.validate).mapError SettingsError.config
  match ← ConfigFormat.ofPath path with
  | .json => return config.writeJson
  | .toml => return config.writeToml

/-- Saves a configuration to a file of a workspace: its text under the path, written only once
the configuration is checked and the format chosen. A write that fails is an input-output error
and changes nothing. -/
def Config.saveToFile (config : Config) (workspace : Workspace) (path : String) :
    Except SettingsError Unit × Workspace :=
  match config.save path with
  | .error error => (.error error, workspace)
  | .ok text =>
    match workspace.write path text with
    | .ok written => (.ok (), written)
    | .error message => (.error (.io message), workspace)

end Toolpath
