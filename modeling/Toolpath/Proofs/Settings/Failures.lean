import Toolpath.Proofs.Settings.Persistence

/-!
# How saving and loading a configuration fail

Saving checks the configuration, then the format the name asks for, and only then writes the
file. So a configuration that fails its check is refused with that failure whatever the name, a
valid one under a name whose extension is neither `json` nor `toml` is refused with that
extension, and in both cases the files are as they were; a write that fails changes nothing
either. The files change only when saving succeeds, and then by the text of the configuration
written under the path.

Loading takes the text of the file first, so a file that cannot be read is an input-output error
whatever its name; then the extension is checked, then the text is read in the format, and then
the configuration read is checked. Loading succeeds only with a configuration that passes the
check.

Main statements:
* `Config.saveToFile_eq_of_not_ok`: a failed save leaves the files as they were;
* `Config.validate_of_load`: a loaded configuration passes the check;
* `Config.failures_come_in_order_and_leave_files_alone`: the failures of saving and loading,
  in the order they are checked.
-/

namespace Toolpath

namespace ConfigFormat

variable {path : String}

theorem ofPath_of_json (json : extension? path = some "json") :
    ConfigFormat.ofPath path = .ok .json := by
  simp [ofPath, json]

theorem ofPath_of_toml (toml : extension? path = some "toml") :
    ConfigFormat.ofPath path = .ok .toml := by
  simp [ofPath, toml]

/-- A name whose extension is neither `json` nor `toml` is refused, naming the extension, or the
empty text when it has none. -/
theorem ofPath_of_unsupported (notJson : extension? path ≠ some "json")
    (notToml : extension? path ≠ some "toml") :
    ConfigFormat.ofPath path = .error (.config (.unsupportedFormat ((extension? path).getD ""))) := by
  unfold ofPath
  split
  · next json => exact absurd json notJson
  · next toml => exact absurd toml notToml
  · rfl

end ConfigFormat

namespace Config

variable {config : Config} {path : String}

/-! ## Saving -/

/-- A configuration that fails its check is refused with that failure, whatever the name. -/
theorem save_of_validate_error {error : ConfigError} (invalid : config.validate = .error error) :
    config.save path = .error (.config error) := by
  simp only [save, invalid, Except.mapError]
  rfl

/-- A valid configuration under a name of no known format is refused as the name is. -/
theorem save_of_ofPath_error {error : SettingsError} (valid : config.validate = .ok ())
    (unsupported : ConfigFormat.ofPath path = .error error) : config.save path = .error error := by
  simp only [save, valid, unsupported, Except.mapError]
  rfl

/-- Saving that fails before the write leaves the files as they were. -/
theorem saveToFile_of_save_error {error : SettingsError} (refused : config.save path = .error error)
    (workspace : Workspace) : config.saveToFile workspace path = (.error error, workspace) := by
  simp [saveToFile, refused]

/-- A failed save, before or in the write, leaves the files as they were. -/
theorem saveToFile_eq_of_not_ok (workspace : Workspace)
    (failed : (config.saveToFile workspace path).1 ≠ .ok ()) :
    (config.saveToFile workspace path).2 = workspace := by
  cases made : config.save path with
  | error error => simp [saveToFile, made]
  | ok text =>
      cases wrote : workspace.write path text with
      | error message => simp [saveToFile, made, wrote]
      | ok written => simp [saveToFile, made, wrote] at failed

/-- A successful save writes the text of the configuration under the path. -/
theorem saveToFile_of_ok (workspace : Workspace)
    (saved : (config.saveToFile workspace path).1 = .ok ()) :
    ∃ text, config.save path = .ok text ∧
      workspace.write path text = .ok (config.saveToFile workspace path).2 := by
  cases made : config.save path with
  | error error => simp [saveToFile, made] at saved
  | ok text =>
      cases wrote : workspace.write path text with
      | error message => simp [saveToFile, made, wrote] at saved
      | ok written => exact ⟨text, rfl, by simp [saveToFile, made, wrote]⟩

/-! ## Loading -/

section Loading

variable {ε : Type} {read : Except ε Config} {wrap : ε → SettingsError}

/-- Reading the text in its format and checking what was read fails as reading fails. -/
theorem checked_of_read_error {error : ε} (failed : read = .error error) :
    (read.mapError wrap >>= fun loaded =>
        (loaded.validate).mapError SettingsError.config >>= fun _ => pure loaded) =
      .error (wrap error) := by
  subst failed
  rfl

/-- A configuration read that fails its check is refused with that failure. -/
theorem checked_of_validate_error {loaded : Config} {error : ConfigError}
    (found : read = .ok loaded) (invalid : loaded.validate = .error error) :
    (read.mapError wrap >>= fun loaded =>
        (loaded.validate).mapError SettingsError.config >>= fun _ => pure loaded) =
      .error (.config error) := by
  subst found
  simp only [Except.mapError, invalid, bind, Except.bind]

/-- A configuration that comes out of reading and checking passes the check. -/
theorem validate_of_checked {loaded : Config}
    (found : (read.mapError wrap >>= fun loaded =>
        (loaded.validate).mapError SettingsError.config >>= fun _ => pure loaded) = .ok loaded) :
    loaded.validate = .ok () := by
  cases read with
  | error error => cases found
  | ok config =>
      cases valid : config.validate with
      | error error => simp [Except.mapError, valid, bind, Except.bind] at found
      | ok passed =>
          simp only [Except.mapError, valid, bind, Except.bind, pure, Except.pure,
            Except.ok.injEq] at found
          subst found
          exact valid

end Loading

variable {rounding : DecimalRounding}

/-- A file that cannot be read is an input-output error, whatever its name. -/
theorem load_of_unreadable (message : String) :
    Config.load rounding path (.error message) = .error (.io message) :=
  rfl

/-- A text under a name of no known format is refused as the name is. -/
theorem load_of_ofPath_error {error : SettingsError}
    (unsupported : ConfigFormat.ofPath path = .error error) (text : String) :
    Config.load rounding path (.ok text) = .error error := by
  simp only [load, unsupported]
  rfl

/-- A loaded configuration passes the check. -/
theorem validate_of_load {contents : Except String String} {loaded : Config}
    (found : Config.load rounding path contents = .ok loaded) : loaded.validate = .ok () := by
  cases contents with
  | error message => cases found
  | ok text =>
      cases named : ConfigFormat.ofPath path with
      | error error => rw [load_of_ofPath_error named] at found; cases found
      | ok format =>
          cases format with
          | json => exact validate_of_checked (load_json named rounding text ▸ found)
          | toml => exact validate_of_checked (load_toml named rounding text ▸ found)

/--
Configuration errors leave the file alone and come in a fixed order. Saving refuses a
configuration that fails its check with that failure whatever the name, then a name whose
extension is neither `json` nor `toml` with that extension (the empty text when there is none),
and in both cases leaves the files as they were; the files change only when saving succeeds, by
the text of the configuration written under the path. Loading reports a file that cannot be read
whatever its name, then a name of no known format, then a text that is not a configuration in
its format, then a configuration that fails its check, and succeeds only with a configuration
that passes it.
-/
theorem failures_come_in_order_and_leave_files_alone (config : Config) (workspace : Workspace)
    (path : String) (rounding : DecimalRounding) (contents : Except String String) :
    (∀ error, config.validate = .error error →
      config.saveToFile workspace path = (.error (.config error), workspace)) ∧
    (config.validate = .ok () → extension? path ≠ some "json" → extension? path ≠ some "toml" →
      config.saveToFile workspace path =
        (.error (.config (.unsupportedFormat ((extension? path).getD ""))), workspace)) ∧
    ((config.saveToFile workspace path).2 ≠ workspace →
      (config.saveToFile workspace path).1 = .ok ()) ∧
    ((config.saveToFile workspace path).1 = .ok () →
      ∃ text, config.save path = .ok text ∧
        workspace.write path text = .ok (config.saveToFile workspace path).2) ∧
    (∀ message, contents = .error message →
      Config.load rounding path contents = .error (.io message)) ∧
    (∀ text, contents = .ok text → extension? path ≠ some "json" →
      extension? path ≠ some "toml" →
        Config.load rounding path contents =
          .error (.config (.unsupportedFormat ((extension? path).getD "")))) ∧
    (∀ text error, contents = .ok text → extension? path = some "json" →
      Config.readJson rounding text = .error error →
        Config.load rounding path contents = .error (.json error)) ∧
    (∀ text error, contents = .ok text → extension? path = some "toml" →
      Config.readToml text = .error error →
        Config.load rounding path contents = .error (.toml error)) ∧
    (∀ text read error, contents = .ok text →
      (extension? path = some "json" ∧ Config.readJson rounding text = .ok read ∨
        extension? path = some "toml" ∧ Config.readToml text = .ok read) →
      read.validate = .error error →
        Config.load rounding path contents = .error (.config error)) ∧
    (∀ loaded, Config.load rounding path contents = .ok loaded → loaded.validate = .ok ()) := by
  refine ⟨fun _ invalid => saveToFile_of_save_error (save_of_validate_error invalid) workspace,
    fun valid notJson notToml => saveToFile_of_save_error
      (save_of_ofPath_error valid (ConfigFormat.ofPath_of_unsupported notJson notToml)) workspace,
    fun changed => Classical.not_not.1 fun failed => changed (saveToFile_eq_of_not_ok workspace failed),
    saveToFile_of_ok workspace, fun _ unreadable => unreadable ▸ load_of_unreadable _,
    fun _ readable notJson notToml => readable ▸
      load_of_ofPath_error (ConfigFormat.ofPath_of_unsupported notJson notToml) _,
    fun _ _ readable json failed => ?_, fun _ _ readable toml failed => ?_,
    fun _ _ _ readable found invalid => ?_, fun _ found => validate_of_load found⟩
  · rw [readable, load_json (ConfigFormat.ofPath_of_json json)]
    exact checked_of_read_error failed
  · rw [readable, load_toml (ConfigFormat.ofPath_of_toml toml)]
    exact checked_of_read_error failed
  · rcases found with ⟨json, read⟩ | ⟨toml, read⟩
    · rw [readable, load_json (ConfigFormat.ofPath_of_json json)]
      exact checked_of_validate_error read invalid
    · rw [readable, load_toml (ConfigFormat.ofPath_of_toml toml)]
      exact checked_of_validate_error read invalid

end Config

/-- A configuration whose engaging word is blank is refused for that word under any name, and
the file of that name keeps its text; a file that cannot be read is an input-output error. -/
theorem blank_tool_word_is_refused_before_anything_is_written :
    ({ machine := { toolOn := " " } } : Config).validate = .error (.missingValue "machine.spindle_on") ∧
      ({ machine := { toolOn := " " } } : Config).saveToFile
          { files := [("settings.json", "kept")] } "settings.json" =
        (.error (.config (.missingValue "machine.spindle_on")),
          { files := [("settings.json", "kept")] }) ∧
      Config.load .nearest "settings.json" (.error missingFileMessage) =
        .error (.io missingFileMessage) := by
  have invalid : ({ machine := { toolOn := " " } } : Config).validate =
      .error (.missingValue "machine.spindle_on") := by rfl
  have failures := Config.failures_come_in_order_and_leave_files_alone
    { machine := { toolOn := " " } } { files := [("settings.json", "kept")] } "settings.json"
    .nearest (.error missingFileMessage)
  exact ⟨invalid, failures.1 _ invalid, failures.2.2.2.2.1 _ rfl⟩

end Toolpath
