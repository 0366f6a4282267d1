import Mathlib
import Toolpath.Settings.File

/-!
# Saving and loading configurations

Saving a valid configuration under a name with the `json` extension writes its JSON text, and
under a `toml` name its TOML text; loading reads the text of the format the name selects and
checks the configuration again. So loading what was saved is reading back the text of the
format, and the round trip is exact when the reader of the format finds every value in the
text the writer made from it.

The TOML reader reads a decimal as the nearest binary64 value, and so does a JSON reader that
rounds to nearest. A JSON reader that scales decimals in binary64 steps does not: a feed rate of
`3e23` is written as `3e+23`, and the stepwise reader rounds the significand and the power of
ten apart and lands one unit in the last place below it.

Main statements:
* `Config.load_save_json`, `Config.load_save_toml`: loading what was saved under a name of
  either format is reading back that format's text;
* `stepwise_json_reads_back_a_lower_feedrate`: the stepwise JSON reader misses the feed rate
  `3e23` by one unit in the last place, where the nearest reader finds it.
-/

namespace Toolpath

namespace Config

variable {config : Config} {path : String}

/-- A valid configuration saved under a `json` name is its JSON text. -/
theorem save_json (valid : config.validate = .ok ())
    (json : ConfigFormat.ofPath path = .ok .json) : config.save path = .ok config.writeJson := by
  simp only [save, valid, json, Except.mapError]
  rfl

/-- A valid configuration saved under a `toml` name is its TOML text. -/
theorem save_toml (valid : config.validate = .ok ())
    (toml : ConfigFormat.ofPath path = .ok .toml) : config.save path = .ok config.writeToml := by
  simp only [save, valid, toml, Except.mapError]
  rfl

/-- Loading a text under a `json` name reads it as JSON and checks the configuration read. -/
theorem load_json (json : ConfigFormat.ofPath path = .ok .json) (rounding : DecimalRounding)
    (text : String) :
    Config.load rounding path (.ok text) =
      ((readJson rounding text).mapError SettingsError.json >>= fun loaded =>
        (loaded.validate).mapError SettingsError.config >>= fun _ => pure loaded) := by
  simp only [load, json]
  rfl

/-- Loading a text under a `toml` name reads it as TOML and checks the configuration read. -/
theorem load_toml (toml : ConfigFormat.ofPath path = .ok .toml) (rounding : DecimalRounding)
    (text : String) :
    Config.load rounding path (.ok text) =
      ((readToml text).mapError SettingsError.toml >>= fun loaded =>
        (loaded.validate).mapError SettingsError.config >>= fun _ => pure loaded) := by
  simp only [load, toml]
  rfl

/-- Loading what was saved under a `json` name is reading back the JSON text of the
configuration, then checking what was read. -/
theorem load_save_json (valid : config.validate = .ok ())
    (json : ConfigFormat.ofPath path = .ok .json) (rounding : DecimalRounding) :
    (config.save path >>= fun text => Config.load rounding path (.ok text)) =
      ((readJson rounding config.writeJson).mapError SettingsError.json >>= fun loaded =>
        (loaded.validate).mapError SettingsError.config >>= fun _ => pure loaded) := by
  rw [save_json valid json]
  exact load_json json rounding _

/-- Loading what was saved under a `toml` name is reading back the TOML text of the
configuration, then checking what was read. -/
theorem load_save_toml (valid : config.validate = .ok ())
    (toml : ConfigFormat.ofPath path = .ok .toml) (rounding : DecimalRounding) :
    (config.save path >>= fun text => Config.load rounding path (.ok text)) =
      ((readToml config.writeToml).mapError SettingsError.toml >>= fun loaded =>
        (loaded.validate).mapError SettingsError.config >>= fun _ => pure loaded) := by
  rw [save_toml valid toml]
  exact load_toml toml rounding _

end Config

/-- The valid feed rate `3e23` is written to JSON as `3e+23`. The stepwise reader rounds `3` and
`10 ^ 23` apart and their product again, and reads back the binary64 value one unit in the last
place below the one written; the reader that rounds to nearest reads back the value written. -/
theorem stepwise_json_reads_back_a_lower_feedrate :
    ({ machine := { feedrate := 3e23 } } : Config).validate = .ok () ∧
      (3e23 : Float).toBits = 0x44CFC3842BD1F072 ∧
      (Config.readJson .stepwise ({ machine := { feedrate := 3e23 } } : Config).writeJson).toOption.map
          (·.machine.feedrate.toBits) = some 0x44CFC3842BD1F071 ∧
      (Config.readJson .nearest ({ machine := { feedrate := 3e23 } } : Config).writeJson).toOption.map
          (·.machine.feedrate.toBits) = some 0x44CFC3842BD1F072 :=
  ⟨by rfl, by decide, by decide +kernel, by decide +kernel⟩

end Toolpath
