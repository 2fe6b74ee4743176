import SerialHub.Proofs.Settings.Table
import SerialHub.Settings.Loader
import SerialHub.Toml.Write

/-!
# Saving a loaded configuration and loading it again

For any TOML library that reads back the documents it writes, a loaded configuration that can be
saved loads again as itself with the environment applied once more: the overwritten settings
keep their values, but the environment's blacklist entries are appended a second time. Saving
fails exactly when an unsigned setting, which the environment can set up to `2 ^ 64 - 1`, does
not fit a file's integers. Main statement: `reload_of_loaded`.
-/

namespace SerialHub.Settings

variable {toml : Toml.Codec}

/-- A text loads when it reads as a table describing a configuration on which the environment
refuses nothing, and what it loads is what the environment makes of that configuration. -/
theorem loadText_of_ok {text : String} {env : Environment} {c : Config}
    (h : loadText toml text env = .ok c) :
    ∃ rows c₀, toml.read text = some rows ∧ Config.ofTable? rows = some c₀ ∧
      applyEnvironment env c₀ = (c, none) := by
  unfold loadText at h
  cases hread : toml.read text with
  | none => simp [hread] at h
  | some rows =>
    cases hdecode : Config.ofTable? rows with
    | none => simp [hread, hdecode] at h
    | some c₀ =>
      refine ⟨rows, c₀, rfl, hdecode, ?_⟩
      rcases happly : applyEnvironment env c₀ with ⟨c', _ | e⟩
      · simp only [hread, hdecode, Option.bind_eq_bind, Option.bind_some, happly,
          Except.ok.injEq] at h
        rw [h]
      · simp [hread, hdecode, happly] at h

/-- A loaded configuration is stored. -/
theorem loadText_stored {text : String} {env : Environment} {c : Config}
    (h : loadText toml text env = .ok c) : c.Stored := by
  obtain ⟨rows, c₀, -, hdecode, happly⟩ := loadText_of_ok h
  rw [applyEnvironment_eq_overwrite happly]
  exact (Config.ofTable?_stored hdecode).overwrite env

theorem saveText_eq_error_iff (c : Config) :
    saveText toml c = .error .encode ↔ c.toTable = .error .encode := by
  cases h : c.toTable <;> simp [saveText, Except.map, h]

/-- A stored configuration, saved as a document that reads back as its table, loads again as
what an environment that refuses nothing makes of it. -/
theorem reload_of_accepted {c c' : Config} {rows : List (String × Toml.Value)} {env : Environment}
    (hs : c.Stored) (hrows : c.toTable = .ok rows)
    (hdoc : toml.read (toml.write rows) = some rows)
    (happly : applyEnvironment env c = (c', none)) : reload toml c env = .ok c' := by
  simp only [reload, saveText, hrows, Except.map, loadText, hdoc, Option.bind_eq_bind,
    Option.bind_some, Config.ofTable?_of_toTable hs hrows, happly]

/-- Saving a loaded configuration fails, as an encoding failure, exactly when one of its unsigned
settings does not fit a file's integers. When they fit and the saved document reads back as the
table it was written from, loading it again under the same environment gives the configuration
with the environment's blacklist entries appended once more, and loading it again under an empty
environment gives the configuration itself. -/
theorem reload_of_loaded {text : String} {env : Environment} {c : Config}
    (hload : loadText toml text env = .ok c) :
    (saveText toml c = .error .encode ↔ ¬ c.Fits) ∧
    (c.Fits →
      (∀ rows, c.toTable = .ok rows → toml.read (toml.write rows) = some rows) →
      reload toml c env = .ok { c with serial := { c.serial with
        blacklist := c.serial.blacklist ++ env.blacklistEntries } } ∧
      reload toml c [] = .ok c) := by
  obtain ⟨-, c₀, -, -, happly⟩ := loadText_of_ok hload
  have hc : c = env.overwrite c₀ := applyEnvironment_eq_overwrite happly
  refine ⟨(saveText_eq_error_iff c).trans (Config.toTable_eq_error_iff c), fun hfits hdoc => ?_⟩
  obtain ⟨rows, hrows⟩ := Config.toTable_of_fits hfits
  have hstored := loadText_stored hload
  -- the environment refuses nothing on the loaded configuration, as it refused nothing before
  have hagain : (applyEnvironment env c).2 = none := by
    rw [applyEnvironment_refusal_eq env c c₀, happly]
  have hempty : applyEnvironment [] c = (c, none) :=
    applyOverrides_of_unset (fun _ _ => rfl) c
  refine ⟨?_, reload_of_accepted hstored hrows (hdoc rows hrows) hempty⟩
  rw [reload_of_accepted hstored hrows (hdoc rows hrows) (applyEnvironment_of_accepted hagain), hc,
    Environment.overwrite_overwrite]

/-- A log level given by the environment. -/
def debugLevelEnv : Environment :=
  [("UART_MCP_LOGGING_LEVEL", "debug")]

/-- The defaults with the environment's log level load from an empty file, are saved, and load
again as they were, under the environment and without it. -/
theorem reload_keeps_environment_level :
    loadText Toml.codec "" debugLevelEnv = .ok (debugLevelEnv.overwrite {}) ∧
    reload Toml.codec (debugLevelEnv.overwrite {}) debugLevelEnv =
      .ok (debugLevelEnv.overwrite {}) ∧
    reload Toml.codec (debugLevelEnv.overwrite {}) [] = .ok (debugLevelEnv.overwrite {}) := by
  have hload : loadText Toml.codec "" debugLevelEnv = .ok (debugLevelEnv.overwrite {}) := rfl
  have hfits : (debugLevelEnv.overwrite {}).Fits := by decide
  have hdoc : ∀ rows, (debugLevelEnv.overwrite {}).toTable = .ok rows →
      Toml.codec.read (Toml.codec.write rows) = some rows := by
    intro rows hrows
    cases hrows
    decide +kernel
  obtain ⟨hsame, hempty⟩ := (reload_of_loaded hload).2 hfits hdoc
  exact ⟨hload, hsame, hempty⟩

/-- The longest reopening interval. -/
def longestIntervalEnv : Environment :=
  [("UART_MCP_SERIAL_RECONNECT_INTERVAL_MS", "18446744073709551615")]

/-- The environment may set a reopening interval of `2 ^ 64 - 1` milliseconds, which loads but
cannot be saved. -/
theorem longest_interval_loads_but_cannot_be_saved :
    loadText Toml.codec "" longestIntervalEnv = .ok (longestIntervalEnv.overwrite {}) ∧
    (longestIntervalEnv.overwrite {}).serial.reconnectIntervalMs = 2 ^ 64 - 1 ∧
    reload Toml.codec (longestIntervalEnv.overwrite {}) [] = .error .encode :=
  ⟨rfl, by decide, rfl⟩

end SerialHub.Settings
