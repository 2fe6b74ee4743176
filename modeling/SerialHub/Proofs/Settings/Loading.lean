import SerialHub.Proofs.Settings.Overriding
import SerialHub.Settings.Loader
import SerialHub.Toml.Write

/-!
# Loading a file under an environment

Six overriding variables can hold a refused value: the five numeric ones when their trimmed value
is no integer of their type, and the log format when, lowered, it names no format. A text that
describes a configuration, read by any TOML library, fails to load with the refusal of the first
of them that holds one, quoting its value as given; otherwise every variable that is set
overwrites its own setting. Main statement: `loadText_refuses_first_or_overwrites`.
-/

namespace SerialHub.Settings

/-! ## The checked variables -/

/-- A variable whose value may be refused: its key, the values refused, and what a refusal says
was expected. -/
structure Check where
  key : String
  refuses : String → Bool
  expected : String

/-- The refusal a check makes under an environment: its variable is set to a refused value,
which the refusal quotes as given. -/
def Check.refusal? (ch : Check) (env : Environment) : Option ConfigError :=
  match env.get? ch.key with
  | some raw => if ch.refuses raw then some (.env (variableName ch.key) raw ch.expected) else none
  | none => none

/-- A numeric variable refuses a value whose trimmed text does not read as its type. -/
def numberCheck {α : Type} (read : String → Option α) (key expected : String) : Check :=
  ⟨key, fun raw => (read (Text.trim raw)).isNone, expected⟩

/-- The log format refuses a value that, with its ASCII letters lowered, names no format. -/
def logFormatCheck : Check :=
  ⟨"LOGGING_FORMAT", fun raw => Text.asciiLower raw ∉ ["json", "pretty", "compact"],
    "json, pretty or compact"⟩

/-- The checked variables, in the order they are read. -/
def checks : List Check := [
  numberCheck (Text.readUnsigned? 32) "SERIAL_BAUDRATE" "a baud rate",
  numberCheck (Text.readSigned? 64) "SERIAL_READ_TIMEOUT_MS" "milliseconds",
  numberCheck (Text.readSigned? 64) "SERIAL_WRITE_TIMEOUT_MS" "milliseconds",
  numberCheck (Text.readUnsigned? 64) "SERIAL_RECONNECT_INTERVAL_MS" "milliseconds",
  numberCheck (Text.readUnsigned? 64) "TERMINAL_BUFFER_SIZE" "a byte count",
  logFormatCheck]

/-- The refusal of the first checked variable that holds a refused value. -/
def Environment.firstRefusal (env : Environment) : Option ConfigError :=
  checks.findSome? (·.refusal? env)

theorem LogFormat.ofName?_eq_none_iff (s : String) :
    LogFormat.ofName? s = none ↔ s ∉ ["json", "pretty", "compact"] := by
  unfold LogFormat.ofName?
  split <;> simp_all

variable {env : Environment} {c c' : Config}

/-! ## The refusal of one override -/

/-- What an override refuses under an environment on a configuration, if it refuses. -/
def Override.refusal (o : Override) (env : Environment) (c : Config) : Option ConfigError :=
  match o.run env c with
  | .ok _ => none
  | .error e => some e

namespace Override

variable {o : Override}

theorem refusal_of_ok (h : o.run env c = .ok c') : o.refusal env c = none := by
  simp [refusal, h]

theorem refusal_of_error {e : ConfigError} (h : o.run env c = .error e) :
    o.refusal env c = some e := by
  simp [refusal, h]

/-- An override that takes every value refuses nothing. -/
theorem refusal_of_takes_all (h : ∀ raw c, ∃ c', o.apply raw c = .ok c') (c : Config) :
    o.refusal env c = none := by
  cases hv : env.get? o.key with
  | none => exact refusal_of_ok (run_of_unset hv c)
  | some raw =>
    obtain ⟨c', hok⟩ := h raw c
    exact refusal_of_ok ((run_of_set hv c).trans hok)

end Override

section Kinds

variable {α : Type}

theorem numberOverride_refusal (read : String → Option α) (key expected : String)
    (field : ConfigField α) (c : Config) :
    (numberOverride read key expected field).refusal env c =
      (numberCheck read key expected).refusal? env := by
  simp only [Override.refusal, Override.run, Check.refusal?, numberOverride, numberCheck]
  cases env.get? key with
  | none => rfl
  | some raw => cases hr : read (Text.trim raw) <;> simp [hr]

theorem textOverride_refusal (key : String) (field : ConfigField String) (c : Config) :
    (textOverride key field).refusal env c = none :=
  Override.refusal_of_takes_all (fun _ _ => ⟨_, rfl⟩) c

theorem flagOverride_refusal (key : String) (field : ConfigField Bool) (c : Config) :
    (flagOverride key field).refusal env c = none :=
  Override.refusal_of_takes_all (fun _ _ => ⟨_, rfl⟩) c

theorem blacklistOverride_refusal (c : Config) : blacklistOverride.refusal env c = none :=
  Override.refusal_of_takes_all (fun _ _ => ⟨_, rfl⟩) c

theorem logFormatOverride_refusal (c : Config) :
    logFormatOverride.refusal env c = logFormatCheck.refusal? env := by
  simp only [Override.refusal, Override.run, Check.refusal?, logFormatOverride, logFormatCheck]
  cases env.get? "LOGGING_FORMAT" with
  | none => rfl
  | some raw =>
    cases hf : LogFormat.ofName? (Text.asciiLower raw) with
    | none => simp [hf, (LogFormat.ofName?_eq_none_iff _).mp hf]
    | some f =>
      have hnamed : Text.asciiLower raw ∈ ["json", "pretty", "compact"] := by
        by_contra hn
        rw [(LogFormat.ofName?_eq_none_iff _).mpr hn] at hf
        cases hf
      simp [hf, hnamed]

end Kinds

/-! ## Runs of overrides -/

/-- A run of overrides that refuse by value refuses with the first refusal among its overrides. -/
theorem applyOverrides_refusal {os : List Override} (hos : ∀ o ∈ os, o.RefusesByValue)
    (c : Config) : (applyOverrides env os c).2 = os.findSome? fun o => o.refusal env c := by
  induction os generalizing c with
  | nil => rfl
  | cons o os ih =>
    have hrest : ∀ o' ∈ os, o'.RefusesByValue := fun o' ho' => hos o' (by simp [ho'])
    cases hr : o.run env c with
    | ok c₁ =>
      -- the rest runs from `c₁`, but what it refuses does not depend on where it starts
      rw [applyOverrides_cons_of_ok hr, applyOverrides_refusal_eq hrest c₁ c, ih hrest c,
        List.findSome?_cons, Override.refusal_of_ok hr]
    | error e =>
      rw [applyOverrides_cons_of_error hr, List.findSome?_cons, Override.refusal_of_error hr]

/-- An environment refuses with its first checked variable that holds a refused value, whatever
the configuration. -/
theorem applyEnvironment_refusal (env : Environment) (c : Config) :
    (applyEnvironment env c).2 = env.firstRefusal := by
  rw [applyEnvironment, applyOverrides_refusal overrides_refuse_by_value]
  simp only [overrides, checks, Environment.firstRefusal, List.findSome?_cons,
    List.findSome?_nil, numberOverride_refusal, textOverride_refusal, flagOverride_refusal,
    blacklistOverride_refusal, logFormatOverride_refusal]

/-! ## Loading -/

/-- A text that a TOML library reads as a table describing a configuration loads under an
environment as follows: when a checked variable holds a refused value, loading fails with the
refusal of the first such variable, which names it and quotes its value as given; otherwise every
variable that is set overwrites its own setting. -/
theorem loadText_refuses_first_or_overwrites {toml : Toml.Codec} {text : String}
    (h : (toml.read text >>= Config.ofTable?) = some c) (env : Environment) :
    loadText toml text env = match env.firstRefusal with
      | some e => .error e
      | none => .ok (env.overwrite c) := by
  have hrefusal := applyEnvironment_refusal env c
  rcases happly : applyEnvironment env c with ⟨c', _ | e⟩ <;> rw [happly] at hrefusal
  · -- nothing refused: the run reached the overwrite
    simp only [loadText, h, happly, ← hrefusal, applyEnvironment_eq_overwrite happly]
  · simp only [loadText, h, happly, ← hrefusal]

/-- A read timeout with a unit, set beside a log format that names no format. -/
def timeoutWithUnitEnv : Environment :=
  [("UART_MCP_LOGGING_FORMAT", "xml"), ("UART_MCP_SERIAL_READ_TIMEOUT_MS", " 250ms ")]

/-- The empty text describes the defaults; under that environment loading it fails on the
timeout, read before the format, and quotes the timeout with its blanks. -/
theorem load_refuses_timeout_before_format :
    (Toml.codec.read "" >>= Config.ofTable?) = some {} ∧
    loadText Toml.codec "" timeoutWithUnitEnv =
      .error (.env "UART_MCP_SERIAL_READ_TIMEOUT_MS" " 250ms " "milliseconds") := by
  have hparse : (Toml.codec.read "" >>= Config.ofTable?) = some {} := rfl
  refine ⟨hparse, ?_⟩
  rw [loadText_refuses_first_or_overwrites hparse]
  rfl

end SerialHub.Settings
