import SerialHub.Settings.Config
import SerialHub.Text.Blank
import SerialHub.Text.Case
import SerialHub.Text.Integer

/-!
# Environment overrides

Twelve variables named `UART_MCP_…` override settings of a configuration, one after another in a
fixed order, each changing only its own setting; the first that holds a refused value stops the
run with an error naming it and quoting its value, and what was applied before stays. Numbers are
trimmed, booleans are `true` in any ASCII case or `1`, the blacklist's comma-separated entries are
appended, and the log format must name a format in any ASCII case.
-/

namespace SerialHub.Settings

/-- Environment variables by name. -/
abbrev Environment := List (String × String)

/-- The full name of an overriding variable. -/
def variableName (key : String) : String := "UART_MCP_" ++ key

/-- The value of an overriding variable, if it is set. -/
def Environment.get? (env : Environment) (key : String) : Option String :=
  env.lookup (variableName key)

/-- One override: the variable it reads, without the prefix, and what the variable's value does
to a configuration when the variable is set: it changes the configuration, or it is refused. -/
structure Override where
  key : String
  apply : String → Config → Except ConfigError Config

/-- Runs an override under an environment: a variable that is not set changes nothing. -/
def Override.run (o : Override) (env : Environment) (c : Config) : Except ConfigError Config :=
  match env.get? o.key with
  | some raw => o.apply raw c
  | none => .ok c

/-- Reads a boolean value: `true` in any mix of ASCII case, or `1`. -/
def readFlag (raw : String) : Bool :=
  Text.asciiLower raw == "true" || raw == "1"

/-- A setting of a configuration as the place an override writes: its value, and the
configuration with the value replaced. Writing back the value it holds changes nothing. -/
structure ConfigField (α : Type) where
  get : Config → α
  set : α → Config → Config
  set_get : ∀ c, set (get c) c = c

/-- An override by a numeric variable, read after trimming with a reader of its type; a value
that cannot be read is refused, naming what was expected. -/
def numberOverride {α : Type} (read : String → Option α) (key expected : String)
    (field : ConfigField α) : Override where
  key := key
  apply raw c :=
    match read (Text.trim raw) with
    | some v => .ok (field.set v c)
    | none => .error (.env (variableName key) raw expected)

/-- An override by a variable taken as given. -/
def textOverride (key : String) (field : ConfigField String) : Override where
  key := key
  apply raw c := .ok (field.set raw c)

/-- An override by a boolean variable. -/
def flagOverride (key : String) (field : ConfigField Bool) : Override where
  key := key
  apply raw c := .ok (field.set (readFlag raw) c)

/-- The entries of a comma-separated list: each part trimmed, empty parts dropped. -/
def listEntries (raw : String) : List String :=
  ((raw.splitOn ",").map Text.trim).filter (!·.isEmpty)

/-- The override of the blacklist, which appends. -/
def blacklistOverride : Override where
  key := "SERIAL_BLACKLIST"
  apply raw c :=
    .ok { c with serial := { c.serial with blacklist := c.serial.blacklist ++ listEntries raw } }

/-- The override of the log format. -/
def logFormatOverride : Override where
  key := "LOGGING_FORMAT"
  apply raw c :=
    match LogFormat.ofName? (Text.asciiLower raw) with
    | some f => .ok { c with logging := { c.logging with format := f } }
    | none => .error (.env (variableName "LOGGING_FORMAT") raw "json, pretty or compact")

/-- Every override, in the order they are applied. -/
def overrides : List Override := [
  numberOverride (Text.readUnsigned? 32) "SERIAL_BAUDRATE" "a baud rate"
    ⟨(·.serial.baudrate), fun n c => { c with serial := { c.serial with baudrate := n } },
      fun _ => rfl⟩,
  textOverride "SERIAL_PARITY"
    ⟨(·.serial.parity), fun v c => { c with serial := { c.serial with parity := v } },
      fun _ => rfl⟩,
  numberOverride (Text.readSigned? 64) "SERIAL_READ_TIMEOUT_MS" "milliseconds"
    ⟨(·.serial.readTimeoutMs),
      fun n c => { c with serial := { c.serial with readTimeoutMs := n } }, fun _ => rfl⟩,
  numberOverride (Text.readSigned? 64) "SERIAL_WRITE_TIMEOUT_MS" "milliseconds"
    ⟨(·.serial.writeTimeoutMs),
      fun n c => { c with serial := { c.serial with writeTimeoutMs := n } }, fun _ => rfl⟩,
  flagOverride "SERIAL_AUTO_RECONNECT"
    ⟨(·.serial.autoReconnect),
      fun b c => { c with serial := { c.serial with autoReconnect := b } }, fun _ => rfl⟩,
  numberOverride (Text.readUnsigned? 64) "SERIAL_RECONNECT_INTERVAL_MS" "milliseconds"
    ⟨(·.serial.reconnectIntervalMs),
      fun n c => { c with serial := { c.serial with reconnectIntervalMs := n } }, fun _ => rfl⟩,
  blacklistOverride,
  textOverride "TERMINAL_LINE_ENDING"
    ⟨(·.terminal.lineEnding),
      fun v c => { c with terminal := { c.terminal with lineEnding := v } }, fun _ => rfl⟩,
  flagOverride "TERMINAL_LOCAL_ECHO"
    ⟨(·.terminal.localEcho),
      fun b c => { c with terminal := { c.terminal with localEcho := b } }, fun _ => rfl⟩,
  numberOverride (Text.readUnsigned? 64) "TERMINAL_BUFFER_SIZE" "a byte count"
    ⟨(·.terminal.bufferSize),
      fun n c => { c with terminal := { c.terminal with bufferSize := n } }, fun _ => rfl⟩,
  textOverride "LOGGING_LEVEL"
    ⟨(·.logging.level), fun v c => { c with logging := { c.logging with level := v } },
      fun _ => rfl⟩,
  logFormatOverride]

/-- Applies overrides in order, up to the first that fails: the configuration reached, and the
failure if there was one. -/
def applyOverrides (env : Environment) : List Override → Config → Config × Option ConfigError
  | [], c => (c, none)
  | o :: rest, c =>
    match o.run env c with
    | .ok c' => applyOverrides env rest c'
    | .error e => (c, some e)

/-- Applies every override of an environment to a configuration. -/
def applyEnvironment (env : Environment) (c : Config) : Config × Option ConfigError :=
  applyOverrides env overrides c

end SerialHub.Settings
