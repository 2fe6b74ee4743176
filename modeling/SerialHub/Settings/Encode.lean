import SerialHub.Settings.Config
import SerialHub.Settings.Error
import SerialHub.Toml.Value

/-!
# Writing a configuration as a table

A configuration is written as a table with one table per section, every setting under its own
key, in the order of its section. The blacklist file is left out when there is none. A file's
integers are 64-bit signed integers, so an unsigned setting above the largest of them cannot be
written, and the configuration cannot be encoded at all.
-/

namespace SerialHub.Settings

open SerialHub.Toml

/-- An unsigned setting as an integer value, if it fits. -/
def unsignedValue (n : Nat) : Except ConfigError Value :=
  if (n : Int) ≤ maxInteger then .ok (.integer n) else .error .encode

/-- The serial section as a table. -/
def SerialSettings.toTable (s : SerialSettings) : Except ConfigError (List (String × Value)) := do
  let reconnect ← unsignedValue s.reconnectIntervalMs
  let shutdown ← unsignedValue s.shutdownTimeoutMs
  pure ([("baudrate", .integer s.baudrate), ("byte_size", .integer s.byteSize),
    ("parity", .string s.parity), ("stop_bits", .float s.stopBits),
    ("flow_control", .string s.flowControl), ("read_timeout_ms", .integer s.readTimeoutMs),
    ("write_timeout_ms", .integer s.writeTimeoutMs), ("auto_reconnect", .boolean s.autoReconnect),
    ("reconnect_interval_ms", reconnect), ("shutdown_timeout_ms", shutdown),
    ("blacklist", .array (s.blacklist.map .string))] ++
    (match s.blacklistFile with
      | some f => [("blacklist_file", .string f)]
      | none => []) ++
    [("port_aliases", .table (s.portAliases.map fun (k, v) => (k, .string v)))])

/-- The terminal section as a table. -/
def TerminalSettings.toTable (t : TerminalSettings) :
    Except ConfigError (List (String × Value)) := do
  let bufferSize ← unsignedValue t.bufferSize
  let readInterval ← unsignedValue t.readIntervalMs
  let readTimeout ← unsignedValue t.readTimeoutMs
  let stopTimeout ← unsignedValue t.stopTimeoutMs
  pure [("line_ending", .string t.lineEnding), ("local_echo", .boolean t.localEcho),
    ("buffer_size", bufferSize), ("read_interval_ms", readInterval),
    ("read_timeout_ms", readTimeout), ("stop_timeout_ms", stopTimeout)]

/-- The logging section as a table. -/
def LoggingConfig.toTable (l : LoggingConfig) : List (String × Value) :=
  [("level", .string l.level), ("format", .string l.format.name)]

/-- A configuration as a table, if every setting fits. -/
def Config.toTable (c : Config) : Except ConfigError (List (String × Value)) := do
  let serial ← c.serial.toTable
  let terminal ← c.terminal.toTable
  pure [("serial", .table serial), ("terminal", .table terminal),
    ("logging", .table c.logging.toTable)]

end SerialHub.Settings
