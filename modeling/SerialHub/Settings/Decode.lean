import SerialHub.Settings.Config
import SerialHub.Toml.Value
import SerialHub.Toml.Datetime
import SerialHub.Decimal.Nearest
import SerialHub.Keyed

/-!
# Reading a configuration from a table

A configuration file's table is read section by section and setting by setting: a value of the
wrong type, or an integer out of its setting's range, makes the whole file unreadable, keys no
setting uses are ignored, and settings not given keep their defaults. A section may also be an
array, whose items set its settings in order, and a date-time counts as a table of one unused key.
-/

namespace SerialHub.Settings

open SerialHub.Toml

/-- Reads one setting from a value into a section, or nothing when the value does not fit. -/
abbrev Field (σ : Type) := Value → σ → Option σ

/-- An unsigned integer of `bits` bits. -/
def unsignedOf (bits : Nat) : Value → Option Nat
  | .integer n => if 0 ≤ n ∧ n < Int.pow 2 bits then some n.toNat else none
  | _ => none

/-- A 64-bit signed integer. -/
def integerOf : Value → Option Int
  | .integer n => some n
  | _ => none

/-- A float, an integer being taken as the float nearest to it. -/
def floatOf : Value → Option Float
  | .float x => some x
  | .integer n => some (Decimal.nearest (n < 0) n.natAbs 0)
  | _ => none

/-- A text. -/
def textOf : Value → Option String
  | .string s => some s
  | _ => none

/-- A boolean. -/
def boolOf : Value → Option Bool
  | .boolean b => some b
  | _ => none

/-- A list of texts. -/
def textsOf : Value → Option (List String)
  | .array vs => vs.mapM textOf
  | _ => none

/-- The key under which a date-time appears when a table of texts is read from it. -/
def datetimeKey : String := "$__toml_private_datetime"

/-- A table of texts by key. -/
def aliasesOf : Value → Option (List (String × String))
  | .table es =>
    (es.mapM fun (kv : String × Value) => (textOf kv.2).map (kv.1, ·)).map
      (fun (kvs : List (String × String)) => kvs.foldl (fun acc (k, v) => Keyed.insert k v acc) [])
  | .datetime d => some [(datetimeKey, d.text)]
  | _ => none

/-- Whether a value is an empty table or an empty array. -/
def isEmptyUnit : Value → Bool
  | .table [] => true
  | .array [] => true
  | _ => false

/-- A log format. -/
def logFormatOf : Value → Option LogFormat
  | .string s => LogFormat.ofName? s
  | .table [(k, v)] => if isEmptyUnit v then LogFormat.ofName? k else none
  | _ => none

/-- A section read from a value by its fields, starting from its default. -/
def sectionOf {σ : Type} (fields : List (String × Field σ)) (default : σ) : Value → Option σ
  | .table es =>
    es.foldlM (fun s (k, v) =>
      match fields.lookup k with
      | some f => f v s
      | none => some s) default
  | .array vs => (fields.zip vs).foldlM (fun s ((_, f), v) => f v s) default
  | .datetime _ => some default
  | _ => none

/-- The settings of the serial section, in their order. -/
def serialFields : List (String × Field SerialSettings) := [
  ("baudrate", fun v s => (unsignedOf 32 v).map fun n => { s with baudrate := n }),
  ("byte_size", fun v s => (unsignedOf 8 v).map fun n => { s with byteSize := n }),
  ("parity", fun v s => (textOf v).map fun t => { s with parity := t }),
  ("stop_bits", fun v s => (floatOf v).map fun x => { s with stopBits := x }),
  ("flow_control", fun v s => (textOf v).map fun t => { s with flowControl := t }),
  ("read_timeout_ms", fun v s => (integerOf v).map fun n => { s with readTimeoutMs := n }),
  ("write_timeout_ms", fun v s => (integerOf v).map fun n => { s with writeTimeoutMs := n }),
  ("auto_reconnect", fun v s => (boolOf v).map fun b => { s with autoReconnect := b }),
  ("reconnect_interval_ms", fun v s =>
    (unsignedOf 64 v).map fun n => { s with reconnectIntervalMs := n }),
  ("shutdown_timeout_ms", fun v s =>
    (unsignedOf 64 v).map fun n => { s with shutdownTimeoutMs := n }),
  ("blacklist", fun v s => (textsOf v).map fun l => { s with blacklist := l }),
  ("blacklist_file", fun v s => (textOf v).map fun t => { s with blacklistFile := some t }),
  ("port_aliases", fun v s => (aliasesOf v).map fun a => { s with portAliases := a })]

/-- The settings of the terminal section, in their order. -/
def terminalFields : List (String × Field TerminalSettings) := [
  ("line_ending", fun v s => (textOf v).map fun t => { s with lineEnding := t }),
  ("local_echo", fun v s => (boolOf v).map fun b => { s with localEcho := b }),
  ("buffer_size", fun v s => (unsignedOf 64 v).map fun n => { s with bufferSize := n }),
  ("read_interval_ms", fun v s => (unsignedOf 64 v).map fun n => { s with readIntervalMs := n }),
  ("read_timeout_ms", fun v s => (unsignedOf 64 v).map fun n => { s with readTimeoutMs := n }),
  ("stop_timeout_ms", fun v s => (unsignedOf 64 v).map fun n => { s with stopTimeoutMs := n })]

/-- The settings of the logging section, in their order. -/
def loggingFields : List (String × Field LoggingConfig) := [
  ("level", fun v s => (textOf v).map fun t => { s with level := t }),
  ("format", fun v s => (logFormatOf v).map fun f => { s with format := f })]

/-- The sections of a configuration, in their order. -/
def configFields : List (String × Field Config) := [
  ("serial", fun v c => (sectionOf serialFields {} v).map fun s => { c with serial := s }),
  ("terminal", fun v c => (sectionOf terminalFields {} v).map fun s => { c with terminal := s }),
  ("logging", fun v c => (sectionOf loggingFields {} v).map fun s => { c with logging := s })]

/-- The configuration a file's table describes, or nothing when a setting does not fit. -/
def Config.ofTable? (root : List (String × Value)) : Option Config :=
  sectionOf configFields {} (.table root)

end SerialHub.Settings
