import SerialHub.Line.Config
import SerialHub.Json

/-!
# A line configuration as JSON

A line configuration is written as a JSON object with one key per setting, and read back from an
object holding every setting, other keys ignored, or from an array of the seven in order. Each
setting must have its type and width; nothing else is checked, so any speed and any timeout of the
right width is taken.
-/

namespace SerialHub.Line

/-- The parity named by its wire letter, exactly as written. -/
def Parity.ofLetter? : String → Option Parity
  | "N" => some .none
  | "E" => some .even
  | "O" => some .odd
  | "M" => some .mark
  | "S" => some .space
  | _ => none

/-- A line configuration as a JSON object. -/
def LineConfig.toJson (c : LineConfig) : Json :=
  .object [("baudrate", .number (.posInt c.baudrate)),
    ("byte_size", .number (.posInt c.dataBits.toNat)),
    ("parity", .string c.parity.letter),
    ("stop_bits", Json.ofFloat c.stopBits.toFloat),
    ("flow_control", .string c.flowControl.name),
    ("read_timeout_ms", .number (.posInt c.readTimeoutMs)),
    ("write_timeout_ms", .number (.posInt c.writeTimeoutMs))]

/-- A line configuration from the JSON values of its seven settings, in order. -/
def LineConfig.ofSettings? (baudrate byteSize parity stopBits flowControl readTimeout
    writeTimeout : Json) : Option LineConfig := do
  let b ← baudrate.unsigned? 32
  let d ← byteSize.unsigned? 8 >>= DataBits.ofNat?
  let p ← parity.variant? >>= Parity.ofLetter?
  let s ← stopBits.float? >>= StopBits.ofFloat?
  let f ← flowControl.variant? >>= FlowControl.ofLower?
  let r ← readTimeout.unsigned? 64
  let w ← writeTimeout.unsigned? 64
  pure ⟨b, d, p, s, f, r, w⟩

/-- A line configuration read back from JSON: an object holding every setting, or an array of
the seven settings in order. -/
def LineConfig.ofJson? : Json → Option LineConfig
  | .object fs => do
    LineConfig.ofSettings? (← Json.field? fs "baudrate") (← Json.field? fs "byte_size")
      (← Json.field? fs "parity") (← Json.field? fs "stop_bits")
      (← Json.field? fs "flow_control") (← Json.field? fs "read_timeout_ms")
      (← Json.field? fs "write_timeout_ms")
  | .array [b, d, p, s, f, r, w] => LineConfig.ofSettings? b d p s f r w
  | _ => none

end SerialHub.Line
