import SerialHub.Line.Config
import SerialHub.Error
import SerialHub.Decimal.Shortest

/-!
# Partial line settings

A caller asks for a line configuration by naming only the settings it wants changed, as raw
values: numbers and texts as they were given. Applying such overrides to a base configuration
checks every named setting, in the fixed order baudrate, byte size, parity, stop bits, flow
control, read timeout, write timeout, and fails on the first one that is not accepted, naming
it with its value as given and the values it may take. Settings not named keep the base's
value, and the base itself is never checked.
-/

namespace SerialHub.Line

/-- Raw values for some of the settings of a line. -/
structure Overrides where
  baudrate : Option Nat := none
  byteSize : Option Nat := none
  parity : Option String := none
  stopBits : Option Float := none
  flowControl : Option String := none
  readTimeoutMs : Option Int := none
  writeTimeoutMs : Option Int := none
  deriving Inhabited

/-- Whether no setting is named. -/
def Overrides.isEmpty (o : Overrides) : Bool :=
  o.baudrate.isNone && o.byteSize.isNone && o.parity.isNone && o.stopBits.isNone &&
    o.flowControl.isNone && o.readTimeoutMs.isNone && o.writeTimeoutMs.isNone

/-- The settings named by either of two overrides, the second winning where both name one. -/
def Overrides.merge (first second : Overrides) : Overrides where
  baudrate := second.baudrate <|> first.baudrate
  byteSize := second.byteSize <|> first.byteSize
  parity := second.parity <|> first.parity
  stopBits := second.stopBits <|> first.stopBits
  flowControl := second.flowControl <|> first.flowControl
  readTimeoutMs := second.readTimeoutMs <|> first.readTimeoutMs
  writeTimeoutMs := second.writeTimeoutMs <|> first.writeTimeoutMs

/-- The values a setting may take, as its refusals state them. -/
def supportedText (values : List String) : String :=
  "supported values: [" ++ ", ".intercalate values ++ "]"

/-- The refusal of a speed. -/
def baudrateError (n : Nat) : SerialError :=
  .invalidParam "baudrate" (toString n) (supportedText (supportedBaudrates.map toString))

/-- The refusal of a character size. -/
def byteSizeError (n : Nat) : SerialError :=
  .invalidParam "byte_size" (toString n) (supportedText ["5", "6", "7", "8"])

/-- The refusal of a parity text. -/
def parityError (s : String) : SerialError :=
  .invalidParam "parity" s (supportedText ["\"N\"", "\"E\"", "\"O\"", "\"M\"", "\"S\""])

/-- The refusal of a stop-bit count. -/
def stopBitsError (x : Float) : SerialError :=
  .invalidParam "stop_bits" (Decimal.display x) (supportedText ["1", "1.5", "2"])

/-- The refusal of a flow-control text. -/
def flowControlError (s : String) : SerialError :=
  .invalidParam "flow_control" s (supportedText ["\"none\"", "\"hardware\"", "\"software\""])

/-- The refusal of a timeout outside `0` to `60000` milliseconds. -/
def timeoutError (param : String) (n : Int) : SerialError :=
  .invalidParam param (toString n) ("range: 0-" ++ toString maxTimeoutMs)

/-- Reads a speed: one of the supported rates. -/
def readBaudrate (n : Nat) : Except SerialError Nat :=
  if n ∈ supportedBaudrates then .ok n else .error (baudrateError n)

/-- Reads a character size: 5 to 8 bits. -/
def readByteSize (n : Nat) : Except SerialError DataBits :=
  match DataBits.ofNat? n with
  | some d => .ok d
  | none => .error (byteSizeError n)

/-- Reads a parity text. -/
def readParity (s : String) : Except SerialError Parity :=
  match Parity.parse? s with
  | some p => .ok p
  | none => .error (parityError s)

/-- Reads a stop-bit count. -/
def readStopBits (x : Float) : Except SerialError StopBits :=
  match StopBits.ofFloat? x with
  | some b => .ok b
  | none => .error (stopBitsError x)

/-- Reads a flow-control text. -/
def readFlowControl (s : String) : Except SerialError FlowControl :=
  match FlowControl.parse? s with
  | some f => .ok f
  | none => .error (flowControlError s)

/-- Reads a timeout in milliseconds: `0` to `60000`. -/
def readTimeout (param : String) (n : Int) : Except SerialError Nat :=
  if 0 ≤ n ∧ n ≤ maxTimeoutMs then .ok n.toNat else .error (timeoutError param n)

/-- Reads an optional raw value, keeping the base value when it is absent. -/
def readOr {α β : Type} (read : α → Except SerialError β) (base : β) :
    Option α → Except SerialError β
  | none => .ok base
  | some a => read a

/-- Applies overrides to a base configuration, checking the named settings in order. -/
def Overrides.apply (o : Overrides) (base : LineConfig) : Except SerialError LineConfig := do
  let baudrate ← readOr readBaudrate base.baudrate o.baudrate
  let dataBits ← readOr readByteSize base.dataBits o.byteSize
  let parity ← readOr readParity base.parity o.parity
  let stopBits ← readOr readStopBits base.stopBits o.stopBits
  let flowControl ← readOr readFlowControl base.flowControl o.flowControl
  let readTimeoutMs ← readOr (readTimeout "read_timeout_ms") base.readTimeoutMs o.readTimeoutMs
  let writeTimeoutMs ← readOr (readTimeout "write_timeout_ms") base.writeTimeoutMs o.writeTimeoutMs
  pure ⟨baudrate, dataBits, parity, stopBits, flowControl, readTimeoutMs, writeTimeoutMs⟩

end SerialHub.Line
