import SerialHub.Text.Blank
import SerialHub.Text.Case

/-!
# Line settings

The settings of a serial line: speed, character size, parity, stop bits, flow control and the two
timeouts. Each setting with a fixed set of values is a type with its wire spelling and a reader,
which trims blanks and ignores ASCII case for parity and flow control, and reads stop bits by
exact equality with 1, 1.5 or 2.
-/

namespace SerialHub.Line

/-- The speeds a line can be set to, in baud. -/
def supportedBaudrates : List Nat :=
  [300, 600, 1200, 2400, 4800, 9600, 14400, 19200, 38400, 57600, 115200, 230400, 460800, 921600]

/-- The largest timeout a caller may ask for, in milliseconds. -/
def maxTimeoutMs : Nat := 60000

/-- The number of data bits in a character. -/
inductive DataBits where
  | five
  | six
  | seven
  | eight
  deriving Repr, DecidableEq, Inhabited

/-- The bit count of a character size. -/
def DataBits.toNat : DataBits → Nat
  | .five => 5
  | .six => 6
  | .seven => 7
  | .eight => 8

/-- The character size with a given bit count, if it is one of 5 to 8. -/
def DataBits.ofNat? : Nat → Option DataBits
  | 5 => some .five
  | 6 => some .six
  | 7 => some .seven
  | 8 => some .eight
  | _ => none

/-- The parity bit of a character. -/
inductive Parity where
  | none
  | even
  | odd
  | mark
  | space
  deriving Repr, DecidableEq, Inhabited

/-- The one-letter wire name of a parity. -/
def Parity.letter : Parity → String
  | .none => "N"
  | .even => "E"
  | .odd => "O"
  | .mark => "M"
  | .space => "S"

/-- The parity named by an uppercase letter or word. -/
def Parity.ofUpper? : String → Option Parity
  | "N" | "NONE" => some .none
  | "E" | "EVEN" => some .even
  | "O" | "ODD" => some .odd
  | "M" | "MARK" => some .mark
  | "S" | "SPACE" => some .space
  | _ => Option.none

/-- Reads a parity: blanks around it are dropped and case is ignored for ASCII letters. -/
def Parity.parse? (s : String) : Option Parity :=
  Parity.ofUpper? (Text.asciiUpper (Text.trim s))

/-- The number of stop bits after a character. -/
inductive StopBits where
  | one
  | onePointFive
  | two
  deriving Repr, DecidableEq, Inhabited

/-- The stop-bit count as a float. -/
def StopBits.toFloat : StopBits → Float
  | .one => 1.0
  | .onePointFive => 1.5
  | .two => 2.0

/-- The stop-bit count equal to a float: 1, 1.5 or 2 exactly. Bit patterns are compared, which
for these three values is float equality. -/
def StopBits.ofFloat? (x : Float) : Option StopBits :=
  if x.toBits == (1.0 : Float).toBits then some .one
  else if x.toBits == (1.5 : Float).toBits then some .onePointFive
  else if x.toBits == (2.0 : Float).toBits then some .two
  else none

/-- Handshaking on the line. -/
inductive FlowControl where
  | none
  | hardware
  | software
  deriving Repr, DecidableEq, Inhabited

/-- The lowercase wire name of a flow control. -/
def FlowControl.name : FlowControl → String
  | .none => "none"
  | .hardware => "hardware"
  | .software => "software"

/-- The flow control named by a lowercase word. -/
def FlowControl.ofLower? : String → Option FlowControl
  | "none" => some .none
  | "hardware" => some .hardware
  | "software" => some .software
  | _ => Option.none

/-- Reads a flow control: blanks around it are dropped and case is ignored for ASCII letters. -/
def FlowControl.parse? (s : String) : Option FlowControl :=
  FlowControl.ofLower? (Text.asciiLower (Text.trim s))

/-- A complete line configuration. The speed and timeouts are whatever the configuration was
built with: a configuration read from a caller is not checked against the supported values. -/
structure LineConfig where
  baudrate : Nat
  dataBits : DataBits
  parity : Parity
  stopBits : StopBits
  flowControl : FlowControl
  readTimeoutMs : Nat
  writeTimeoutMs : Nat
  deriving Repr, DecidableEq, Inhabited

/-- The configuration a line gets when nothing else is asked for: 9600 baud, eight data bits,
no parity, one stop bit, no flow control and one second for each timeout. -/
def LineConfig.default : LineConfig :=
  ⟨9600, .eight, .none, .one, .none, 1000, 1000⟩

end SerialHub.Line
