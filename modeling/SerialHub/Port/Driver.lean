import SerialHub.Line.Config
import SerialHub.Port.Error

/-!
# Settings a platform driver can take

A platform serial driver knows fewer settings than a line configuration can hold: it has no
mark or space parity and no one-and-a-half stop bits. Handing it a configuration translates each
setting, and a setting it lacks is a configuration error of the port naming what is missing.
-/

namespace SerialHub.Port

open SerialHub.Line

/-- Character sizes of a platform driver. -/
inductive DriverDataBits where
  | five
  | six
  | seven
  | eight
  deriving Repr, DecidableEq

/-- Parities of a platform driver. -/
inductive DriverParity where
  | none
  | odd
  | even
  deriving Repr, DecidableEq

/-- Stop-bit counts of a platform driver. -/
inductive DriverStopBits where
  | one
  | two
  deriving Repr, DecidableEq

/-- Flow controls of a platform driver. -/
inductive DriverFlowControl where
  | none
  | software
  | hardware
  deriving Repr, DecidableEq

/-- The driver's name of a character size. -/
def DriverDataBits.name : DriverDataBits → String
  | .five => "Five"
  | .six => "Six"
  | .seven => "Seven"
  | .eight => "Eight"

/-- The driver's name of a parity. -/
def DriverParity.name : DriverParity → String
  | .none => "None"
  | .odd => "Odd"
  | .even => "Even"

/-- The driver's name of a stop-bit count. -/
def DriverStopBits.name : DriverStopBits → String
  | .one => "One"
  | .two => "Two"

/-- The driver's name of a flow control. -/
def DriverFlowControl.name : DriverFlowControl → String
  | .none => "None"
  | .software => "Software"
  | .hardware => "Hardware"

/-- A character size for the driver; every size has one. -/
def DataBits.toDriver : DataBits → Except PortError DriverDataBits
  | .five => .ok .five
  | .six => .ok .six
  | .seven => .ok .seven
  | .eight => .ok .eight

/-- A parity for the driver; mark and space have none. -/
def Parity.toDriver : Parity → Except PortError DriverParity
  | .none => .ok .none
  | .odd => .ok .odd
  | .even => .ok .even
  | p => .error (.config ("parity " ++ p.letter ++ " is not supported by this platform backend"))

/-- A stop-bit count for the driver; one and a half has none. -/
def StopBits.toDriver : StopBits → Except PortError DriverStopBits
  | .one => .ok .one
  | .two => .ok .two
  | .onePointFive => .error (.config "1.5 stop bits are not supported by this platform backend")

/-- A flow control for the driver; every flow control has one. -/
def FlowControl.toDriver : FlowControl → Except PortError DriverFlowControl
  | .none => .ok .none
  | .software => .ok .software
  | .hardware => .ok .hardware

end SerialHub.Port
