import SerialHub.Error
import SerialHub.Text.Case

/-!
# Errors of a port backend

A backend reports its failures as port errors, of which only the I/O errors "timed out" and "would
block" are timeouts. Opening a port turns a port error into a connection error by its structured
cause where there is one, and otherwise by the keywords of its lowercased message, in a fixed
order: a missing device, a refused permission, a busy device, and else a failed open.
-/

namespace SerialHub.Port

/-- The kind of an I/O error. -/
inductive IoKind where
  | notFound
  | permissionDenied
  | timedOut
  | wouldBlock
  | brokenPipe
  | addrInUse
  | invalidInput
  | interrupted
  | unexpectedEof
  | other
  deriving Repr, DecidableEq, Inhabited

/-- The kind of an error of the platform driver. -/
inductive DriverFault where
  | noDevice
  | invalidInput
  | unknown
  | io (kind : IoKind)
  deriving Repr, DecidableEq, Inhabited

/-- A failure reported by a port backend. -/
inductive PortError where
  | notFound (port : String)
  | io (kind : IoKind) (message : String)
  | config (message : String)
  | notOpen
  | disconnected (port : String)
  | driver (fault : DriverFault) (description : String)
  deriving Repr, DecidableEq, Inhabited

namespace PortError

/-- The stable name of a port error. -/
def name : PortError → String
  | .notFound _ => "NotFound"
  | .io _ _ => "Io"
  | .config _ => "Config"
  | .notOpen => "NotOpen"
  | .disconnected _ => "Disconnected"
  | .driver _ _ => "Serial"

/-- The message of a port error. -/
def message : PortError → String
  | .notFound port => "Serial port not found: " ++ port
  | .io _ msg => "I/O error: " ++ msg
  | .config msg => "Configuration error: " ++ msg
  | .notOpen => "Port is not open"
  | .disconnected port => "Device disconnected: " ++ port
  | .driver _ description => "Serial port error: " ++ description

/-- Whether a port error only says that no data came in time. -/
def isTimeout : PortError → Bool
  | .io .timedOut _ => true
  | .io .wouldBlock _ => true
  | _ => false

end PortError

/-- The connection error that a failed open with a given description stands for, found by
keywords in the lowercased description. -/
def classifyText (port description : String) : SerialError :=
  if Text.mentions description "no such file" || Text.mentions description "not found" then
    .portNotFound port
  else if Text.mentions description "permission" || Text.mentions description "access" then
    .permissionDenied port
  else if Text.mentions description "busy" || Text.mentions description "in use" then
    .portBusy port
  else
    .portOpenFailed port description

/-- The connection error that a failed open stands for. -/
def classifyOpenFailure (port : String) : PortError → SerialError
  | .notFound _ => .portNotFound port
  | .io .notFound _ => .portNotFound port
  | .io .permissionDenied _ => .permissionDenied port
  | .config msg => .portOpenFailed port msg
  | e => classifyText port e.message

end SerialHub.Port
