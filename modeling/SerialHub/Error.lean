/-!
# Errors of the connection and terminal layers

Every operation on ports and terminal sessions fails with one of these causes. Each cause has
a stable numeric code, codes from 1001 for ports and from 2001 for sessions, a stable name, and
a message that names the port or session it concerns.
-/

namespace SerialHub

/-- Why a port or terminal operation failed. -/
inductive SerialError where
  | portNotFound (port : String)
  | portBusy (port : String)
  | portOpenFailed (port reason : String)
  | portClosed (port : String)
  | invalidParam (param value reason : String)
  | readFailed (port reason : String)
  | writeFailed (port reason : String)
  | permissionDenied (port : String)
  | portBlacklisted (port : String)
  | sessionExists (session : String)
  | sessionNotFound (session : String)
  | portNotOpen (port : String)
  | sessionClosed (session : String)
  | sendCommandFailed (session reason : String)
  | invalidLineEnding (text : String)
  deriving Repr, DecidableEq, Inhabited

namespace SerialError

/-- The numeric code of a cause. -/
def code : SerialError → Nat
  | .portNotFound _ => 1001
  | .portBusy _ => 1002
  | .portOpenFailed _ _ => 1003
  | .portClosed _ => 1004
  | .invalidParam _ _ _ => 1005
  | .readFailed _ _ => 1006
  | .writeFailed _ _ => 1007
  | .permissionDenied _ => 1008
  | .portBlacklisted _ => 1009
  | .sessionExists _ => 2001
  | .sessionNotFound _ => 2002
  | .portNotOpen _ => 2003
  | .sessionClosed _ => 2004
  | .sendCommandFailed _ _ => 2005
  | .invalidLineEnding _ => 2006

/-- The stable name of a cause. -/
def name : SerialError → String
  | .portNotFound _ => "PortNotFound"
  | .portBusy _ => "PortBusy"
  | .portOpenFailed _ _ => "PortOpenFailed"
  | .portClosed _ => "PortClosed"
  | .invalidParam _ _ _ => "InvalidParam"
  | .readFailed _ _ => "ReadFailed"
  | .writeFailed _ _ => "WriteFailed"
  | .permissionDenied _ => "PermissionDenied"
  | .portBlacklisted _ => "PortBlacklisted"
  | .sessionExists _ => "SessionExists"
  | .sessionNotFound _ => "SessionNotFound"
  | .portNotOpen _ => "PortNotOpen"
  | .sessionClosed _ => "SessionClosed"
  | .sendCommandFailed _ _ => "SendCommandFailed"
  | .invalidLineEnding _ => "InvalidLineEnding"

/-- The message of a cause. -/
def message : SerialError → String
  | .portNotFound port => "Serial port not found: " ++ port
  | .portBusy port => "Serial port is busy: " ++ port
  | .portOpenFailed port reason => "Failed to open serial port " ++ port ++ ": " ++ reason
  | .portClosed port => "Serial port is closed: " ++ port
  | .invalidParam param value reason =>
    "Invalid parameter " ++ param ++ "=" ++ value ++ " (" ++ reason ++ ")"
  | .readFailed port reason => "Read from " ++ port ++ " failed: " ++ reason
  | .writeFailed port reason => "Write to " ++ port ++ " failed: " ++ reason
  | .permissionDenied port => "Permission denied: " ++ port
  | .portBlacklisted port => "Serial port is blacklisted: " ++ port
  | .sessionExists session => "Terminal session already exists: " ++ session
  | .sessionNotFound session => "Terminal session not found: " ++ session
  | .portNotOpen port => "Serial port is not open: " ++ port
  | .sessionClosed session => "Terminal session is closed: " ++ session
  | .sendCommandFailed session reason => "Failed to send command on " ++ session ++ ": " ++ reason
  | .invalidLineEnding text => "Invalid line ending: " ++ text ++ " (supported values: CR, LF, CRLF)"

end SerialError

end SerialHub
