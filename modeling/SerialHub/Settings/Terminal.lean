import SerialHub.Terminal.Console
import SerialHub.Settings.Error

/-!
# The terminal section of a configuration

The terminal section holds what new terminal sessions start with, the line ending as a raw
name, and the timing of a session's reader. Turning it into a session configuration reads the
line ending first, and then refuses an empty buffer.
-/

namespace SerialHub.Settings

open SerialHub.Terminal

/-- The terminal section. -/
structure TerminalSettings where
  lineEnding : String := "CRLF"
  localEcho : Bool := false
  bufferSize : Nat := 65536
  readIntervalMs : Nat := 50
  readTimeoutMs : Nat := 50
  stopTimeoutMs : Nat := 2000
  deriving Repr, DecidableEq, Inhabited

/-- The timing of a session's reader, in milliseconds. -/
structure TerminalOptions where
  readIntervalMs : Nat
  readTimeoutMs : Nat
  stopTimeoutMs : Nat
  deriving Repr, DecidableEq, Inhabited

namespace TerminalSettings

/-- The configuration new sessions start with, checked. -/
def sessionConfig (t : TerminalSettings) : Except ConfigError SessionConfig :=
  match LineEnding.parse t.lineEnding with
  | .error e => .error (.invalid "terminal.line_ending" e.message)
  | .ok le =>
    if t.bufferSize == 0 then .error (.invalid "terminal.buffer_size" "must be greater than 0")
    else .ok ⟨le, t.localEcho, t.bufferSize⟩

/-- The timing of a session's reader. -/
def options (t : TerminalSettings) : TerminalOptions :=
  ⟨t.readIntervalMs, t.readTimeoutMs, t.stopTimeoutMs⟩

end TerminalSettings

end SerialHub.Settings
