import SerialHub.Line.Config

/-!
# Simulated devices

A simulated serial device holds what a test controls and observes: whether it is plugged in, a
receive queue, a write log, the configurations it was given, counters of opens and closes, and
injected behaviours such as echoing, failing writes or refusing to open. Unplugging empties its
queue and starts a new generation, so a handle opened before stays dead when the device comes back.
-/

namespace SerialHub.Port

open SerialHub.Line

/-- The state of a simulated device. -/
structure Device where
  name : String
  present : Bool := true
  generation : Nat := 0
  echo : Bool := false
  queue : List UInt8 := []
  writeLog : List (List UInt8) := []
  configHistory : List LineConfig := []
  lastReadTimeout : Option Nat := none
  failWrites : Bool := false
  maxWrite : Option Nat := none
  openFailure : Option String := none
  openCount : Nat := 0
  closeCount : Nat := 0
  deriving Repr, DecidableEq, Inhabited

/-- Something a test does to a device directly. -/
inductive DeviceAction where
  /-- Bytes arrive and wait to be read. -/
  | enqueue (bytes : List UInt8)
  /-- Written bytes are, or are no longer, looped back into the receive queue. -/
  | setEcho (on : Bool)
  /-- The device goes away. -/
  | unplug
  /-- The device comes back. -/
  | plug
  /-- Writes start or stop failing. -/
  | setFailWrites (on : Bool)
  /-- Each write accepts at most this many bytes, or any number. -/
  | setMaxWrite (limit : Option Nat)
  /-- Opens start failing with this message, or stop failing. -/
  | setOpenFailure (message : Option String)
  deriving Repr, DecidableEq

namespace Device

/-- A present device with nothing queued, logged or counted. -/
def fresh (name : String) : Device := { name }

/-- How a device describes itself in a port listing. -/
def description (d : Device) : String := "Mock serial device " ++ d.name

/-- The configuration most recently given to the device. -/
def currentConfig (d : Device) : Option LineConfig := d.configHistory.getLast?

/-- All bytes ever written, in order. -/
def written (d : Device) : List UInt8 := d.writeLog.flatten

/-- The device after an action of a test. -/
def act (d : Device) : DeviceAction → Device
  | .enqueue bytes => { d with queue := d.queue ++ bytes }
  | .setEcho on => { d with echo := on }
  | .unplug => { d with present := false, generation := d.generation + 1, queue := [] }
  | .plug => { d with present := true }
  | .setFailWrites on => { d with failWrites := on }
  | .setMaxWrite limit => { d with maxWrite := limit }
  | .setOpenFailure message => { d with openFailure := message }

end Device

end SerialHub.Port
