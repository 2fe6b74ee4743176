import SerialHub.Port.Device
import SerialHub.Port.Error
import SerialHub.Keyed

/-!
# A bench of simulated devices and their handles

The bench holds every simulated device and every handle ever opened on one, by index, with the
table of registered names. A handle is alive while it is not closed and its device is present in
the generation it was opened in; every handle operation checks that first. A read with nothing
queued waits out the handle's timeout and times out, and every read notes its timeout on the device.
-/

namespace SerialHub.Port

open SerialHub.Line

/-- An open connection to a device. -/
structure Handle where
  device : Nat
  generation : Nat
  timeoutMs : Nat
  closed : Bool := false
  deriving Repr, DecidableEq, Inhabited

/-- The devices and handles of a simulation. -/
structure Bench where
  devices : List Device := []
  handles : List Handle := []
  names : List (String × Nat) := []
  deriving Repr, Inhabited

/-- The list with the element at an index changed. -/
def updateAt {α : Type} (xs : List α) (i : Nat) (f : α → α) : List α :=
  match xs[i]? with
  | some x => xs.set i (f x)
  | none => xs

namespace Bench

/-- The device at an index. -/
def device? (b : Bench) (i : Nat) : Option Device := b.devices[i]?

/-- The handle at an index. -/
def handle? (b : Bench) (h : Nat) : Option Handle := b.handles[h]?

/-- The index of the device registered under a name. -/
def lookup? (b : Bench) (name : String) : Option Nat := b.names.lookup name

/-- Registers a fresh present device under a name. -/
def addDevice (b : Bench) (name : String) : Bench :=
  { b with devices := b.devices ++ [Device.fresh name],
           names := Keyed.insert name b.devices.length b.names }

/-- A bench with one fresh device under each name, in order. -/
def ofNames (names : List String) : Bench :=
  names.foldl addDevice {}

/-- Changes the device at an index. -/
def modifyDevice (b : Bench) (i : Nat) (f : Device → Device) : Bench :=
  { b with devices := updateAt b.devices i f }

/-- Changes the handle at an index. -/
def modifyHandle (b : Bench) (h : Nat) (f : Handle → Handle) : Bench :=
  { b with handles := updateAt b.handles h f }

/-- Applies a test's action to the device at an index. -/
def act (b : Bench) (i : Nat) (a : DeviceAction) : Bench :=
  b.modifyDevice i (·.act a)

/-- The present registered devices, by name. -/
def presentDevices (b : Bench) : List Device :=
  b.names.filterMap (fun (_, i) => (b.device? i).filter (·.present))

/-- Opens a handle on the device at an index with a configuration. -/
def openDevice (b : Bench) (i : Nat) (c : LineConfig) : Except PortError (Nat × Bench) :=
  match b.device? i with
  | none => .error (.notFound "")
  | some d =>
    if !d.present then .error (.notFound d.name)
    else match d.openFailure with
    | some msg => .error (.io .other msg)
    | none =>
      let b' := b.modifyDevice i (fun d =>
        { d with openCount := d.openCount + 1, configHistory := d.configHistory ++ [c] })
      .ok (b.handles.length,
        { b' with handles := b'.handles ++ [⟨i, d.generation, c.readTimeoutMs, false⟩] })

/-- Opens a handle on the device registered under a name. -/
def openPort (b : Bench) (name : String) (c : LineConfig) : Except PortError (Nat × Bench) :=
  match b.lookup? name with
  | none => .error (.notFound name)
  | some i => b.openDevice i c

/-- Checks that a handle is alive, giving it and its device. -/
def alive (b : Bench) (h : Nat) : Except PortError (Handle × Device) :=
  match b.handle? h with
  | none => .error .notOpen
  | some hd =>
    if hd.closed then .error .notOpen
    else match b.device? hd.device with
    | none => .error .notOpen
    | some d =>
      if !d.present || d.generation != hd.generation then .error (.disconnected d.name)
      else .ok (hd, d)

/-- Whether a handle is alive. -/
def isAlive (b : Bench) (h : Nat) : Bool :=
  match b.alive h with
  | .ok _ => true
  | .error _ => false

/-- Writes bytes through a handle, giving the number the device accepted. -/
def write (b : Bench) (h : Nat) (data : List UInt8) : Except PortError (Nat × Bench) := do
  let (hd, d) ← b.alive h
  if d.failWrites then throw (.io .brokenPipe "simulated write failure")
  let accepted := match d.maxWrite with
    | some m => data.take m
    | none => data
  let b' := b.modifyDevice hd.device (fun d =>
    { d with writeLog := d.writeLog ++ [accepted],
             queue := if d.echo then d.queue ++ accepted else d.queue })
  pure (accepted.length, b')

/-- The timeout of a handle in milliseconds. -/
def timeoutOf (b : Bench) (h : Nat) : Nat :=
  match b.handle? h with
  | some hd => hd.timeoutMs
  | none => 0

/-- Reads at most `size` bytes through a handle. The device notes the handle's timeout first,
whatever the outcome. -/
def read (b : Bench) (h : Nat) (size : Nat) : Except PortError (List UInt8) × Bench :=
  match b.handle? h with
  | none => (.error .notOpen, b)
  | some hd =>
    let b := b.modifyDevice hd.device (fun d => { d with lastReadTimeout := some hd.timeoutMs })
    match b.alive h with
    | .error e => (.error e, b)
    | .ok (_, d) =>
      if d.queue.isEmpty && size != 0 then
        (.error (.io .timedOut "Operation timed out"), b)
      else
        (.ok (d.queue.take size),
          b.modifyDevice hd.device (fun d => { d with queue := d.queue.drop size }))

/-- The number of bytes waiting to be read through a handle. -/
def available (b : Bench) (h : Nat) : Except PortError Nat := do
  let (_, d) ← b.alive h
  pure d.queue.length

/-- Sets the read timeout of a handle. -/
def setTimeout (b : Bench) (h : Nat) (ms : Nat) : Except PortError Bench := do
  let _ ← b.alive h
  pure (b.modifyHandle h (fun hd => { hd with timeoutMs := ms }))

/-- Gives a configuration to the device of a handle, which also sets the read timeout. -/
def applyConfig (b : Bench) (h : Nat) (c : LineConfig) : Except PortError Bench := do
  let (hd, _) ← b.alive h
  let b' := b.modifyDevice hd.device (fun d => { d with configHistory := d.configHistory ++ [c] })
  pure (b'.modifyHandle h (fun hd => { hd with timeoutMs := c.readTimeoutMs }))

/-- Empties the receive queue of a handle's device. -/
def clearInput (b : Bench) (h : Nat) : Except PortError Bench := do
  let (hd, _) ← b.alive h
  pure (b.modifyDevice hd.device (fun d => { d with queue := [] }))

/-- Closes a handle; a closed handle cannot be closed again. Closing needs no live device. -/
def close (b : Bench) (h : Nat) : Except PortError Bench :=
  match b.handle? h with
  | none => .error .notOpen
  | some hd =>
    if hd.closed then .error .notOpen
    else
      let b' := b.modifyHandle h (fun hd => { hd with closed := true })
      .ok (b'.modifyDevice hd.device (fun d => { d with closeCount := d.closeCount + 1 }))

/-- The name of a handle's device. -/
def nameOf (b : Bench) (h : Nat) : String :=
  match b.handle? h >>= fun hd => b.device? hd.device with
  | some d => d.name
  | none => ""

end Bench

end SerialHub.Port
