import SerialHub.Port.Bench

/-!
# Driving one handle by hand

A test can hold a single handle on a device of its own, outside any registry, and drive both:
call the handle's operations, act on the device, and look at the device's state. A script of
such steps gives one reply or port error per step, each step seeing the bench the previous ones
left.
-/

namespace SerialHub.Port

open SerialHub.Line

/-- An operation called on a handle. -/
inductive HandleCall where
  | write (data : List UInt8)
  | read (size : Nat)
  | bytesToRead
  | setTimeout (ms : Nat)
  | timeout
  | applyConfig (c : LineConfig)
  | clearBuffers
  | close
  | name
  deriving Repr, DecidableEq

/-- What a step of a script answers. -/
inductive PortReply where
  | unit
  | count (n : Nat)
  | bytes (bs : List UInt8)
  | text (s : String)
  | device (d : Device)
  deriving Repr, DecidableEq

/-- A step of a script on one handle and its device. -/
inductive PortStep where
  | call (c : HandleCall)
  | act (a : DeviceAction)
  | inspect
  deriving Repr, DecidableEq

namespace Bench

/-- A bench with one device, not registered under its name, and one handle opened on it with
the default read timeout and no recorded configuration. -/
def standalone (name : String) : Bench :=
  { devices := [Device.fresh name], handles := [⟨0, 0, LineConfig.default.readTimeoutMs, false⟩] }

/-- Calls an operation on a handle. -/
def callHandle (b : Bench) (h : Nat) : HandleCall → Except PortError PortReply × Bench
  | .write data =>
    match b.write h data with
    | .ok (n, b') => (.ok (.count n), b')
    | .error e => (.error e, b)
  | .read size =>
    let (r, b') := b.read h size
    (r.map PortReply.bytes, b')
  | .bytesToRead => ((b.available h).map PortReply.count, b)
  | .setTimeout ms =>
    match b.setTimeout h ms with
    | .ok b' => (.ok .unit, b')
    | .error e => (.error e, b)
  | .timeout => (.ok (.count (b.timeoutOf h)), b)
  | .applyConfig c =>
    match b.applyConfig h c with
    | .ok b' => (.ok .unit, b')
    | .error e => (.error e, b)
  | .clearBuffers =>
    match b.clearInput h with
    | .ok b' => (.ok .unit, b')
    | .error e => (.error e, b)
  | .close =>
    match b.close h with
    | .ok b' => (.ok .unit, b')
    | .error e => (.error e, b)
  | .name => (.ok (.text (b.nameOf h)), b)

/-- Runs a script on the handle `h` and the device `i`. -/
def runScript (b : Bench) (h i : Nat) : List PortStep → List (Except PortError PortReply)
  | [] => []
  | .call c :: rest =>
    let (r, b') := b.callHandle h c
    r :: runScript b' h i rest
  | .act a :: rest => .ok .unit :: runScript (b.act i a) h i rest
  | .inspect :: rest =>
    match b.device? i with
    | some d => .ok (.device d) :: runScript b h i rest
    | none => .error .notOpen :: runScript b h i rest

end Bench

end SerialHub.Port
