import SerialHub.Port.Bench
import SerialHub.Line.Overrides
import SerialHub.Blacklist

/-!
# The registry of open ports

The registry keeps one entry per open port, sorted by name: the handle it works through, the
configuration it was last given, and whether it is to be reopened and is being reopened. It opens,
reconfigures, reads, writes and closes ports on a bench of devices and refuses blacklisted ports;
reads come in blocks of at most 4096 bytes, and a timeout given for one read is restored after it.
-/

namespace SerialHub

open SerialHub.Line
open SerialHub.Port

namespace Registry

/-- What the registry keeps about an open port. -/
structure Entry where
  handle : Nat
  config : LineConfig
  autoReconnect : Bool
  reconnecting : Bool := false
  deriving Repr, DecidableEq, Inhabited

/-- What a caller is told about an open port. -/
structure Status where
  port : String
  config : LineConfig
  connected : Bool
  reconnecting : Bool
  deriving Repr, DecidableEq, Inhabited

/-- A port offered for opening. -/
structure PortInfo where
  port : String
  description : String
  deriving Repr, DecidableEq, Inhabited

end Registry

open Registry

/-- Open ports over a bench of devices, with the blacklist and the default configuration. -/
structure Registry where
  bench : Bench
  entries : List (String × Entry) := []
  blacklist : Blacklist := {}
  defaults : LineConfig := LineConfig.default
  deriving Inhabited

namespace Registry

/-- The largest block a read asks a handle for. -/
def readChunk : Nat := 4096

/-- The entry of a port. -/
def entry? (r : Registry) (port : String) : Option Entry := r.entries.lookup port

/-- Whether a port is open. -/
def isOpen (r : Registry) (port : String) : Bool := (r.entry? port).isSome

/-- The status of an entry with its handle asked whether it is alive. -/
def statusOf (r : Registry) (port : String) (e : Entry) : Status :=
  ⟨port, e.config, r.bench.isAlive e.handle, e.reconnecting⟩

/-- The registry with an entry changed. -/
def modifyEntry (r : Registry) (port : String) (f : Entry → Entry) : Registry :=
  { r with entries := Keyed.modify port f r.entries }

/-- Closes a handle that is let go, ignoring a failure to close it. -/
def release (r : Registry) (h : Nat) : Registry :=
  match r.bench.close h with
  | .ok b => { r with bench := b }
  | .error _ => r

/-- The present devices that the blacklist lets through, by name. -/
def listPorts (r : Registry) : List PortInfo :=
  (r.bench.presentDevices.filter (fun d => !r.blacklist.blocks d.name)).map
    (fun d => ⟨d.name, d.description⟩)

/-- Opens a port with overrides on the default configuration. -/
def openPort (r : Registry) (port : String) (o : Overrides) (autoReconnect : Bool) :
    Except SerialError Status × Registry :=
  if r.blacklist.blocks port then (.error (.portBlacklisted port), r)
  else match o.apply r.defaults with
  | .error e => (.error e, r)
  | .ok config =>
    match r.entry? port with
    | some e => (.ok (r.statusOf port e), r)
    | none =>
      match r.bench.openPort port config with
      | .error e => (.error (classifyOpenFailure port e), r)
      | .ok (h, b) =>
        let e : Entry := ⟨h, config, autoReconnect, false⟩
        (.ok ⟨port, config, true, false⟩,
          { r with bench := b, entries := Keyed.insert port e r.entries })

/-- Closes a port: its entry goes and its handle is let go. -/
def closePort (r : Registry) (port : String) : Except SerialError Unit × Registry :=
  match r.entry? port with
  | none => (.error (.portClosed port), r)
  | some e => (.ok (), ({ r with entries := Keyed.erase port r.entries }).release e.handle)

/-- Reconfigures an open port with overrides on its current configuration, through its live
handle, without reopening it. -/
def setConfig (r : Registry) (port : String) (o : Overrides) :
    Except SerialError Status × Registry :=
  match r.entry? port with
  | none => (.error (.portClosed port), r)
  | some e =>
    match o.apply e.config with
    | .error err => (.error err, r)
    | .ok merged =>
      match r.bench.applyConfig e.handle merged with
      | .error (.config reason) => (.error (.invalidParam "config" port reason), r)
      | .error err => (.error (.portOpenFailed port err.message), r)
      | .ok b =>
        let r' := ({ r with bench := b }).modifyEntry port (fun e => { e with config := merged })
        (.ok (r'.statusOf port { e with config := merged }), r')

/-- The status of an open port. -/
def status (r : Registry) (port : String) : Except SerialError Status :=
  match r.entry? port with
  | none => .error (.portClosed port)
  | some e => .ok (r.statusOf port e)

/-- The status of every open port, by port name. -/
def allStatus (r : Registry) : List Status :=
  r.entries.map (fun (port, e) => r.statusOf port e)

/-- Writes bytes to an open port, giving the number accepted. -/
def send (r : Registry) (port : String) (data : List UInt8) : Except SerialError Nat × Registry :=
  match r.entry? port with
  | none => (.error (.portClosed port), r)
  | some e =>
    match r.bench.write e.handle data with
    | .error err => (.error (.writeFailed port err.message), r)
    | .ok (n, b) => (.ok n, { r with bench := b })

/-- Reads blocks through a handle until `wanted` bytes are in, a block times out, or, when the
deadline has passed, after a block. -/
def readBlocks (h : Nat) (wanted : Nat) (pastDeadline : Bool) :
    Nat → Bench → List UInt8 → Except PortError (List UInt8) × Bench
  | 0, b, out => (.ok out, b)
  | fuel + 1, b, out =>
    if out.length ≥ wanted then (.ok out, b)
    else
      let (res, b') := b.read h (min (wanted - out.length) readChunk)
      match res with
      | .error err => if err.isTimeout then (.ok out, b') else (.error err, b')
      | .ok bs =>
        if bs.isEmpty || pastDeadline then (.ok (out ++ bs), b')
        else readBlocks h wanted pastDeadline fuel b' (out ++ bs)

/-- Reads from a handle: `size` bytes, or the bytes queued now when no size is given. -/
def readFrom (b : Bench) (h : Nat) (size : Option Nat) (timeoutMs : Nat) :
    Except PortError (List UInt8) × Bench :=
  let wanted := match size with
    | some n => Except.ok n
    | none => b.available h
  match wanted with
  | .error err => (.error err, b)
  | .ok 0 => (.ok [], b)
  | .ok n => readBlocks h n (timeoutMs == 0) (n + 1) b []

/-- Reads from an open port, with a timeout for this read only if one is given. -/
def readData (r : Registry) (port : String) (size : Option Nat) (timeoutMs : Option Nat) :
    Except SerialError (List UInt8) × Registry :=
  match r.entry? port with
  | none => (.error (.portClosed port), r)
  | some e =>
    let configured := r.bench.timeoutOf e.handle
    let started := match timeoutMs with
      | some t => r.bench.setTimeout e.handle t
      | none => .ok r.bench
    match started with
    | .error err => (.error (.readFailed port err.message), r)
    | .ok b =>
      let (res, b') := readFrom b e.handle size (timeoutMs.getD configured)
      let b'' := match timeoutMs with
        | some _ => (b'.setTimeout e.handle configured).toOption.getD b'
        | none => b'
      let r' := { r with bench := b'' }
      match res with
      | .ok bs => (.ok bs, r')
      | .error err => (.error (.readFailed port err.message), r')

/-- Closes every port. -/
def shutdown (r : Registry) : Registry :=
  r.entries.foldl (fun acc (_, e) => acc.release e.handle) { r with entries := [] }

/-- Applies a test's action to the device registered under a name. -/
def actOn (r : Registry) (device : Nat) (a : DeviceAction) : Registry :=
  { r with bench := r.bench.act device a }

end Registry

end SerialHub
