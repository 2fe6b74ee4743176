import SerialHub.Registry.Supervisor
import SerialHub.Terminal.Console
import SerialHub.Port.Script

/-!
# A workbench: devices, ports and sessions driven by a script

A workbench holds a registry over simulated devices, the terminal sessions on its ports, and the
reopenings a script has begun by hand and not yet settled. Each step of a script gives a reply or
a connection error; a step that names a device no one registered stops the script.
-/

namespace SerialHub

open SerialHub.Line
open SerialHub.Port
open SerialHub.Registry
open SerialHub.Terminal

/-- One step of a script. -/
inductive Step where
  | act (device : String) (a : DeviceAction)
  | inspect (device : String)
  | addDevice (name : String)
  | listPorts
  | openPort (port : String) (o : Overrides) (autoReconnect : Bool)
  | closePort (port : String)
  | setConfig (port : String) (o : Overrides)
  | status (port : String)
  | allStatus
  | isOpen (port : String)
  | send (port : String) (data : List UInt8)
  | read (port : String) (size : Option Nat) (timeoutMs : Option Nat)
  | shutdown
  | checkPorts
  | beginReconnect (port : String)
  | finishReconnect (port : String)
  | createSession (port lineEnding : String) (localEcho : Bool) (bufferSize : Nat)
  | createSessionWith (port : String) (config : SessionConfig)
  | closeSession (id : String)
  | sendCommand (id command : String) (addLineEnding : Bool)
  | readOutput (id : String) (clearAfter : Bool)
  | readOutputText (id : String) (clearAfter : Bool)
  | clearBuffer (id : String)
  | listSessions
  | sessionInfo (id : String)
  | terminalShutdown
  deriving Inhabited

/-- What a step answers. -/
inductive Reply where
  | unit
  | flag (b : Bool)
  | count (n : Nat)
  | status (s : Status)
  | statuses (l : List Status)
  | ports (l : List PortInfo)
  | data (bs : List UInt8)
  | config (c : Option LineConfig)
  | created (info : SessionInfo)
  | output (bs : List UInt8)
  | text (bs : List UInt8)
  | session (info : SessionInfo)
  | sessions (l : List SessionInfo)
  | device (d : Device)
  deriving Inhabited

/-- Ports, sessions and the reopenings begun by hand, oldest first. -/
structure Workbench where
  console : Console
  pending : List (String × Pending × LineConfig) := []
  deriving Inhabited

namespace Workbench

/-- A workbench over fresh devices with the given names. -/
def create (devices : List String) (blacklist : Blacklist) (defaults : LineConfig)
    (readTimeoutMs : Nat) : Workbench :=
  { console := { registry := { bench := Bench.ofNames devices, blacklist, defaults },
                 readTimeoutMs } }

/-- The registry of the workbench. -/
def registry (w : Workbench) : Registry := w.console.registry

/-- The workbench with its registry changed. -/
def withRegistry (w : Workbench) (r : Registry) : Workbench :=
  { w with console := { w.console with registry := r } }

/-- The workbench with its console changed. -/
def withConsole (w : Workbench) (c : Console) : Workbench :=
  { w with console := c }

/-- Runs a registry call that may change the registry. -/
def onRegistry {α : Type} (w : Workbench) (f : Registry → Except SerialError α × Registry)
    (reply : α → Reply) : Except SerialError Reply × Workbench :=
  let (res, r) := f w.registry
  (res.map reply, w.withRegistry r)

/-- Runs a console call that may change the console. -/
def onConsole {α : Type} (w : Workbench) (f : Console → Except SerialError α × Console)
    (reply : α → Reply) : Except SerialError Reply × Workbench :=
  let (res, c) := f w.console
  (res.map reply, w.withConsole c)

/-- Creates a session and, when that succeeds, waits for the first pass of its reader, as a
script does before its next step. -/
def createAndWait (w : Workbench) (port : String)
    (create : Console → Except SerialError SessionInfo × Console) :
    Except SerialError Reply × Workbench :=
  match create w.console with
  | (.ok info, c) => (.ok (.created info), w.withConsole (c.readerPass port))
  | (.error e, c) => (.error e, w.withConsole c)

/-- Settles the oldest reopening begun by hand on a port, if there is one; the others of the
port wait for later calls. -/
def finishReconnect (w : Workbench) (port : String) : Bool × Workbench :=
  match w.pending.lookup port with
  | none => (false, w)
  | some (p, config) =>
    let w' := { w with pending := Keyed.erase port w.pending }
    (true, w'.withRegistry (w'.registry.reconnect p.port p.stale config))

/-- Runs one step; a step naming an unregistered device gives that name instead. -/
def step (w : Workbench) : Step → Except String (Except SerialError Reply × Workbench)
  | .act name a =>
    match w.registry.bench.lookup? name with
    | none => .error name
    | some i => .ok (.ok .unit, w.withRegistry (w.registry.actOn i a))
  | .inspect name =>
    match w.registry.bench.lookup? name >>= w.registry.bench.device? with
    | none => .error name
    | some d => .ok (.ok (.device d), w)
  | .addDevice name =>
    .ok (.ok .unit, w.withRegistry { w.registry with bench := w.registry.bench.addDevice name })
  | .listPorts => .ok (.ok (.ports w.registry.listPorts), w)
  | .openPort port o ar => .ok (w.onRegistry (·.openPort port o ar) Reply.status)
  | .closePort port => .ok (w.onRegistry (·.closePort port) (fun _ => Reply.unit))
  | .setConfig port o => .ok (w.onRegistry (·.setConfig port o) Reply.status)
  | .status port => .ok ((w.registry.status port).map Reply.status, w)
  | .allStatus => .ok (.ok (.statuses w.registry.allStatus), w)
  | .isOpen port => .ok (.ok (.flag (w.registry.isOpen port)), w)
  | .send port data => .ok (w.onRegistry (·.send port data) Reply.count)
  | .read port size t => .ok (w.onRegistry (·.readData port size t) Reply.data)
  | .shutdown => .ok (.ok .unit, w.withRegistry w.registry.shutdown)
  | .checkPorts => .ok (.ok .unit, w.withRegistry w.registry.checkPorts)
  | .beginReconnect port =>
    match w.registry.beginReconnect port with
    | (some (p, config), r) =>
      .ok (.ok (.config (some config)),
        { (w.withRegistry r) with pending := w.pending ++ [(port, p, config)] })
    | (none, r) => .ok (.ok (.config none), w.withRegistry r)
  | .finishReconnect port =>
    let (done, w') := w.finishReconnect port
    .ok (.ok (.flag done), w')
  | .createSession port le echo size => .ok (w.createAndWait port (·.create port le echo size))
  | .createSessionWith port config => .ok (w.createAndWait port (·.createWithConfig port config))
  | .closeSession id => .ok (w.onConsole (·.close id) (fun _ => Reply.unit))
  | .sendCommand id command add => .ok (w.onConsole (·.sendCommand id command add) Reply.count)
  | .readOutput id clearAfter => .ok (w.onConsole (·.readOutput id clearAfter) Reply.output)
  | .readOutputText id clearAfter => .ok (w.onConsole (·.readOutput id clearAfter) Reply.text)
  | .clearBuffer id => .ok (w.onConsole (·.clearBuffer id) (fun _ => Reply.unit))
  | .listSessions => .ok (.ok (.sessions w.console.list), w)
  | .sessionInfo id => .ok ((w.console.info id).map Reply.session, w)
  | .terminalShutdown => .ok (.ok .unit, w.withConsole w.console.shutdown)

/-- Runs a script, giving one answer per step, or the first unregistered device named. -/
def run (w : Workbench) : List Step → Except String (List (Except SerialError Reply))
  | [] => .ok []
  | s :: rest => do
    let (r, w') ← w.step s
    let more ← w'.run rest
    pure (r :: more)

end Workbench

end SerialHub
