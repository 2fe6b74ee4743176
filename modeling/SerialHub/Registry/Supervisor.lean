import SerialHub.Registry.Basic

/-!
# Reopening lost connections

A supervisor pass marks each entry that asks to be reopened, is not being reopened and has a dead
handle, opens a fresh handle with the entry's stored configuration, and settles the entry: the
fresh handle replaces the dead one if the entry still holds it, and is closed otherwise, while a
failed open only clears the mark. Marking and settling are separate steps that other calls may
come between.
-/

namespace SerialHub.Registry

open SerialHub.Line
open SerialHub.Port

/-- A reopening under way: the port and the dead handle it replaces. -/
structure Pending where
  port : String
  stale : Nat
  deriving Repr, DecidableEq, Inhabited

/-- Marks an entry as reopening if it still holds the given handle and is not being reopened,
giving its stored configuration. -/
def markReconnecting (r : Registry) (port : String) (stale : Nat) :
    Option LineConfig × Registry :=
  match r.entry? port with
  | some e =>
    if e.handle == stale && !e.reconnecting then
      (some e.config, r.modifyEntry port (fun e => { e with reconnecting := true }))
    else (none, r)
  | none => (none, r)

/-- Opens a fresh handle for a marked entry with a configuration and settles the entry. -/
def reconnect (r : Registry) (port : String) (stale : Nat) (config : LineConfig) : Registry :=
  match r.bench.openPort port config with
  | .error _ =>
    match r.entry? port with
    | some e =>
      if e.handle == stale then r.modifyEntry port (fun e => { e with reconnecting := false })
      else r
    | none => r
  | .ok (fresh, b) =>
    let r := { r with bench := b }
    match r.entry? port with
    | some e =>
      if e.handle == stale then
        (r.modifyEntry port (fun e => { e with handle := fresh, reconnecting := false })).release
          stale
      else r.release fresh
    | none => r.release fresh

/-- Handles one candidate of a pass: a dead handle is marked and its entry reopened. -/
def checkOne (r : Registry) (port : String) (h : Nat) : Registry :=
  if r.bench.isAlive h then r
  else
    match r.markReconnecting port h with
    | (some config, r') => r'.reconnect port h config
    | (none, r') => r'

/-- One supervisor pass over the entries that ask to be reopened and are not being reopened. -/
def checkPorts (r : Registry) : Registry :=
  let candidates := r.entries.filter (fun (_, e) => e.autoReconnect && !e.reconnecting)
  candidates.foldl (fun acc (port, e) => acc.checkOne port e.handle) r

/-- Marks the entry of a port for reopening, taking its current handle as the dead one. -/
def beginReconnect (r : Registry) (port : String) : Option (Pending × LineConfig) × Registry :=
  match r.entry? port with
  | none => (none, r)
  | some e =>
    match r.markReconnecting port e.handle with
    | (some config, r') => (some (⟨port, e.handle⟩, config), r')
    | (none, r') => (none, r')

end SerialHub.Registry
