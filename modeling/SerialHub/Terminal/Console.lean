import SerialHub.Registry.Basic
import SerialHub.Terminal.Buffer
import SerialHub.Terminal.LineEnding
import SerialHub.Text.Utf8

/-!
# Terminal sessions

A terminal session sits on an open port, one per port, under the port's name. It is created
only on a port the registry reports open, with a buffer of at least one byte. It ends each
command with its line ending and may echo what the port accepted into its buffer; its reader
passes, apart from the calls, append what the port delivers, and a failed read makes the
session inactive for good. An inactive session refuses commands but can still be read, listed
and closed.
-/

namespace SerialHub.Terminal

open SerialHub.Registry

/-- How a session writes and keeps output. -/
structure SessionConfig where
  lineEnding : LineEnding := .crlf
  localEcho : Bool := false
  bufferSize : Nat := 65536
  deriving Repr, DecidableEq, Inhabited

/-- A session on a port. -/
structure Session where
  config : SessionConfig
  buffer : OutputBuffer
  active : Bool
  deriving Repr, DecidableEq, Inhabited

/-- What a caller is told about a session. -/
structure SessionInfo where
  id : String
  config : SessionConfig
  held : Nat
  active : Bool
  deriving Repr, DecidableEq, Inhabited

/-- Terminal sessions over a registry of ports. -/
structure Console where
  registry : Registry
  sessions : List (String × Session) := []
  readTimeoutMs : Nat := 50
  deriving Inhabited

namespace Console

/-- The session of an id. -/
def session? (c : Console) (id : String) : Option Session := c.sessions.lookup id

/-- What a caller is told about a session. -/
def infoOf (id : String) (s : Session) : SessionInfo :=
  ⟨id, s.config, s.buffer.total, s.active⟩

/-- The console with a session changed. -/
def modifySession (c : Console) (id : String) (f : Session → Session) : Console :=
  { c with sessions := Keyed.modify id f c.sessions }

/-- The reader's pass: what is queued on the port goes into the buffer, and a failed read makes
the session inactive. -/
def readerPass (c : Console) (id : String) : Console :=
  let (res, r) := c.registry.readData id none (some c.readTimeoutMs)
  let c := { c with registry := r }
  match res with
  | .ok data => c.modifySession id (fun s => { s with buffer := s.buffer.append data })
  | .error _ => c.modifySession id (fun s => { s with active := false })

/-- Creates a session on an open port; its reader makes its passes apart. -/
def createWithConfig (c : Console) (port : String) (config : SessionConfig) :
    Except SerialError SessionInfo × Console :=
  if config.bufferSize == 0 then
    (.error (.invalidParam "buffer_size" "0" "must be greater than 0"), c)
  else match c.registry.status port with
  | .error _ => (.error (.portNotOpen port), c)
  | .ok _ =>
    if (c.session? port).isSome then (.error (.sessionExists port), c)
    else
      let s : Session := ⟨config, { capacity := config.bufferSize }, true⟩
      (.ok (infoOf port s), { c with sessions := Keyed.insert port s c.sessions })

/-- Creates a session, reading its line ending from a name. -/
def create (c : Console) (port lineEnding : String) (localEcho : Bool) (bufferSize : Nat) :
    Except SerialError SessionInfo × Console :=
  match LineEnding.parse lineEnding with
  | .error e => (.error e, c)
  | .ok le => c.createWithConfig port ⟨le, localEcho, bufferSize⟩

/-- Closes a session. -/
def close (c : Console) (id : String) : Except SerialError Unit × Console :=
  match c.session? id with
  | none => (.error (.sessionNotFound id), c)
  | some _ => (.ok (), { c with sessions := Keyed.erase id c.sessions })

/-- Sends a command through an active session, giving the number of bytes the port accepted. -/
def sendCommand (c : Console) (id command : String) (addLineEnding : Bool) :
    Except SerialError Nat × Console :=
  match c.session? id with
  | none => (.error (.sessionNotFound id), c)
  | some s =>
    if !s.active then (.error (.sessionClosed id), c)
    else
      let data := Text.utf8 command ++ (if addLineEnding then s.config.lineEnding.bytes else [])
      match c.registry.send id data with
      | (.error e, _) => (.error (.sendCommandFailed id e.message), c)
      | (.ok n, r) =>
        let c' := { c with registry := r }
        let c'' := if s.config.localEcho then
            c'.modifySession id (fun s => { s with buffer := s.buffer.append (data.take n) })
          else c'
        (.ok n, c'')

/-- The bytes a session holds, emptying its buffer when asked to. -/
def readOutput (c : Console) (id : String) (clearAfter : Bool) :
    Except SerialError (List UInt8) × Console :=
  match c.session? id with
  | none => (.error (.sessionNotFound id), c)
  | some s =>
    let (bs, buf) := s.buffer.read clearAfter
    (.ok bs, c.modifySession id (fun s => { s with buffer := buf }))

/-- Empties a session's buffer. -/
def clearBuffer (c : Console) (id : String) : Except SerialError Unit × Console :=
  match c.session? id with
  | none => (.error (.sessionNotFound id), c)
  | some _ => (.ok (), c.modifySession id (fun s => { s with buffer := s.buffer.clear }))

/-- What a caller is told about every session, by id. -/
def list (c : Console) : List SessionInfo :=
  c.sessions.map (fun (id, s) => infoOf id s)

/-- What a caller is told about one session. -/
def info (c : Console) (id : String) : Except SerialError SessionInfo :=
  match c.session? id with
  | none => .error (.sessionNotFound id)
  | some s => .ok (infoOf id s)

/-- Ends every session. -/
def shutdown (c : Console) : Console :=
  { c with sessions := [] }

end Console

end SerialHub.Terminal
