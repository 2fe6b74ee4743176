import SerialHub.Proofs.Terminal.Lifecycle

/-!
# Sending a command

A command goes out as its UTF-8 bytes and, when asked, the session's line ending. It is refused,
changing nothing, when the session is missing or inactive or the port refuses the write; otherwise
the part the device accepts lands as one entry of its write log, the call answers its length, and a
local echo appends that same part. Main statement: `sendCommand_outcome`.
-/

namespace SerialHub

open SerialHub.Port
open SerialHub.Registry

namespace Port.Bench

variable {b : Bench} {h : Nat} {hd : Handle} {d : Device}

/-- The part of the data a device accepts in one write: the data cut to its limit. -/
def accepted (d : Device) (data : List UInt8) : List UInt8 :=
  data.take (d.maxWrite.getD data.length)

theorem length_accepted (d : Device) (data : List UInt8) :
    (accepted d data).length = min (d.maxWrite.getD data.length) data.length := by
  simp [accepted]

theorem accepted_prefix (d : Device) (data : List UInt8) : accepted d data <+: data :=
  List.take_prefix _ _

/-- Cutting the data to the length of the accepted part gives the accepted part. -/
theorem take_length_accepted (d : Device) (data : List UInt8) :
    data.take (accepted d data).length = accepted d data := by
  simp [accepted]

/-- A device logs a write and, when it echoes, queues the same bytes for reading. -/
def logWrite (w : List UInt8) (d : Device) : Device :=
  { d with writeLog := d.writeLog ++ [w], queue := if d.echo then d.queue ++ w else d.queue }

/-- A write through a dead handle fails as the liveness check does. -/
theorem write_of_dead {pe : PortError} (data : List UInt8) (ha : b.alive h = .error pe) :
    b.write h data = .error pe := by
  simp [write, ha, bind, Except.bind]

/-- A write to a device that fails writes fails with a broken pipe. -/
theorem write_of_failWrites (data : List UInt8) (ha : b.alive h = .ok (hd, d))
    (hf : d.failWrites = true) :
    b.write h data = .error (.io .brokenPipe "simulated write failure") := by
  simp [write, ha, hf, bind, Except.bind, throw, throwThe, MonadExceptOf.throw]

/-- A write through a live handle to a device that takes writes logs the accepted part. -/
theorem write_of_alive (data : List UInt8) (ha : b.alive h = .ok (hd, d))
    (hf : d.failWrites = false) :
    b.write h data = .ok ((accepted d data).length,
      b.modifyDevice hd.device (logWrite (accepted d data))) := by
  unfold write accepted logWrite
  cases hm : d.maxWrite <;> simp [ha, hf, hm, bind, Except.bind, pure, Except.pure]

/-- Logging a write adds one entry to the log of the device written to, and to no other. -/
theorem writeLog_modifyDevice_logWrite (w : List UInt8) (hdev : b.device? hd.device = some d)
    (j : Nat) : ((b.modifyDevice hd.device (logWrite w)).device? j).map Device.writeLog =
      if j = hd.device then some (d.writeLog ++ [w]) else (b.device? j).map Device.writeLog := by
  rw [device?_modifyDevice]
  by_cases hj : j = hd.device
  · subst hj
    simp [hdev, logWrite]
  · simp [hj, Ne.symm hj]

end Port.Bench

namespace Registry

variable {r : Registry} {port : String} {data : List UInt8}

/-- Writing to a port that is not open is refused as a closed port. -/
theorem send_of_none (he : r.entry? port = none) :
    r.send port data = (.error (.portClosed port), r) := by
  simp [send, he]

/-- A write the handle refuses is reported as a failed write with the handle's message. -/
theorem send_of_write_error {e : Entry} {pe : PortError} (he : r.entry? port = some e)
    (hw : r.bench.write e.handle data = .error pe) :
    r.send port data = (.error (.writeFailed port pe.message), r) := by
  simp [send, he, hw]

/-- A write the handle takes changes the bench and answers with its count. -/
theorem send_of_write_ok {e : Entry} {n : Nat} {b : Bench} (he : r.entry? port = some e)
    (hw : r.bench.write e.handle data = .ok (n, b)) :
    r.send port data = (.ok n, { r with bench := b }) := by
  simp [send, he, hw]

end Registry

namespace Terminal

/-- Appending nothing leaves a buffer as it is. -/
@[simp] theorem OutputBuffer.append_nil (b : OutputBuffer) : b.append [] = b := by
  simp [OutputBuffer.append]

namespace Console

variable {c : Console} {id command : String} {add : Bool} {s : Session}

/-- The bytes a session sends for a command: its UTF-8 bytes, then the line ending if asked. -/
def commandBytes (s : Session) (command : String) (add : Bool) : List UInt8 :=
  Text.utf8 command ++ (if add then s.config.lineEnding.bytes else [])

theorem sendCommand_of_none (hs : c.session? id = none) :
    c.sendCommand id command add = (.error (.sessionNotFound id), c) := by
  simp [sendCommand, hs]

theorem sendCommand_of_inactive (hs : c.session? id = some s) (ha : s.active = false) :
    c.sendCommand id command add = (.error (.sessionClosed id), c) := by
  simp [sendCommand, hs, ha]

@[simp] theorem session?_withRegistry (c : Console) (r : Registry) (id : String) :
    ({ c with registry := r } : Console).session? id = c.session? id := rfl

/-- After a write, with or without echo, only the session that sent changes, and only in its
buffer. -/
theorem session?_echo (r : Registry) (hs : c.session? id = some s) (w : List UInt8) (echo : Bool)
    (id' : String) :
    (if echo then ({ c with registry := r } : Console).modifySession id
        (fun s' => { s' with buffer := s'.buffer.append w }) else { c with registry := r }).session? id' =
      if id' = id then some { s with buffer := if echo then s.buffer.append w else s.buffer }
      else c.session? id' := by
  cases echo with
  | true => simp [session?_modifySession, hs]
  | false =>
    by_cases hid : id' = id
    · subst hid
      simp [hs]
    · simp [hid]

/-- A write the registry refuses is reported with its message, and nothing changes. -/
theorem sendCommand_of_send_error {e : SerialError} {r' : Registry} (hs : c.session? id = some s)
    (ha : s.active = true) (hsend : c.registry.send id (commandBytes s command add) = (.error e, r')) :
    c.sendCommand id command add = (.error (.sendCommandFailed id e.message), c) := by
  simp only [commandBytes] at hsend
  simp [sendCommand, hs, ha, hsend]

/-- A write the registry takes: the call answers with the count, the registry is the one after
the write, and with local echo the session's buffer takes the bytes the port accepted. -/
theorem sendCommand_of_send_ok {n : Nat} {r' : Registry} (hs : c.session? id = some s)
    (ha : s.active = true) (hsend : c.registry.send id (commandBytes s command add) = (.ok n, r')) :
    c.sendCommand id command add = (.ok n, if s.config.localEcho then
      ({ c with registry := r' } : Console).modifySession id
        (fun s' => { s' with buffer := s'.buffer.append ((commandBytes s command add).take n) })
      else { c with registry := r' }) := by
  simp only [commandBytes] at hsend
  simp [sendCommand, hs, ha, hsend, commandBytes]

/-- Sending a command through an active session whose port takes the write. The device logs the
accepted part of the command's bytes as one entry, the call answers with its length, and with
local echo the session's buffer takes the same part. -/
theorem sendCommand_of_accepted {e : Entry} {hd : Handle} {d : Device} (hs : c.session? id = some s)
    (ha : s.active = true) (he : c.registry.entry? id = some e)
    (halive : c.registry.bench.alive e.handle = .ok (hd, d)) (hf : d.failWrites = false) :
    let w := Bench.accepted d (commandBytes s command add)
    let c' : Console := { c with registry := { c.registry with
      bench := c.registry.bench.modifyDevice hd.device (Bench.logWrite w) } }
    c.sendCommand id command add = (.ok w.length, if s.config.localEcho then
      c'.modifySession id (fun s' => { s' with buffer := s'.buffer.append w }) else c') := by
  intro w c'
  have hsend := Registry.send_of_write_ok he
    (Bench.write_of_alive (commandBytes s command add) halive hf)
  rw [sendCommand_of_send_ok hs ha hsend, Bench.take_length_accepted]

section Accepted

variable {e : Entry} {hd : Handle} {d : Device}

/-- After a write the port takes, the bench is the one with the accepted part logged. -/
theorem bench_after_accepted (hs : c.session? id = some s) (ha : s.active = true)
    (he : c.registry.entry? id = some e) (halive : c.registry.bench.alive e.handle = .ok (hd, d))
    (hf : d.failWrites = false) :
    (c.sendCommand id command add).2.registry.bench = c.registry.bench.modifyDevice hd.device
      (Bench.logWrite (Bench.accepted d (commandBytes s command add))) := by
  rw [sendCommand_of_accepted hs ha he halive hf]
  split <;> rfl

/-- After a write the port takes, the sending session's buffer has taken the accepted part under
local echo, and every other session is as it was. -/
theorem session?_after_accepted (hs : c.session? id = some s) (ha : s.active = true)
    (he : c.registry.entry? id = some e) (halive : c.registry.bench.alive e.handle = .ok (hd, d))
    (hf : d.failWrites = false) (id' : String) :
    (c.sendCommand id command add).2.session? id' = if id' = id then
      some { s with buffer := if s.config.localEcho then
        s.buffer.append (Bench.accepted d (commandBytes s command add)) else s.buffer }
      else c.session? id' := by
  rw [sendCommand_of_accepted hs ha he halive hf]
  exact session?_echo _ hs _ _ id'

end Accepted

/-- Sending a command, for every console, session id, command and choice of line ending. With no
session the call is refused as unknown, with an inactive one as closed. Otherwise the command's
bytes are written to the session's port; a port that is not open, a dead handle and a device that
fails writes each refuse the write, and the call reports the registry's error by its message.
Every refusal leaves the console as it was. A write that goes through adds exactly one entry to
the log of the device the handle is on, the prefix of the bytes as long as the device's limit
allows, and no other device's log changes; the call answers with the length of that entry. With
local echo the session's buffer takes the same entry as one piece, which changes nothing when it
is empty; without, the session is untouched. No other session changes. -/
theorem sendCommand_outcome (c : Console) (id command : String) (add : Bool) :
    (c.session? id = none → c.sendCommand id command add = (.error (.sessionNotFound id), c)) ∧
    (∀ s, c.session? id = some s → s.active = false →
      c.sendCommand id command add = (.error (.sessionClosed id), c)) ∧
    (∀ s, c.session? id = some s → s.active = true →
      (c.registry.entry? id = none → c.sendCommand id command add =
        (.error (.sendCommandFailed id (SerialError.portClosed id).message), c)) ∧
      (∀ e pe, c.registry.entry? id = some e → c.registry.bench.alive e.handle = .error pe →
        c.sendCommand id command add =
          (.error (.sendCommandFailed id (SerialError.writeFailed id pe.message).message), c)) ∧
      (∀ e hd d, c.registry.entry? id = some e → c.registry.bench.alive e.handle = .ok (hd, d) →
        d.failWrites = true → c.sendCommand id command add =
          (.error (.sendCommandFailed id (SerialError.writeFailed id
            (PortError.io .brokenPipe "simulated write failure").message).message), c)) ∧
      (∀ e hd d, c.registry.entry? id = some e → c.registry.bench.alive e.handle = .ok (hd, d) →
        d.failWrites = false → ∃ w, (c.sendCommand id command add).1 = .ok w.length ∧
          w <+: commandBytes s command add ∧
          w.length = min (d.maxWrite.getD (commandBytes s command add).length)
            (commandBytes s command add).length ∧
          (∀ j, ((c.sendCommand id command add).2.registry.bench.device? j).map Device.writeLog =
            if j = hd.device then some (d.writeLog ++ [w])
            else (c.registry.bench.device? j).map Device.writeLog) ∧
          (c.sendCommand id command add).2.session? id =
            some { s with buffer := if s.config.localEcho then s.buffer.append w else s.buffer } ∧
          (w = [] → (c.sendCommand id command add).2.session? id = some s) ∧
          ∀ id', id' ≠ id → (c.sendCommand id command add).2.session? id' = c.session? id')) := by
  refine ⟨sendCommand_of_none, fun s hs ha => sendCommand_of_inactive hs ha,
    fun s hs ha => ⟨fun he => ?_, fun e pe he hdead => ?_, fun e hd d he halive hf => ?_,
      fun e hd d he halive hf => ?_⟩⟩
  · exact sendCommand_of_send_error hs ha (Registry.send_of_none he)
  · exact sendCommand_of_send_error hs ha
      (Registry.send_of_write_error he (Bench.write_of_dead _ hdead))
  · exact sendCommand_of_send_error hs ha
      (Registry.send_of_write_error he (Bench.write_of_failWrites _ halive hf))
  · -- the write goes through: read everything off the console after it
    have hdev : c.registry.bench.device? hd.device = some d := (Bench.alive_eq_ok halive).2.2.1
    refine ⟨Bench.accepted d (commandBytes s command add),
      by rw [sendCommand_of_accepted hs ha he halive hf], Bench.accepted_prefix _ _,
      Bench.length_accepted _ _, fun j => ?_,
      by rw [session?_after_accepted hs ha he halive hf, if_pos rfl], fun hw => ?_,
      fun id' hid => by rw [session?_after_accepted hs ha he halive hf, if_neg hid]⟩
    · rw [bench_after_accepted hs ha he halive hf]
      exact Bench.writeLog_modifyDevice_logWrite _ hdev j
    · rw [session?_after_accepted hs ha he halive hf, if_pos rfl, hw]
      simp

/-- A device that takes three bytes per write, under a session with local echo: of `hello` and
its line ending, the device logs `hel` as one entry, the call answers 3, and the buffer holds
`hel`. -/
theorem command_cut_to_write_limit :
    let c : Console := (({ registry := ((({ bench := Bench.ofNames ["P1"] } : Registry).openPort
      "P1" {} false).2).actOn 0 (.setMaxWrite (some 3)) } : Console).createWithConfig "P1"
        { localEcho := true }).2
    (c.sendCommand "P1" "hello" true).1 = .ok 3 ∧
      ((c.sendCommand "P1" "hello" true).2.registry.bench.device? 0).map Device.writeLog =
        some [[104, 101, 108]] ∧
      ((c.sendCommand "P1" "hello" true).2.session? "P1").map (·.buffer.bytes) =
        some [104, 101, 108] := by
  intro c
  let s : Session := ⟨{ localEcho := true }, { capacity := 65536 }, true⟩
  let d : Device := { Device.fresh "P1" with
    maxWrite := some 3, openCount := 1, configHistory := [Line.LineConfig.default] }
  have hs : c.session? "P1" = some s := by decide +kernel
  have he : c.registry.entry? "P1" = some ⟨0, Line.LineConfig.default, false, false⟩ := by
    decide +kernel
  have halive : c.registry.bench.alive 0 = .ok (⟨0, 0, 1000, false⟩, d) := by decide +kernel
  have hbytes : commandBytes s "hello" true = [104, 101, 108, 108, 111, 13, 10] := by decide +kernel
  obtain ⟨-, -, hactive⟩ := sendCommand_outcome c "P1" "hello" true
  obtain ⟨-, -, -, hok⟩ := hactive s hs rfl
  obtain ⟨w, hres, hpre, hlen, hlog, hbuf, -, -⟩ := hok _ _ d he halive rfl
  -- the entry is the prefix of three bytes
  rw [hbytes] at hpre hlen
  have hw : w = [104, 101, 108] := by
    rw [List.prefix_iff_eq_take.mp hpre, hlen]
    rfl
  subst hw
  refine ⟨hres, by rw [hlog 0]; rfl, by rw [hbuf]; decide +kernel⟩

end Console

end Terminal

end SerialHub
