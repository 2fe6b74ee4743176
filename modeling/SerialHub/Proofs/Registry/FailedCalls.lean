import SerialHub.Proofs.Registry.Steps

/-!
# A failed call changes nothing

Every call of the registry that can fail checks all it needs before it changes anything, so a call
that answers with an error leaves the entries, the devices with their counters, logs, queues and
configurations, and the handles with their timeouts as they were; a device's note of the last
read's timeout is the one exception. Main statement: `failed_calls_change_nothing`.
-/

namespace SerialHub.Port

/-- A device without the timeout its last read noted. -/
def Device.unnoted (d : Device) : Device :=
  { d with lastReadTimeout := none }

namespace Bench

variable {b : Bench} {k size : Nat}

/-- The bench without the timeouts its devices noted of their last reads. -/
def unnoted (b : Bench) : Bench :=
  { b with devices := b.devices.map Device.unnoted }

/-- Noting a read's timeout on a device is all that the unnoted bench forgets. -/
theorem unnoted_noteRead (b : Bench) (i : Nat) (t : Option Nat) :
    (b.modifyDevice i (fun d => { d with lastReadTimeout := t })).unnoted = b.unnoted := by
  simp only [unnoted, modifyDevice]
  congr 1
  apply map_updateAt
  intro d
  rfl

/-- Noting a read's timeout keeps the setup of a bench. -/
theorem setup_noteRead (b : Bench) (i : Nat) (t : Option Nat) :
    (b.modifyDevice i (fun d => { d with lastReadTimeout := t })).setup = b.setup := by
  apply setup_modifyDevice
  intro d
  rfl

/-- A read that fails changes nothing but the timeout its device notes. -/
theorem read_unnoted_of_error {e : PortError} (h : (b.read k size).1 = .error e) :
    (b.read k size).2.unnoted = b.unnoted := by
  unfold read at h ⊢
  cases hk : b.handle? k with
  | none => rfl
  | some hd =>
    simp only [hk] at h ⊢
    split
    · exact unnoted_noteRead b hd.device _
    · rename_i hd' d halive
      rw [halive] at h
      split
      · exact unnoted_noteRead b hd.device _
      · rename_i hnonempty
        simp only [hnonempty, Bool.false_eq_true, if_false] at h
        cases h

/-- A read succeeds only through a live handle. -/
theorem alive_of_read_ok {bs : List UInt8} (h : (b.read k size).1 = .ok bs) :
    ∃ p, b.alive k = .ok p := by
  unfold read at h
  cases hk : b.handle? k with
  | none => simp [hk] at h
  | some hd =>
    simp only [hk] at h
    split at h
    · cases h
    · rename_i hd' d halive
      exact alive_of_setup_eq (setup_noteRead b hd.device _).symm halive

/-- A read through a live handle fails only by timing out. -/
theorem read_timeout_of_alive {p : Handle × Device} {e : PortError} (ha : b.alive k = .ok p)
    (h : (b.read k size).1 = .error e) : e.isTimeout = true := by
  obtain ⟨hk, -⟩ := alive_eq_ok ha
  -- noting the timeout leaves the handle alive
  obtain ⟨p', hp'⟩ := alive_of_setup_eq (setup_noteRead b p.1.device (some p.1.timeoutMs)) ha
  unfold read at h
  simp only [hk] at h
  rw [hp'] at h
  split at h
  · rename_i heq
    cases heq
  · split at h
    · cases h
      rfl
    · cases h

/-- A live handle tells how many bytes wait on its device. -/
theorem available_of_alive {p : Handle × Device} (ha : b.alive k = .ok p) :
    b.available k = .ok p.2.queue.length := by
  simp [available, ha, bind, Except.bind, pure, Except.pure]

end Bench

end SerialHub.Port

namespace SerialHub.Registry

open SerialHub.Line
open SerialHub.Port

/-- The registry without the timeouts its devices noted of their last reads. -/
def unnoted (r : Registry) : Registry :=
  { r with bench := r.bench.unnoted }

variable {r : Registry} {b : Bench} {k : Nat}

/-! ## Reads -/

/-- A read in blocks through a live handle succeeds: a block that times out ends it with what
it has, and a block that succeeds leaves the handle alive for the next. -/
theorem readBlocks_ok_of_alive {p : Handle × Device} (ha : b.alive k = .ok p) (wanted : Nat)
    (pastDeadline : Bool) (fuel : Nat) (out : List UInt8) :
    ∃ bs, (readBlocks k wanted pastDeadline fuel b out).1 = .ok bs := by
  induction fuel generalizing b p out with
  | zero => exact ⟨out, rfl⟩
  | succ fuel ih =>
    unfold readBlocks
    split
    · exact ⟨out, rfl⟩
    · have hsetup := Bench.read_setup b k (min (wanted - out.length) readChunk)
      cases hres : b.read k (min (wanted - out.length) readChunk) with
      | mk res b' =>
        rw [hres] at hsetup
        cases res with
        | error err =>
          -- through a live handle a block fails only by timing out, which ends the read
          have hfail : (b.read k (min (wanted - out.length) readChunk)).1 = .error err := by
            rw [hres]
          simp only [Bench.read_timeout_of_alive ha hfail, if_true]
          exact ⟨out, rfl⟩
        | ok bs =>
          simp only
          split
          · exact ⟨_, rfl⟩
          · obtain ⟨p', hp'⟩ := Bench.alive_of_setup_eq hsetup ha
            exact ih hp' _

/-- A read in blocks that fails failed on its first block, and changed nothing but the timeout
its device notes. -/
theorem readBlocks_unnoted_of_error {wanted : Nat} {pastDeadline : Bool} {fuel : Nat}
    {out : List UInt8} {e : PortError} (h : (readBlocks k wanted pastDeadline fuel b out).1 = .error e) :
    (readBlocks k wanted pastDeadline fuel b out).2.unnoted = b.unnoted := by
  cases fuel with
  | zero => cases h
  | succ fuel =>
    unfold readBlocks at h ⊢
    by_cases hdone : out.length ≥ wanted
    · simp only [hdone, if_true] at h
      cases h
    · simp only [hdone, if_false] at h ⊢
      have hsetup := Bench.read_setup b k (min (wanted - out.length) readChunk)
      generalize hres : b.read k (min (wanted - out.length) readChunk) = first at h hsetup ⊢
      obtain ⟨res, b'⟩ := first
      cases res with
      | error err =>
        dsimp only at h hsetup ⊢
        have hfail : (b.read k (min (wanted - out.length) readChunk)).1 = .error err := by
          rw [hres]
        by_cases htimeout : err.isTimeout = true
        · simp only [htimeout, if_true] at h
          cases h
        · simp only [htimeout, Bool.false_eq_true, if_false]
          have hb := Bench.read_unnoted_of_error hfail
          rw [hres] at hb
          exact hb
      | ok bs =>
        -- a first block that succeeded leaves the handle alive, and then no block fails
        dsimp only at h hsetup ⊢
        split at h
        · cases h
        · have hok : (b.read k (min (wanted - out.length) readChunk)).1 = .ok bs := by
            rw [hres]
          obtain ⟨p, hp⟩ := Bench.alive_of_read_ok hok
          obtain ⟨p', hp'⟩ := Bench.alive_of_setup_eq hsetup hp
          obtain ⟨bs', hbs'⟩ := readBlocks_ok_of_alive hp' wanted pastDeadline fuel (out ++ bs)
          rw [hbs'] at h
          cases h

/-- A read through a live handle succeeds, with or without a size. -/
theorem readFrom_ok_of_alive {p : Handle × Device} (ha : b.alive k = .ok p) (size : Option Nat)
    (timeoutMs : Nat) : ∃ bs, (readFrom b k size timeoutMs).1 = .ok bs := by
  unfold readFrom
  dsimp only
  cases size with
  | some n =>
    cases n with
    | zero => exact ⟨[], rfl⟩
    | succ n => exact readBlocks_ok_of_alive ha _ _ _ _
  | none =>
    -- without a size the read asks the handle how much is queued, which a live handle tells
    rw [Bench.available_of_alive ha]
    cases p.2.queue.length with
    | zero => exact ⟨[], rfl⟩
    | succ n => exact readBlocks_ok_of_alive ha _ _ _ _

/-- A read that fails changed nothing but the timeout its device notes. -/
theorem readFrom_unnoted_of_error {size : Option Nat} {timeoutMs : Nat} {e : PortError}
    (h : (readFrom b k size timeoutMs).1 = .error e) :
    (readFrom b k size timeoutMs).2.unnoted = b.unnoted := by
  unfold readFrom at h ⊢
  dsimp only at h ⊢
  cases size with
  | some n =>
    cases n with
    | zero => cases h
    | succ n => exact readBlocks_unnoted_of_error h
  | none =>
    generalize b.available k = wanted at h ⊢
    cases wanted with
    | error err => rfl
    | ok n =>
      cases n with
      | zero => cases h
      | succ n => exact readBlocks_unnoted_of_error h

/-- Reading from a port either succeeds or changes nothing but the timeout a device notes: a read
that sets its own timeout does so through a live handle, and then succeeds. -/
theorem readData_unnoted_or_ok (r : Registry) (port : String) (size timeoutMs : Option Nat) :
    (r.readData port size timeoutMs).2.unnoted = r.unnoted ∨
      ∃ bs, (r.readData port size timeoutMs).1 = .ok bs := by
  unfold readData
  cases he : r.entry? port with
  | none => exact .inl rfl
  | some e =>
    dsimp only
    cases timeoutMs with
    | none =>
      simp only [Option.getD_none]
      generalize hrf : readFrom r.bench e.handle size (r.bench.timeoutOf e.handle) = read
      obtain ⟨res, b'⟩ := read
      cases res with
      | ok bs => exact .inr ⟨bs, rfl⟩
      | error err =>
        have hfail : (readFrom r.bench e.handle size (r.bench.timeoutOf e.handle)).1 = .error err := by
          rw [hrf]
        have hb := readFrom_unnoted_of_error hfail
        rw [hrf] at hb
        exact .inl (congrArg (fun b => ({ r with bench := b } : Registry)) hb)
    | some t =>
      simp only [Option.getD_some]
      cases hset : r.bench.setTimeout e.handle t with
      | error err => exact .inl rfl
      | ok b1 =>
        obtain ⟨⟨p, hp⟩, rfl⟩ := Bench.setTimeout_eq_ok hset
        -- the handle took the timeout, so it is alive, and the read succeeds
        obtain ⟨p1, hp1⟩ := alive_modifyHandle_timeout (t := t) hp
        obtain ⟨bs, hbs⟩ := readFrom_ok_of_alive hp1 size t
        dsimp only
        rw [hbs]
        exact .inr ⟨bs, rfl⟩

/-! ## The other calls -/

/-- Opening a port either succeeds or changes nothing. -/
theorem openPort_unchanged_or_ok (r : Registry) (port : String) (o : Overrides) (ar : Bool) :
    (r.openPort port o ar).2 = r ∨ ∃ s, (r.openPort port o ar).1 = .ok s := by
  unfold openPort
  split
  · exact .inl rfl
  · split
    · exact .inl rfl
    · split
      · exact .inr ⟨_, rfl⟩
      · split
        · exact .inl rfl
        · exact .inr ⟨_, rfl⟩

/-- Closing a port either succeeds or changes nothing. -/
theorem closePort_unchanged_or_ok (r : Registry) (port : String) :
    (r.closePort port).2 = r ∨ ∃ u, (r.closePort port).1 = .ok u := by
  unfold closePort
  split
  · exact .inl rfl
  · exact .inr ⟨(), rfl⟩

/-- Reconfiguring a port either succeeds or changes nothing. -/
theorem setConfig_unchanged_or_ok (r : Registry) (port : String) (o : Overrides) :
    (r.setConfig port o).2 = r ∨ ∃ s, (r.setConfig port o).1 = .ok s := by
  unfold setConfig
  split
  · exact .inl rfl
  · split
    · exact .inl rfl
    · split
      · exact .inl rfl
      · exact .inl rfl
      · exact .inr ⟨_, rfl⟩

/-- Writing to a port either succeeds or changes nothing. -/
theorem send_unchanged_or_ok (r : Registry) (port : String) (data : List UInt8) :
    (r.send port data).2 = r ∨ ∃ n, (r.send port data).1 = .ok n := by
  unfold send
  split
  · exact .inl rfl
  · split
    · exact .inl rfl
    · exact .inr ⟨_, rfl⟩

/-- A call that either succeeds or leaves a view of the registry as it was leaves that view as
it was whenever it answers with an error. -/
theorem view_of_error {α β : Type} (view : Registry → β) {call : Except SerialError α × Registry}
    {err : SerialError} (hcall : view call.2 = view r ∨ ∃ a, call.1 = .ok a)
    (h : call.1 = .error err) : view call.2 = view r := by
  rcases hcall with hsame | ⟨a, hok⟩
  · exact hsame
  · rw [hok] at h
    cases h

/-- A failed call changes nothing. Whatever the registry, an open, a close, a reconfiguration
or a write that answers with an error leaves the registry as it was: its entries, and its bench
with every device's counters, write log, configurations and receive queue and every handle's
read timeout. A read that answers with an error leaves it as it was too, except for the timeout
that a device notes of its last read. -/
theorem failed_calls_change_nothing (r : Registry) :
    (∀ port o ar err, (r.openPort port o ar).1 = .error err → (r.openPort port o ar).2 = r) ∧
    (∀ port err, (r.closePort port).1 = .error err → (r.closePort port).2 = r) ∧
    (∀ port o err, (r.setConfig port o).1 = .error err → (r.setConfig port o).2 = r) ∧
    (∀ port data err, (r.send port data).1 = .error err → (r.send port data).2 = r) ∧
    (∀ port size timeoutMs err, (r.readData port size timeoutMs).1 = .error err →
      (r.readData port size timeoutMs).2.unnoted = r.unnoted) :=
  ⟨fun port o ar _ h => view_of_error id (openPort_unchanged_or_ok r port o ar) h,
    fun port _ h => view_of_error id (closePort_unchanged_or_ok r port) h,
    fun port o _ h => view_of_error id (setConfig_unchanged_or_ok r port o) h,
    fun port data _ h => view_of_error id (send_unchanged_or_ok r port data) h,
    fun port size t _ h => view_of_error unnoted (readData_unnoted_or_ok r port size t) h⟩

end SerialHub.Registry
