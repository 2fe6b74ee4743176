import SerialHub.Proofs.Registry.FailedCalls

/-!
# Reading from a live port

A read through a live handle, with nothing arriving while it runs, takes bytes off the front of
its device's queue and returns exactly those, in blocks of at most `readChunk`, until it has what
it wants, the queue is empty or, with a zero timeout, after the first block; the handle's timeout
is then as before. The loop of block reads is described once in closed form, by induction over its
fuel. Main statement: `readData_takes_prefix`.
-/

namespace SerialHub.Port

namespace Bench

/-- The bench after reads through a handle on device `i` took the first `k` bytes of its queue,
each read noting the timeout `t`. -/
def consumed (b : Bench) (i k t : Nat) : Bench :=
  b.modifyDevice i (fun d => { d with queue := d.queue.drop k, lastReadTimeout := some t })

variable {b : Bench} {h : Nat} {hd : Handle} {d : Device}

@[simp] theorem consumed_handles (b : Bench) (i k t : Nat) :
    (b.consumed i k t).handles = b.handles :=
  rfl

/-- Reads through one device compose: their counts of bytes taken add up. -/
theorem consumed_consumed (b : Bench) (i j k t : Nat) :
    (b.consumed i j t).consumed i k t = b.consumed i (j + k) t := by
  simp only [consumed, modifyDevice, updateAt_updateAt]
  congr
  funext d
  simp

/-- Two reads that leave the same bytes queued leave the same bench. -/
theorem consumed_congr {i j k t : Nat} (hi : b.device? i = some d)
    (hjk : d.queue.drop j = d.queue.drop k) : b.consumed i j t = b.consumed i k t := by
  simp only [consumed, modifyDevice, updateAt]
  rw [show b.devices[i]? = some d from hi]
  simp [hjk]

/-- Reads through a live handle leave it alive, on its device with the bytes taken off. -/
theorem alive_consumed (ha : b.alive h = .ok (hd, d)) (k t : Nat) :
    (b.consumed hd.device k t).alive h =
      .ok (hd, { d with queue := d.queue.drop k, lastReadTimeout := some t }) := by
  obtain ⟨hh, hc, hdev, hpresent, hgen⟩ := alive_eq_ok ha
  simp [alive, consumed, hh, hc, hdev, hpresent, hgen]

/-- A read through a live handle takes what is queued, up to the size asked for, and notes the
handle's timeout; with nothing queued, a read of at least one byte times out. -/
theorem read_of_alive (ha : b.alive h = .ok (hd, d)) (k : Nat) :
    b.read h k = (if d.queue = [] ∧ k ≠ 0 then .error (.io .timedOut "Operation timed out")
      else .ok (d.queue.take k), b.consumed hd.device k hd.timeoutMs) := by
  obtain ⟨hh, -, hdev, -⟩ := alive_eq_ok ha
  -- the read first notes its timeout, which leaves the handle alive on the same queue
  have hnoted := alive_consumed ha 0 hd.timeoutMs
  have hnote : b.modifyDevice hd.device (fun d => { d with lastReadTimeout := some hd.timeoutMs }) =
      b.consumed hd.device 0 hd.timeoutMs := by
    simp [consumed]
  unfold read
  rw [hh]
  dsimp only
  rw [hnote, hnoted]
  dsimp only
  split
  · -- nothing queued and a byte asked for: the read times out having only noted its timeout
    rename_i hempty
    simp only [List.drop_zero, Bool.and_eq_true, List.isEmpty_iff, bne_iff_ne, ne_eq] at hempty
    rw [if_pos hempty]
    exact congrArg _ (consumed_congr hdev (by simp [hempty.1]))
  · rename_i hnonempty
    simp only [List.drop_zero, Bool.and_eq_true, List.isEmpty_iff, bne_iff_ne, ne_eq] at hnonempty
    rw [if_neg hnonempty, consumed, consumed, modifyDevice, modifyDevice, modifyDevice,
      updateAt_updateAt]
    rfl

/-- Setting the timeout of a live handle keeps it alive on the same device. -/
theorem alive_withTimeout (ha : b.alive h = .ok (hd, d)) (t : Nat) :
    (b.modifyHandle h (fun x => { x with timeoutMs := t })).alive h =
      .ok ({ hd with timeoutMs := t }, d) := by
  obtain ⟨hh, hc, hdev, hpresent, hgen⟩ := alive_eq_ok ha
  simp [alive, hh, hc, hdev, hpresent, hgen]

/-- Setting a handle's timeout and then its old one back leaves the bench as it was. -/
theorem withTimeout_restore (hh : b.handle? h = some hd) (t : Nat) :
    (b.modifyHandle h (fun x => { x with timeoutMs := t })).modifyHandle h
      (fun x => { x with timeoutMs := hd.timeoutMs }) = b := by
  simp only [modifyHandle, updateAt_updateAt]
  rw [updateAt_eq_self]
  intro x hx
  have hx' : x = hd := Option.some.inj (hx.symm.trans hh)
  subst hx'
  rfl

theorem consumed_modifyHandle (b : Bench) (h i k t : Nat) (f : Handle → Handle) :
    (b.modifyHandle h f).consumed i k t = (b.consumed i k t).modifyHandle h f :=
  rfl

end Bench

end SerialHub.Port

namespace SerialHub.Registry

open SerialHub.Line
open SerialHub.Port

variable {b : Bench} {h : Nat} {hd : Handle} {d : Device}

/-! ## The loop of block reads -/

/-- One step of the loop that does not stop at once, having what it wants: it reads a block of
what is still wanted, at most `readChunk` bytes, and stops there when nothing was queued or its
deadline has passed. -/
theorem readBlocks_step (ha : b.alive h = .ok (hd, d)) {wanted fuel : Nat} {pastDeadline : Bool}
    {out : List UInt8} (hlt : out.length < wanted) :
    readBlocks h wanted pastDeadline (fuel + 1) b out =
      if d.queue = [] ∨ pastDeadline = true then
        (.ok (out ++ d.queue.take (min (wanted - out.length) readChunk)),
          b.consumed hd.device (min (wanted - out.length) readChunk) hd.timeoutMs)
      else readBlocks h wanted pastDeadline fuel
        (b.consumed hd.device (min (wanted - out.length) readChunk) hd.timeoutMs)
        (out ++ d.queue.take (min (wanted - out.length) readChunk)) := by
  have hblock : 0 < min (wanted - out.length) readChunk := by simp [readChunk]; omega
  rw [readBlocks.eq_2, if_neg (by omega), Bench.read_of_alive ha]
  dsimp only
  by_cases hempty : d.queue = []
  · -- nothing queued: the block times out and the loop ends with what it has
    rw [if_pos ⟨hempty, by omega⟩, if_pos (Or.inl hempty)]
    simp [PortError.isTimeout, hempty]
  · have hbs : (d.queue.take (min (wanted - out.length) readChunk)).isEmpty = false := by
      simp [hempty]
      omega
    rw [if_neg (fun hq => hempty hq.1)]
    cases pastDeadline <;> simp [hbs, hempty]

/-- With time left, the loop reads blocks until it has what it wants or the queue is empty: it
returns the bytes wanted, as many as are queued, and leaves the rest. Enough fuel is one more
than the bytes still wanted, since every block that does not end the loop brings a byte. -/
theorem readBlocks_drains (ha : b.alive h = .ok (hd, d)) {wanted fuel : Nat} {out : List UInt8}
    (hfuel : wanted - out.length < fuel) :
    readBlocks h wanted false fuel b out =
      if out.length < wanted then
        (.ok (out ++ d.queue.take (wanted - out.length)),
          b.consumed hd.device (wanted - out.length) hd.timeoutMs)
      else (.ok out, b) := by
  induction fuel generalizing b d out with
  | zero => omega
  | succ fuel ih =>
    obtain ⟨-, -, hdev, -⟩ := Bench.alive_eq_ok ha
    by_cases hdone : out.length ≥ wanted
    · rw [readBlocks.eq_2, if_pos hdone, if_neg (by omega)]
    have hlt : out.length < wanted := by omega
    rw [readBlocks_step ha hlt, if_pos hlt]
    by_cases hempty : d.queue = []
    · rw [if_pos (Or.inl hempty)]
      simp only [hempty, List.take_nil]
      exact congrArg _ (Bench.consumed_congr hdev (by simp [hempty]))
    -- a block came in; the loop goes on from the queue without it
    have hq : 0 < d.queue.length := List.length_pos_of_ne_nil hempty
    rw [if_neg (by simp [hempty])]
    generalize hk : min (wanted - out.length) readChunk = k
    have hkn : k ≤ wanted - out.length := by omega
    have hk0 : 0 < k := by simp [← hk, readChunk]; omega
    rw [ih (Bench.alive_consumed ha k hd.timeoutMs) (by simp; omega)]
    simp only [List.length_append, List.length_take, Bench.consumed_consumed, List.append_assoc]
    by_cases hmore : out.length + min k d.queue.length < wanted
    · rw [if_pos hmore]
      -- either the block was full, or it emptied the queue and nothing more is there
      have hrest : (d.queue.drop k).take (wanted - (out.length + min k d.queue.length)) =
          (d.queue.drop k).take (wanted - out.length - k) := by
        by_cases hfull : k ≤ d.queue.length
        · rw [Nat.min_eq_left hfull, Nat.sub_add_eq]
        · rw [List.drop_eq_nil_of_le (by omega)]
          simp
      have htake : d.queue.take k ++ (d.queue.drop k).take (wanted - out.length - k) =
          d.queue.take (wanted - out.length) := by
        rw [← List.take_add, Nat.add_sub_cancel' hkn]
      refine Prod.ext (by simp [hrest, htake]) (Bench.consumed_congr hdev ?_)
      by_cases hfull : k ≤ d.queue.length
      · congr 1
        omega
      · rw [List.drop_eq_nil_of_le (by omega), List.drop_eq_nil_of_le (by omega)]
    · rw [if_neg hmore]
      -- the block brought everything still wanted
      have hkeq : k = wanted - out.length := by omega
      subst hkeq
      rfl

/-- Past its deadline, the loop reads one block and stops, whatever is still queued. -/
theorem readBlocks_one_block (ha : b.alive h = .ok (hd, d)) {wanted fuel : Nat}
    {out : List UInt8} (hfuel : 0 < fuel) :
    readBlocks h wanted true fuel b out =
      if out.length < wanted then
        (.ok (out ++ d.queue.take (min (wanted - out.length) readChunk)),
          b.consumed hd.device (min (wanted - out.length) readChunk) hd.timeoutMs)
      else (.ok out, b) := by
  obtain ⟨fuel, rfl⟩ : ∃ f, fuel = f + 1 := ⟨fuel - 1, by omega⟩
  by_cases hdone : out.length ≥ wanted
  · rw [readBlocks.eq_2, if_pos hdone, if_neg (by omega)]
  have hlt : out.length < wanted := by omega
  rw [readBlocks_step ha hlt, if_pos (Or.inr rfl), if_pos hlt]

/-- How many bytes a read that wants `wanted` bytes may take with the timeout `timeout`: all of
them while time is left, and one block at most once its deadline has passed, which for a timeout
of zero is at once. -/
def readLimit (wanted timeout : Nat) : Nat :=
  if timeout = 0 then min wanted readChunk else wanted

/-- Reading through a live handle takes the bytes wanted off the front of the queue, as many as
are queued and as many as its timeout lets it. A read that wants nothing reads no block. -/
theorem readFrom_of_alive (ha : b.alive h = .ok (hd, d)) (size : Option Nat) (timeoutMs : Nat) :
    readFrom b h size timeoutMs =
      (.ok (d.queue.take (readLimit (size.getD d.queue.length) timeoutMs)),
        if size.getD d.queue.length = 0 then b
        else
          b.consumed hd.device (readLimit (size.getD d.queue.length) timeoutMs) hd.timeoutMs) := by
  -- without a size a read wants what is queued when it starts
  have hsize : readFrom b h size timeoutMs =
      readFrom b h (some (size.getD d.queue.length)) timeoutMs := by
    cases size with
    | some n => rfl
    | none =>
      unfold readFrom
      rw [Bench.available_of_alive ha]
      rfl
  rw [hsize]
  generalize size.getD d.queue.length = wanted
  unfold readFrom
  cases wanted with
  | zero => simp [readLimit]
  | succ n =>
    show readBlocks h (n + 1) (timeoutMs == 0) (n + 1 + 1) b [] = _
    by_cases hzero : timeoutMs = 0
    · rw [readLimit, if_pos hzero, if_neg (by omega), hzero]
      show readBlocks h (n + 1) true (n + 1 + 1) b [] = _
      rw [readBlocks_one_block ha (by omega : 0 < n + 1 + 1)]
      simp
    · rw [readLimit, if_neg hzero, if_neg (by omega)]
      have hpast : (timeoutMs == 0) = false := by simpa using hzero
      rw [hpast, readBlocks_drains ha]
      · simp
      · simp

/-! ## How many blocks the loop asks for -/

/-- How many blocks the loop of a read asks its handle for, step for step as `readBlocks` runs:
every step that does not stop at once, having what it wants, reads one block. -/
def blockReads (h wanted : Nat) (pastDeadline : Bool) : Nat → Bench → List UInt8 → Nat
  | 0, _, _ => 0
  | fuel + 1, b, out =>
    if out.length ≥ wanted then 0
    else
      let (res, b') := b.read h (min (wanted - out.length) readChunk)
      match res with
      | .error _ => 1
      | .ok bs =>
        if bs.isEmpty || pastDeadline then 1
        else blockReads h wanted pastDeadline fuel b' (out ++ bs) + 1

/-- How many blocks reading from a handle asks for, as `readFrom` runs: none when it wants
nothing. -/
def readFromBlocks (b : Bench) (h : Nat) (size : Option Nat) (timeoutMs : Nat) : Nat :=
  match (match size with
    | some n => Except.ok n
    | none => b.available h) with
  | .error _ => 0
  | .ok 0 => 0
  | .ok n => blockReads h n (timeoutMs == 0) (n + 1) b []

/-- The count of one step of the loop that does not stop at once: one block, and the blocks of
the rest of the loop unless that block ended it. -/
theorem blockReads_step (ha : b.alive h = .ok (hd, d)) {wanted fuel : Nat} {pastDeadline : Bool}
    {out : List UInt8} (hlt : out.length < wanted) :
    blockReads h wanted pastDeadline (fuel + 1) b out =
      if d.queue = [] ∨ pastDeadline = true then 1
      else blockReads h wanted pastDeadline fuel
        (b.consumed hd.device (min (wanted - out.length) readChunk) hd.timeoutMs)
        (out ++ d.queue.take (min (wanted - out.length) readChunk)) + 1 := by
  have hblock : 0 < min (wanted - out.length) readChunk := by simp [readChunk]; omega
  rw [blockReads.eq_2, if_neg (by omega), Bench.read_of_alive ha]
  dsimp only
  by_cases hempty : d.queue = []
  · rw [if_pos ⟨hempty, by omega⟩, if_pos (Or.inl hempty)]
  · have hbs : (d.queue.take (min (wanted - out.length) readChunk)).isEmpty = false := by
      simp [hempty]
      omega
    rw [if_neg (fun hq => hempty hq.1)]
    cases pastDeadline <;> simp [hbs, hempty]

/-- With time left, the loop asks for one block per `readChunk` bytes it takes, rounding up,
and for one more, which times out, when the queue runs out before it has what it wants. -/
theorem blockReads_drains (ha : b.alive h = .ok (hd, d)) {wanted fuel : Nat} {out : List UInt8}
    (hfuel : wanted - out.length < fuel) :
    blockReads h wanted false fuel b out =
      if out.length < wanted then
        (min (wanted - out.length) d.queue.length + readChunk - 1) / readChunk +
          if d.queue.length < wanted - out.length then 1 else 0
      else 0 := by
  induction fuel generalizing b d out with
  | zero => omega
  | succ fuel ih =>
    by_cases hdone : out.length ≥ wanted
    · rw [blockReads.eq_2, if_pos hdone, if_neg (by omega)]
    have hlt : out.length < wanted := by omega
    rw [blockReads_step ha hlt, if_pos hlt]
    by_cases hempty : d.queue = []
    · -- nothing queued: the one block times out
      rw [if_pos (Or.inl hempty)]
      simp [hempty, readChunk]
      omega
    have hq : 0 < d.queue.length := List.length_pos_of_ne_nil hempty
    rw [if_neg (by simp [hempty])]
    generalize hk : min (wanted - out.length) readChunk = k
    have hk0 : 0 < k := by simp [← hk, readChunk]; omega
    rw [ih (Bench.alive_consumed ha k hd.timeoutMs) (by simp; omega)]
    simp only [List.length_append, List.length_take, List.length_drop]
    simp only [readChunk] at hk ⊢
    split_ifs <;> omega

/-- Past its deadline, the loop asks for one block, or none when it has what it wants. -/
theorem blockReads_one_block (ha : b.alive h = .ok (hd, d)) {wanted fuel : Nat}
    {out : List UInt8} (hfuel : 0 < fuel) :
    blockReads h wanted true fuel b out = if out.length < wanted then 1 else 0 := by
  obtain ⟨fuel, rfl⟩ : ∃ f, fuel = f + 1 := ⟨fuel - 1, by omega⟩
  by_cases hdone : out.length ≥ wanted
  · rw [blockReads.eq_2, if_pos hdone, if_neg (by omega)]
  have hlt : out.length < wanted := by omega
  rw [blockReads_step ha hlt, if_pos (Or.inr rfl), if_pos hlt]

/-- Reading from a live handle asks for at most one block per `readChunk` bytes it may take,
rounding up, and one more. -/
theorem readFromBlocks_le (ha : b.alive h = .ok (hd, d)) (size : Option Nat) (timeoutMs : Nat) :
    readFromBlocks b h size timeoutMs ≤
      (min (size.getD d.queue.length) d.queue.length + readChunk - 1) / readChunk + 1 := by
  have hsize : readFromBlocks b h size timeoutMs =
      readFromBlocks b h (some (size.getD d.queue.length)) timeoutMs := by
    cases size with
    | some n => rfl
    | none =>
      unfold readFromBlocks
      rw [Bench.available_of_alive ha]
      rfl
  rw [hsize]
  generalize size.getD d.queue.length = wanted
  unfold readFromBlocks
  cases wanted with
  | zero => simp
  | succ n =>
    show blockReads h (n + 1) (timeoutMs == 0) (n + 1 + 1) b [] ≤ _
    by_cases hzero : timeoutMs = 0
    · rw [hzero]
      show blockReads h (n + 1) true (n + 1 + 1) b [] ≤ _
      rw [blockReads_one_block ha (by omega : 0 < n + 1 + 1)]
      simp
    · have hpast : (timeoutMs == 0) = false := by simpa using hzero
      rw [hpast, blockReads_drains ha (by simp : n + 1 - [].length < n + 1 + 1)]
      simp only [List.length_nil, Nat.sub_zero]
      split_ifs <;> omega

/-! ## A read from an open port -/

/-- A read from an open port whose handle is live, in closed form. It wants the size given, or
everything queued without one, runs with the timeout given, or the handle's own without one,
and takes what `readLimit` allows off the front of the queue. Afterwards only that device's
queue and its note of the last read's timeout have changed: entries and handles, and so every
read timeout, are as they were. -/
theorem readData_of_alive {r : Registry} {port : String} {e : Entry} (he : r.entry? port = some e)
    (ha : r.bench.alive e.handle = .ok (hd, d)) (size t : Option Nat) :
    r.readData port size t =
      (.ok (d.queue.take (readLimit (size.getD d.queue.length) (t.getD hd.timeoutMs))),
        { r with bench := if size.getD d.queue.length = 0 then r.bench
          else r.bench.consumed hd.device (readLimit (size.getD d.queue.length)
            (t.getD hd.timeoutMs)) (t.getD hd.timeoutMs) }) := by
  obtain ⟨hh, -⟩ := Bench.alive_eq_ok ha
  unfold readData
  rw [he]
  dsimp only
  rw [Bench.timeoutOf_eq hh]
  cases t with
  | none =>
    simp only [Option.getD_none]
    rw [readFrom_of_alive ha]
  | some t =>
    simp only [Option.getD_some]
    rw [Bench.setTimeout_of_alive ha]
    dsimp only
    rw [readFrom_of_alive (Bench.alive_withTimeout ha t)]
    dsimp only
    -- the timeout given for the read is set back on the handle, which is still alive
    split
    · rw [Bench.setTimeout_of_alive (Bench.alive_withTimeout ha t)]
      simp only [Except.toOption, Option.getD_some, Bench.withTimeout_restore hh]
    · have halive := Bench.alive_consumed (Bench.alive_withTimeout ha t)
        (readLimit (size.getD d.queue.length) t) t
      rw [Bench.setTimeout_of_alive halive]
      simp only [Except.toOption, Option.getD_some]
      rw [Bench.consumed_modifyHandle,
        Bench.withTimeout_restore (by simpa [Bench.consumed] using hh)]

/-- A read from an open port whose handle is live, with nothing arriving while it runs, for
every size and every timeout, zero included, given for the read or the handle's own. It
succeeds, and what it returns followed by what stays queued is what was queued: no byte is lost
or returned twice. While time is left it returns everything wanted, as many bytes as are queued,
where a read without a size wants everything queued when it starts; with a timeout of zero, a
read of a given size returns one block at most. Its loop asks for at most one block per
`readChunk` bytes it may take, rounding up, and one more. Every handle, with its read timeout,
every entry and every other device are as they were. -/
theorem readData_takes_prefix (r : Registry) (port : String) (e : Entry) (hd : Handle)
    (d : Device) (he : r.entry? port = some e) (ha : r.bench.alive e.handle = .ok (hd, d))
    (size t : Option Nat) :
    ∃ out, (r.readData port size t).1 = .ok out ∧
      (∃ d', (r.readData port size t).2.bench.device? hd.device = some d' ∧
        out ++ d'.queue = d.queue) ∧
      (t.getD hd.timeoutMs ≠ 0 → out.length = min (size.getD d.queue.length) d.queue.length) ∧
      (t.getD hd.timeoutMs = 0 → ∀ n, size = some n →
        out.length = min (min n readChunk) d.queue.length) ∧
      (∀ b hd' d', b.alive e.handle = .ok (hd', d') → d'.queue = d.queue →
        readFromBlocks b e.handle size (t.getD hd.timeoutMs) ≤
          (min (size.getD d.queue.length) d.queue.length + readChunk - 1) / readChunk + 1) ∧
      (r.readData port size t).2.bench.handles = r.bench.handles ∧
      (r.readData port size t).2.entries = r.entries ∧
      ∀ j, j ≠ hd.device → (r.readData port size t).2.bench.device? j = r.bench.device? j := by
  obtain ⟨-, -, hdev, -⟩ := Bench.alive_eq_ok ha
  rw [readData_of_alive he ha]
  refine ⟨_, rfl, ?_, fun hτ => ?_, fun hτ n hn => ?_,
    fun b hd' d' hb hq => hq ▸ readFromBlocks_le hb size _, ?_, rfl, fun j hj => ?_⟩
  · -- the device keeps what the read did not take
    dsimp only
    split
    · rename_i hw
      refine ⟨d, hdev, ?_⟩
      simp [hw, readLimit]
    · refine ⟨{ d with queue := d.queue.drop (readLimit (size.getD d.queue.length)
          (t.getD hd.timeoutMs)), lastReadTimeout := some (t.getD hd.timeoutMs) }, ?_,
        List.take_append_drop _ _⟩
      simp [Bench.consumed, hdev]
  · simp [readLimit, hτ]
  · simp [readLimit, hτ, hn]
  · dsimp only
    split <;> rfl
  · dsimp only
    split
    · rfl
    · simp [Bench.consumed, Ne.symm hj]

/-- Two of three queued bytes, read with the port's own timeout: the read returns two bytes. -/
theorem read_two_of_three_queued :
    let r := (Call.act 0 (.enqueue [1, 2, 3])).run
      ((Call.openPort "P1" {} true).run ((Call.addDevice "P1").run { bench := {} }))
    ∃ out, (r.readData "P1" (some 2) none).1 = .ok out ∧ out.length = 2 := by
  intro r
  obtain ⟨out, hout, -, hlen, -⟩ := readData_takes_prefix r "P1" ⟨0, LineConfig.default, true, false⟩
    ⟨0, 0, 1000, false⟩ { (Device.fresh "P1") with
      queue := [1, 2, 3], configHistory := [LineConfig.default], openCount := 1 }
    (by decide +kernel) rfl (some 2) none
  exact ⟨out, hout, hlen (by decide)⟩

/-- With 5000 bytes queued, a read of 5000 bytes with a timeout of zero returns only its first
block of 4096 bytes, not all 5000: past the deadline the loop stops after one block. -/
theorem zero_timeout_reads_one_block :
    let r := (Call.act 0 (.enqueue (List.replicate 5000 7))).run
      ((Call.openPort "P1" {} true).run ((Call.addDevice "P1").run { bench := {} }))
    (r.readData "P1" (some 5000) (some 0)).1 = .ok (List.replicate 4096 7) ∧
      (r.readData "P1" (some 5000) (some 0)).1 ≠ .ok (List.replicate 5000 7) := by
  intro r
  have he : r.entry? "P1" = some ⟨0, LineConfig.default, true, false⟩ := by decide +kernel
  have ha : r.bench.alive 0 = .ok (⟨0, 0, 1000, false⟩, { (Device.fresh "P1") with
      queue := List.replicate 5000 7, configHistory := [LineConfig.default], openCount := 1 }) :=
    rfl
  have hread := readData_of_alive he ha (some 5000) (some 0)
  have hfirst : (r.readData "P1" (some 5000) (some 0)).1 = .ok (List.replicate 4096 7) := by
    rw [hread]
    show Except.ok (List.take (readLimit 5000 0) (List.replicate 5000 7)) = _
    rw [List.take_replicate]
    rfl
  refine ⟨hfirst, fun hall => ?_⟩
  rw [hfirst] at hall
  have hlen := congrArg List.length (Except.ok.inj hall)
  simp only [List.length_replicate] at hlen
  omega

end SerialHub.Registry
