import SerialHub.Registry.Supervisor
import SerialHub.Proofs.Keyed
import SerialHub.Proofs.Bench

/-!
# The calls of the registry and what each one changes

A registry is changed by its clients' calls, by what a test does to its devices, and by the
supervisor: a whole pass, or a mark and a settling with other calls between them. For each call
this module states once which entry it changes and which handle it opens or closes; a shutdown is
closing the open ports one after another, and a pass a series of checks of single entries.
-/

namespace SerialHub.Registry

open SerialHub.Line
open SerialHub.Port

variable {r : Registry} {port : String}

/-! ## Entries and releases -/

@[simp] theorem modifyEntry_bench (r : Registry) (port : String) (f : Entry → Entry) :
    (r.modifyEntry port f).bench = r.bench := rfl

/-- Changing an entry changes what a lookup of its port finds, and nothing else. -/
theorem entry?_modifyEntry (r : Registry) (port p : String) (f : Entry → Entry) :
    Registry.entry? (r.modifyEntry port f) p = if p = port then (r.entry? port).map f else r.entry? p :=
  Keyed.lookup_modify port p f r.entries

@[simp] theorem release_entries (r : Registry) (h : Nat) : (r.release h).entries = r.entries := by
  unfold release
  split <;> rfl

/-- Letting an open handle go closes it. -/
theorem release_of_open {h : Nat} {hd : Handle} (hh : r.bench.handle? h = some hd)
    (hc : hd.closed = false) :
    r.release h = { r with bench := (Bench.modifyDevice
      (r.bench.modifyHandle h (fun hd => { hd with closed := true })) hd.device
      (fun d => { d with closeCount := d.closeCount + 1 })) } := by
  simp [release, Bench.close_of_open hh hc]

@[simp] theorem entry?_release (r : Registry) (h : Nat) (p : String) :
    Registry.entry? (r.release h) p = r.entry? p := by
  simp [Registry.entry?]

@[simp] theorem entry?_withBench (r : Registry) (b : Bench) (p : String) :
    Registry.entry? { r with bench := b } p = r.entry? p := rfl

/-- A lookup after entering a port. -/
theorem entry?_insert (r : Registry) (port p : String) (e : Entry) :
    Registry.entry? { r with entries := Keyed.insert port e r.entries } p =
      if p = port then some e else r.entry? p :=
  Keyed.lookup_insert port p e r.entries

/-- A lookup after removing a port, when ports are kept in order. -/
theorem entry?_erase {r : Registry} (hs : Keyed.Sorted r.entries) (port p : String) :
    Registry.entry? { r with entries := Keyed.erase port r.entries } p =
      if p = port then none else r.entry? p := by
  split
  · rename_i hp
    subst hp
    exact Keyed.lookup_erase_self p hs
  · rename_i hp
    exact Keyed.lookup_erase_of_ne hp r.entries

@[simp] theorem isOpen_withBench (r : Registry) (b : Bench) (p : String) :
    ({ r with bench := b } : Registry).isOpen p = r.isOpen p := rfl

@[simp] theorem isOpen_modifyEntry (r : Registry) (port p : String) (f : Entry → Entry) :
    (r.modifyEntry port f).isOpen p = r.isOpen p := by
  simp only [isOpen, entry?_modifyEntry]
  split
  · rename_i hp
    subst hp
    exact Option.isSome_map
  · rfl

theorem isOpen_insert (r : Registry) (port p : String) (e : Entry) :
    ({ r with entries := Keyed.insert port e r.entries } : Registry).isOpen p =
      if p = port then true else r.isOpen p := by
  simp only [isOpen, entry?_insert]
  split <;> rfl

theorem isOpen_erase {r : Registry} (hs : Keyed.Sorted r.entries) (port p : String) :
    ({ r with entries := Keyed.erase port r.entries } : Registry).isOpen p =
      if p = port then false else r.isOpen p := by
  simp only [isOpen, entry?_erase hs]
  split <;> rfl

/-- Letting a handle go does not look at the entries. -/
theorem release_with_entries (r : Registry) (L : List (String × Entry)) (h : Nat) :
    ({ r with entries := L } : Registry).release h = { r.release h with entries := L } := by
  unfold release
  cases r.bench.close h <;> simp

/-! ## Client calls -/

/-- Opening a port either changes nothing, or, when the port was not open, opens a handle on the
device registered under its name with the overrides applied to the defaults, and enters it. -/
theorem openPort_cases (r : Registry) (port : String) (o : Overrides) (ar : Bool) :
    (r.openPort port o ar).2 = r ∨
      ∃ config h b, r.entry? port = none ∧ o.apply r.defaults = .ok config ∧
        r.bench.openPort port config = .ok (h, b) ∧
        (r.openPort port o ar).2 =
          { r with bench := b, entries := Keyed.insert port ⟨h, config, ar, false⟩ r.entries } := by
  unfold openPort
  split
  · exact .inl rfl
  · split
    · exact .inl rfl
    · rename_i config hconfig
      split
      · exact .inl rfl
      · rename_i he
        split
        · exact .inl rfl
        · rename_i h b hopen
          exact .inr ⟨config, h, b, he, hconfig, hopen, rfl⟩

/-- Closing an open port removes its entry and lets its handle go. -/
theorem closePort_of_entry {e : Entry} (he : r.entry? port = some e) :
    (r.closePort port).2 = ({ r with entries := Keyed.erase port r.entries }).release e.handle := by
  simp [closePort, he]

/-- Closing a port that is not open changes nothing. -/
theorem closePort_of_none (he : r.entry? port = none) : (r.closePort port).2 = r := by
  simp [closePort, he]

/-- Reconfiguring either changes nothing, or gives the merged configuration to the port's live
handle and stores it in the entry. -/
theorem setConfig_cases (r : Registry) (port : String) (o : Overrides) :
    (r.setConfig port o).2 = r ∨
      ∃ e merged b, r.entry? port = some e ∧ o.apply e.config = .ok merged ∧
        r.bench.applyConfig e.handle merged = .ok b ∧
        (r.setConfig port o).2 =
          ({ r with bench := b }).modifyEntry port (fun e => { e with config := merged }) := by
  unfold setConfig
  split
  · exact .inl rfl
  · rename_i e he
    split
    · exact .inl rfl
    · rename_i merged hmerged
      split
      · exact .inl rfl
      · exact .inl rfl
      · rename_i b hb
        exact .inr ⟨e, merged, b, he, hmerged, hb, rfl⟩

/-- Writing changes device traffic only. -/
theorem send_setup (r : Registry) (port : String) (data : List UInt8) :
    ∃ b, (r.send port data).2 = { r with bench := b } ∧ b.setup = r.bench.setup := by
  unfold send
  split
  · exact ⟨r.bench, rfl, rfl⟩
  · split
    · exact ⟨r.bench, rfl, rfl⟩
    · rename_i n b hw
      exact ⟨b, rfl, Bench.write_setup hw⟩

/-- A read in blocks changes device traffic only. -/
theorem readBlocks_setup (h wanted : Nat) (pastDeadline : Bool) (fuel : Nat) (b : Bench)
    (out : List UInt8) : (readBlocks h wanted pastDeadline fuel b out).2.setup = b.setup := by
  induction fuel generalizing b out with
  | zero => rfl
  | succ fuel ih =>
    unfold readBlocks
    split
    · rfl
    · have hread := Bench.read_setup b h (min (wanted - out.length) readChunk)
      split
      · rename_i res b' hres
        rw [hres] at hread
        split
        · split <;> exact hread
        · split
          · exact hread
          · rw [ih]
            exact hread

/-- Reading from a handle changes device traffic only. -/
theorem readFrom_setup (b : Bench) (h : Nat) (size : Option Nat) (timeoutMs : Nat) :
    (readFrom b h size timeoutMs).2.setup = b.setup := by
  unfold readFrom
  dsimp only
  split
  · rfl
  · rfl
  · exact readBlocks_setup _ _ _ _ _ _

/-- A handle whose read timeout is changed stays alive. -/
theorem alive_modifyHandle_timeout {b : Bench} {h t : Nat} {p : Handle × Device}
    (ha : b.alive h = .ok p) :
    ∃ p', (b.modifyHandle h (fun hd => { hd with timeoutMs := t })).alive h = .ok p' := by
  obtain ⟨hh, hc, hdev, hpresent, hgen⟩ := Bench.alive_eq_ok ha
  refine ⟨({ p.1 with timeoutMs := t }, p.2), ?_⟩
  simp [Bench.alive, hh, hc, hdev, hpresent, hgen]

/-- Reading from an open port changes device traffic only: a timeout given for the read is set on
the handle and restored afterwards. -/
theorem readData_setup (r : Registry) (port : String) (size : Option Nat)
    (timeoutMs : Option Nat) :
    ∃ b, (r.readData port size timeoutMs).2 = { r with bench := b } ∧ b.setup = r.bench.setup := by
  unfold readData
  split
  · exact ⟨r.bench, rfl, rfl⟩
  · rename_i e he
    cases timeoutMs with
    | none =>
      refine ⟨(readFrom r.bench e.handle size (r.bench.timeoutOf e.handle)).2, ?_,
        readFrom_setup _ _ _ _⟩
      dsimp only
      split <;> rfl
    | some t =>
      dsimp only
      split
      · exact ⟨r.bench, rfl, rfl⟩
      · rename_i b1 hb1
        obtain ⟨⟨p, hp⟩, rfl⟩ := Bench.setTimeout_eq_ok hb1
        refine ⟨_, by split <;> rfl, ?_⟩
        simp only [Option.getD_some]
        -- the read leaves the handle alive, so the configured timeout is set back
        have h2 := readFrom_setup (r.bench.modifyHandle e.handle
          (fun hd => { hd with timeoutMs := t })) e.handle size t
        obtain ⟨p1, hp1⟩ := alive_modifyHandle_timeout (t := t) hp
        obtain ⟨p2, hp2⟩ := Bench.alive_of_setup_eq h2 hp1
        rw [Bench.setTimeout_of_alive hp2]
        dsimp only [Except.toOption, Option.getD]
        obtain ⟨hh, -⟩ := Bench.alive_eq_ok hp
        have hs : ∀ (b : Bench) (f : Handle → Handle), (b.modifyHandle e.handle f).setup =
            b.setup.modifyHandle e.handle f := fun _ _ => rfl
        rw [hs, h2, hs, Bench.modifyHandle, Bench.modifyHandle]
        simp only [Bench.setup_handles, updateAt_updateAt]
        rw [updateAt_eq_self]
        · rfl
        · intro x hx
          have hx' : x = p.1 := Option.some.inj (hx.symm.trans hh)
          subst hx'
          simp [Bench.timeoutOf_eq hh]

/-- A test's action on a device changes that device's state only. -/
theorem actOn_eq (r : Registry) (i : Nat) (a : DeviceAction) :
    r.actOn i a = { r with bench := r.bench.modifyDevice i (·.act a) } := rfl

/-- Closing every port is closing the open ports one after another, in order of name. -/
theorem shutdown_eq_foldl_closePort (r : Registry) :
    r.shutdown = r.entries.foldl (fun acc p => (acc.closePort p.1).2) r := by
  unfold shutdown
  suffices h : ∀ (L : List (String × Entry)) (a : Registry), a.entries = L →
      L.foldl (fun acc p => acc.release p.2.handle) { a with entries := [] } =
        L.foldl (fun acc p => (acc.closePort p.1).2) a from h r.entries r rfl
  intro L
  induction L with
  | nil =>
    intro a ha
    cases a
    simp_all
  | cons p rest ih =>
    intro a ha
    obtain ⟨port, e⟩ := p
    have he : a.entry? port = some e := by simp [Registry.entry?, ha]
    have herase : Keyed.erase port a.entries = rest := by simp [ha, Keyed.erase]
    -- closing the first port lets go the same handle that shutting down lets go first
    have hclose : (a.closePort port).2 = { a.release e.handle with entries := rest } := by
      rw [closePort_of_entry he, herase, release_with_entries]
    have hshut : ({ a with entries := [] } : Registry).release e.handle =
        { a.release e.handle with entries := [] } := release_with_entries a [] e.handle
    simp only [List.foldl_cons]
    rw [hclose, hshut, ← ih _ rfl]

/-! ## The supervisor -/

/-- Marking either changes nothing, or flags the entry that holds the given handle and is not
flagged, giving its stored configuration. -/
theorem markReconnecting_cases (r : Registry) (port : String) (stale : Nat) :
    r.markReconnecting port stale = (none, r) ∨
      ∃ e, r.entry? port = some e ∧ e.handle = stale ∧ e.reconnecting = false ∧
        r.markReconnecting port stale =
          (some e.config, r.modifyEntry port (fun e => { e with reconnecting := true })) := by
  unfold markReconnecting
  split
  · rename_i e he
    split
    · rename_i hcond
      simp only [Bool.and_eq_true, beq_iff_eq, Bool.not_eq_true'] at hcond
      exact .inr ⟨e, he, hcond.1, hcond.2, rfl⟩
    · exact .inl rfl
  · exact .inl rfl

/-- The four ways a reopening is settled: the open fails and the mark is cleared if the entry
still holds the dead handle; or the open succeeds and the fresh handle replaces the dead one,
which is let go; or the fresh handle is let go because the entry is gone or holds another. -/
theorem reconnect_cases (r : Registry) (port : String) (stale : Nat) (config : LineConfig) :
    (∃ err e, r.bench.openPort port config = .error err ∧ r.entry? port = some e ∧
      e.handle = stale ∧
      r.reconnect port stale config = r.modifyEntry port (fun e => { e with reconnecting := false }))
    ∨ (∃ err, r.bench.openPort port config = .error err ∧
      (∀ e, r.entry? port = some e → e.handle ≠ stale) ∧ r.reconnect port stale config = r)
    ∨ (∃ fresh b e, r.bench.openPort port config = .ok (fresh, b) ∧ r.entry? port = some e ∧
      e.handle = stale ∧
      r.reconnect port stale config = (({ r with bench := b }).modifyEntry port
        (fun e => { e with handle := fresh, reconnecting := false })).release stale)
    ∨ (∃ fresh b, r.bench.openPort port config = .ok (fresh, b) ∧
      (∀ e, r.entry? port = some e → e.handle ≠ stale) ∧
      r.reconnect port stale config = ({ r with bench := b }).release fresh) := by
  unfold reconnect
  split
  · rename_i err hopen
    split
    · rename_i e he
      split
      · rename_i hs
        exact .inl ⟨err, e, hopen, he, by simpa using hs, rfl⟩
      · rename_i hs
        refine .inr (.inl ⟨err, hopen, ?_, rfl⟩)
        intro e' he'
        rw [he] at he'
        cases he'
        simpa using hs
    · rename_i he
      exact .inr (.inl ⟨err, hopen, fun e' he' => by simp [he] at he', rfl⟩)
  · rename_i fresh b hopen
    simp only
    have he' : Registry.entry? { r with bench := b } port = r.entry? port := rfl
    split
    · rename_i e he
      rw [he'] at he
      split
      · rename_i hs
        exact .inr (.inr (.inl ⟨fresh, b, e, hopen, he, by simpa using hs, rfl⟩))
      · rename_i hs
        refine .inr (.inr (.inr ⟨fresh, b, hopen, ?_, rfl⟩))
        intro e' he''
        rw [he] at he''
        cases he''
        simpa using hs
    · rename_i he
      rw [he'] at he
      exact .inr (.inr (.inr ⟨fresh, b, hopen, fun e' he'' => by simp [he] at he'', rfl⟩))

/-- A reopening whose dead handle is no longer the one its port holds, because the port was
closed, reopened or already reopened, changes no entry. -/
theorem reconnect_entries_of_ne {stale : Nat} (config : LineConfig)
    (h : ∀ e, r.entry? port = some e → e.handle ≠ stale) :
    (r.reconnect port stale config).entries = r.entries := by
  rcases reconnect_cases r port stale config with
    ⟨_, e, _, he, hs, -⟩ | ⟨_, _, _, hr⟩ | ⟨_, _, e, _, he, hs, -⟩ | ⟨_, _, _, _, hr⟩
  · exact absurd hs (h e he)
  · rw [hr]
  · exact absurd hs (h e he)
  · rw [hr, release_entries]

/-- A reopening of a port changes no other port's entry. -/
theorem entry?_reconnect_of_ne {p : String} (stale : Nat) (config : LineConfig) (hp : p ≠ port) :
    Registry.entry? (r.reconnect port stale config) p = r.entry? p := by
  rcases reconnect_cases r port stale config with
    ⟨-, -, -, -, -, hr⟩ | ⟨-, -, -, hr⟩ | ⟨_, _, _, -, -, -, hr⟩ | ⟨_, _, -, -, hr⟩
  · rw [hr, entry?_modifyEntry, if_neg hp]
  · rw [hr]
  · rw [hr, entry?_release, entry?_modifyEntry, if_neg hp, entry?_withBench]
  · rw [hr, entry?_release, entry?_withBench]

/-- Letting a handle go keeps the names, the number of handles and every device's count of
opens. -/
theorem release_keeps (r : Registry) (h : Nat) :
    (r.release h).bench.names = r.bench.names ∧
      (r.release h).bench.handles.length = r.bench.handles.length ∧
      ∀ i, ((r.release h).bench.device? i).map Device.openCount =
        (r.bench.device? i).map Device.openCount := by
  unfold release
  split
  · rename_i b hb
    obtain ⟨hd, -, -, rfl⟩ := Bench.close_eq_ok hb
    refine ⟨rfl, by simp, fun i => ?_⟩
    simp only [Bench.device?_modifyDevice, Bench.device?_modifyHandle]
    split <;> cases r.bench.device? i <;> rfl
  · exact ⟨rfl, rfl, fun _ => rfl⟩

/-- A reopening keeps the names, removes no handle, and opens no device but the one registered
under its port. -/
theorem reconnect_bench (r : Registry) (port : String) (stale : Nat) (config : LineConfig) :
    (r.reconnect port stale config).bench.names = r.bench.names ∧
      r.bench.handles.length ≤ (r.reconnect port stale config).bench.handles.length ∧
      ∀ i, r.bench.lookup? port ≠ some i →
        ((r.reconnect port stale config).bench.device? i).map Device.openCount =
          (r.bench.device? i).map Device.openCount := by
  rcases reconnect_cases r port stale config with
    ⟨-, -, -, -, -, hr⟩ | ⟨-, -, -, hr⟩ | ⟨fresh, b, -, hopen, -, -, hr⟩ |
      ⟨fresh, b, hopen, -, hr⟩
  · rw [hr]
    exact ⟨rfl, le_refl _, fun _ _ => rfl⟩
  · rw [hr]
    exact ⟨rfl, le_refl _, fun _ _ => rfl⟩
  · -- the fresh handle is opened on the port's device, and the dead one let go
    obtain ⟨-, hlen, hnames, hdev⟩ := Bench.openPort_keeps hopen
    obtain ⟨hnames', hlen', hopens⟩ := release_keeps (({ r with bench := b } : Registry).modifyEntry
      port (fun e => { e with handle := fresh, reconnecting := false })) stale
    rw [hr, hlen', hnames']
    refine ⟨hnames, by simp [hlen], fun i hi => ?_⟩
    rw [hopens i]
    simp [hdev i hi]
  · obtain ⟨-, hlen, hnames, hdev⟩ := Bench.openPort_keeps hopen
    obtain ⟨hnames', hlen', hopens⟩ := release_keeps ({ r with bench := b } : Registry) fresh
    rw [hr, hlen', hnames']
    refine ⟨hnames, by simp [hlen], fun i hi => ?_⟩
    rw [hopens i]
    simp [hdev i hi]

/-- Checking one entry either changes nothing or marks it and settles its reopening at once. -/
theorem checkOne_cases (r : Registry) (port : String) (h : Nat) :
    r.checkOne port h = r ∨
      ∃ config r', r.markReconnecting port h = (some config, r') ∧
        r.checkOne port h = r'.reconnect port h config := by
  unfold checkOne
  split
  · exact .inl rfl
  · split
    · rename_i config r' hm
      exact .inr ⟨config, r', hm, rfl⟩
    · rename_i r' hm
      rcases markReconnecting_cases r port h with hm' | ⟨e, _, _, _, hm'⟩
      · rw [hm'] at hm
        cases hm
        exact .inl rfl
      · rw [hm'] at hm
        cases hm

/-- What every single check of a pass keeps, the whole pass keeps. The checks are of entries
that asked to be reopened and were not being reopened when the pass began. -/
theorem checkPorts_induction {P : Registry → Prop} (r : Registry) (h0 : P r)
    (hstep : ∀ r' port e, (port, e) ∈ r.entries → e.autoReconnect = true →
      e.reconnecting = false → P r' → P (r'.checkOne port e.handle)) : P r.checkPorts := by
  unfold checkPorts
  simp only
  suffices h : ∀ (L : List (String × Entry)) (a : Registry),
      (∀ p ∈ L, p ∈ r.entries ∧ p.2.autoReconnect = true ∧ p.2.reconnecting = false) → P a →
        P (L.foldl (fun acc p => acc.checkOne p.1 p.2.handle) a) by
    apply h _ r _ h0
    intro p hp
    obtain ⟨hmem, hcond⟩ := List.mem_filter.mp hp
    simp only [Bool.and_eq_true, Bool.not_eq_true'] at hcond
    exact ⟨hmem, hcond⟩
  intro L
  induction L with
  | nil => intro a _ ha; exact ha
  | cons p rest ih =>
    intro a hL ha
    obtain ⟨hmem, har, hrc⟩ := hL p (by simp)
    exact ih _ (fun q hq => hL q (by simp [hq])) (hstep a p.1 p.2 hmem har hrc ha)

/-! ## Calls and the registries they reach -/

end SerialHub.Registry

namespace SerialHub.Registry

open SerialHub.Line
open SerialHub.Port

/-- A call that can change the registry or its devices, other than the two halves of a
reopening: what clients, tests and a whole supervisor pass do. -/
inductive Call where
  | act (device : Nat) (a : DeviceAction)
  | addDevice (name : String)
  | openPort (port : String) (o : Overrides) (autoReconnect : Bool)
  | closePort (port : String)
  | setConfig (port : String) (o : Overrides)
  | send (port : String) (data : List UInt8)
  | read (port : String) (size : Option Nat) (timeoutMs : Option Nat)
  | checkPorts
  | shutdown

namespace Call

/-- The registry after a call, whatever the call answered. -/
def run : Call → Registry → Registry
  | .act i a, r => r.actOn i a
  | .addDevice name, r => { r with bench := r.bench.addDevice name }
  | .openPort port o ar, r => (r.openPort port o ar).2
  | .closePort port, r => (r.closePort port).2
  | .setConfig port o, r => (r.setConfig port o).2
  | .send port data, r => (r.send port data).2
  | .read port size t, r => (r.readData port size t).2
  | .checkPorts, r => r.checkPorts
  | .shutdown, r => r.shutdown

/-- A device is registered under a name that no device has yet: each device name is registered
once. Every other call may be made at any time. -/
def Admissible : Call → Registry → Prop
  | .addDevice name, r => r.bench.lookup? name = none
  | _, _ => True

end Call

/-- The registries reached from an empty registry over no devices by any calls, and by marks and
settlings of reopenings with any arguments, in any order and any number of times. -/
inductive Reachable : Registry → Prop
  | empty (blacklist : Blacklist) (defaults : LineConfig) :
      Reachable { bench := {}, blacklist, defaults }
  | call {r : Registry} (c : Call) : Reachable r → c.Admissible r → Reachable (c.run r)
  | mark {r : Registry} (port : String) (stale : Nat) :
      Reachable r → Reachable (r.markReconnecting port stale).2
  | reconnect {r : Registry} (port : String) (stale : Nat) (config : LineConfig) :
      Reachable r → Reachable (r.reconnect port stale config)

end SerialHub.Registry
