import SerialHub.Proofs.Registry.Conservation

/-!
# Where the handles of open ports sit, whatever the registrations

Even when a device name is registered again, the handle of an open port is open and on a device of
the port's name, so two open ports hold different handles on different devices. This asks less
than the conservation of handles, and it is what a supervisor pass relies on to leave every other
port alone.
-/

namespace SerialHub.Registry

open SerialHub.Line
open SerialHub.Port

/-- The registries that the calls and the two halves of reopenings reach from an empty one, a
device name being registered any number of times. -/
inductive Reached : Registry → Prop
  | empty (blacklist : Blacklist) (defaults : LineConfig) :
      Reached { bench := {}, blacklist, defaults }
  | call {r : Registry} (c : Call) : Reached r → Reached (c.run r)
  | mark {r : Registry} (port : String) (stale : Nat) :
      Reached r → Reached (r.markReconnecting port stale).2
  | reconnect {r : Registry} (port : String) (stale : Nat) (config : LineConfig) :
      Reached r → Reached (r.reconnect port stale config)

/-- A handle sits for a port when it is open, on a device of the port's name. -/
def SitsFor (b : Bench) (port : String) (k : Nat) : Prop :=
  ∃ hd d, b.handle? k = some hd ∧ hd.closed = false ∧ b.device? hd.device = some d ∧ d.name = port

namespace SitsFor

variable {b : Bench} {port : String} {k : Nat}

theorem lt_length (h : SitsFor b port k) : k < b.handles.length := by
  obtain ⟨hd, -, hh, -⟩ := h
  exact Bench.lt_length_of_handle? hh

/-- Handles that sit for two different ports are two handles. -/
theorem ne {q : String} {k' : Nat} (h : SitsFor b port k) (h' : SitsFor b q k') (hpq : port ≠ q) :
    k ≠ k' := by
  rintro rfl
  obtain ⟨hd, d, hh, -, hdev, hname⟩ := h
  obtain ⟨hd', d', hh', -, hdev', hname'⟩ := h'
  rw [hh] at hh'
  cases hh'
  rw [hdev] at hdev'
  cases hdev'
  exact hpq (hname.symm.trans hname')

/-- A handle still sits where it sat on a bench that keeps it and renames no device. -/
theorem of_bench {b' : Bench} (h : SitsFor b port k) (hh : b'.handle? k = b.handle? k)
    (hdev : ∀ i d, b.device? i = some d → ∃ d', b'.device? i = some d' ∧ d'.name = d.name) :
    SitsFor b' port k := by
  obtain ⟨hd, d, hk, hc, hd₀, hname⟩ := h
  obtain ⟨d', hd', hname'⟩ := hdev hd.device d hd₀
  exact ⟨hd, d', hh.trans hk, hc, hd', hname'.trans hname⟩

end SitsFor

/-- Where the handles of open ports sit. -/
structure Seated (r : Registry) : Prop where
  /-- Open ports are kept in increasing order of name. -/
  sorted : Keyed.Sorted r.entries
  /-- A registered name leads to a device of that name. -/
  named : ∀ name i, r.bench.lookup? name = some i → ∃ d, r.bench.device? i = some d ∧ d.name = name
  /-- The handle of an open port sits for it. -/
  seated : ∀ port e, r.entry? port = some e → SitsFor r.bench port e.handle

namespace Seated

variable {r : Registry}

/-- Where handles sit is read off the books. -/
theorem of_books {r' : Registry} (h : Seated r) (hb : r'.books = r.books) : Seated r' where
  sorted := books_sorted hb h.sorted
  named name i hi := by
    rw [books_lookup? hb] at hi
    obtain ⟨d, hd, hname⟩ := h.named name i hi
    obtain ⟨d', hd', heq⟩ := exists_of_map_eq (books_device? hb i) hd
    simp only [Prod.mk.injEq] at heq
    exact ⟨d', hd', heq.1.trans hname⟩
  seated port e' he' := by
    obtain ⟨e, he, heq⟩ := exists_of_map_eq (books_entry hb port).symm he'
    obtain ⟨hd, d, hh, hc, hdev, hname⟩ := h.seated port e he
    obtain ⟨hd', hh', hheq⟩ := exists_of_map_eq (books_handle? hb e.handle) hh
    simp only [Prod.mk.injEq] at hheq
    obtain ⟨d', hdev', hdeq⟩ := exists_of_map_eq (books_device? hb hd.device) hdev
    simp only [Prod.mk.injEq] at hdeq
    refine ⟨hd', d', ?_, hheq.2.trans hc, by rw [hheq.1]; exact hdev', hdeq.1.trans hname⟩
    rw [← heq]
    exact hh'

/-- The device a registered name leads to has that name. -/
theorem name_of_lookup (h : Seated r) {name : String} {i : Nat} {d : Device}
    (hi : r.bench.lookup? name = some i) (hd : r.bench.device? i = some d) : d.name = name := by
  obtain ⟨d', hd', hname⟩ := h.named name i hi
  rw [hd] at hd'
  cases hd'
  exact hname

/-- A bench that keeps the names, renames no device and keeps the handles of the open ports
keeps them seated. -/
theorem of_bench (h : Seated r) {b : Bench} (hnames : b.names = r.bench.names)
    (hdev : ∀ i d, r.bench.device? i = some d → ∃ d', b.device? i = some d' ∧ d'.name = d.name)
    (hh : ∀ port e, r.entry? port = some e → b.handle? e.handle = r.bench.handle? e.handle) :
    Seated { r with bench := b } where
  sorted := h.sorted
  named name i hi := by
    have hlookup : b.lookup? name = r.bench.lookup? name := by simp [Bench.lookup?, hnames]
    rw [hlookup] at hi
    obtain ⟨d, hd, hname⟩ := h.named name i hi
    obtain ⟨d', hd', hname'⟩ := hdev i d hd
    exact ⟨d', hd', hname'.trans hname⟩
  seated port e he := (h.seated port e he).of_bench (hh port e he) hdev

/-- Giving ports entries whose handles already sit for them, or are theirs already. -/
theorem enter (h : Seated r) {entries : List (String × Entry)} (hs : Keyed.Sorted entries)
    (hentry : ∀ port e, entries.lookup port = some e →
      r.entry? port = some e ∨ SitsFor r.bench port e.handle) :
    Seated { r with entries } where
  sorted := hs
  named := h.named
  seated port e he := by
    rcases hentry port e he with hold | hsits
    · exact h.seated port e hold
    · exact hsits

theorem erase (h : Seated r) (port : String) : Seated { r with entries := Keyed.erase port r.entries } :=
  h.enter (Keyed.sorted_erase port h.sorted) fun p e he => by
    have hp := entry?_erase h.sorted port p
    simp only [Registry.entry?] at hp
    rw [hp] at he
    split at he
    · cases he
    · exact .inl he

/-- Letting go a handle that no open port holds. -/
theorem release (h : Seated r) {k : Nat} (hfree : ∀ port e, r.entry? port = some e → e.handle ≠ k) :
    Seated (r.release k) := by
  unfold Registry.release
  split
  · rename_i b hb
    obtain ⟨hd, -, -, rfl⟩ := Bench.close_eq_ok hb
    refine h.of_bench rfl (fun i d hd' => ?_) (fun port e he => ?_)
    · -- closing counts on the handle's device and keeps its name
      rw [Bench.device?_modifyDevice, Bench.device?_modifyHandle]
      split
      · exact ⟨{ d with closeCount := d.closeCount + 1 }, by rw [hd']; rfl, rfl⟩
      · exact ⟨d, hd', rfl⟩
    · rw [Bench.handle?_modifyDevice, Bench.handle?_modifyHandle,
        if_neg (hfree port e he).symm]
  · exact h

/-- An open on a port's name keeps every handle seated, and its handle sits for the port at the
next free index. -/
theorem opened (h : Seated r) {port : String} {config : LineConfig} {k : Nat} {b : Bench}
    (hopen : r.bench.openPort port config = .ok (k, b)) :
    Seated { r with bench := b } ∧ SitsFor b port k ∧ k = r.bench.handles.length := by
  obtain ⟨j, hj, hdevice⟩ := Bench.openPort_eq_ok hopen
  obtain ⟨d, hd, hk, hnames, hdevs, hhandles, -⟩ := Bench.openDevice_views hdevice
  -- the device opened is the one the port's name leads to
  have hname := h.name_of_lookup hj hd
  have hrenames : ∀ i d', r.bench.device? i = some d' →
      ∃ d'', b.device? i = some d'' ∧ d''.name = d'.name := by
    intro i d' hd'
    rw [hdevs i]
    split
    · rename_i hji
      subst hji
      rw [hd] at hd'
      cases hd'
      exact ⟨_, rfl, rfl⟩
    · exact ⟨d', hd', rfl⟩
  refine ⟨h.of_bench hnames hrenames (fun p e he => ?_), ?_, hk⟩
  · have hlt := (h.seated p e he).lt_length
    rw [hhandles, if_neg (by omega)]
  · refine ⟨⟨j, d.generation, config.readTimeoutMs, false⟩,
      { d with openCount := d.openCount + 1, configHistory := d.configHistory ++ [config] }, ?_, rfl,
      ?_, hname⟩
    · rw [hhandles, if_pos hk]
    · rw [hdevs j, if_pos rfl]

theorem openPort (h : Seated r) (port : String) (o : Overrides) (ar : Bool) :
    Seated (r.openPort port o ar).2 := by
  rcases openPort_cases r port o ar with hr | ⟨config, k, b, -, -, hopen, hr⟩
  · rw [hr]
    exact h
  · obtain ⟨hb, hsits, -⟩ := h.opened hopen
    rw [hr]
    refine hb.enter (Keyed.sorted_insert port _ h.sorted) (fun p e he => ?_)
    rw [Keyed.lookup_insert] at he
    split at he
    · rename_i hp
      cases he
      subst hp
      exact .inr hsits
    · exact .inl he

/-- Closing a port lets go its handle, which no other port holds. -/
theorem closePort (h : Seated r) (port : String) : Seated (r.closePort port).2 := by
  cases he : r.entry? port with
  | none =>
    rw [closePort_of_none he]
    exact h
  | some e =>
    rw [closePort_of_entry he]
    apply (h.erase port).release
    intro p e' he'
    rw [entry?_erase h.sorted] at he'
    split at he'
    · cases he'
    · rename_i hp
      exact (h.seated p e' he').ne (h.seated port e he) hp

/-- Settling a reopening: the fresh handle sits for the port, and the handle let go is held by
no port. -/
theorem reconnect (h : Seated r) (port : String) (stale : Nat) (config : LineConfig) :
    Seated (r.reconnect port stale config) := by
  rcases reconnect_cases r port stale config with
    ⟨-, -, -, -, -, hr⟩ | ⟨-, -, -, hr⟩ | ⟨fresh, b, e, hopen, he, hs, hr⟩ |
      ⟨fresh, b, hopen, -, hr⟩
  · rw [hr]
    exact h.of_books (books_modifyEntry port _ fun _ => rfl)
  · rw [hr]
    exact h
  · obtain ⟨hb, hsits, hk⟩ := h.opened hopen
    have hstale := (h.seated port e he).lt_length
    rw [hr]
    -- the port takes the fresh handle, and every other port keeps its own
    have hswap : Seated (({ r with bench := b }).modifyEntry port
        (fun e => { e with handle := fresh, reconnecting := false })) := by
      refine hb.enter (Keyed.sorted_modify port _ h.sorted) (fun p e' he' => ?_)
      rw [Keyed.lookup_modify] at he'
      split at he'
      · rename_i hp
        subst hp
        rw [show r.entries.lookup p = some e from he] at he'
        cases he'
        exact .inr hsits
      · exact .inl he'
    apply hswap.release
    intro p e' he'
    rw [entry?_modifyEntry] at he'
    split at he'
    · rename_i hp
      subst hp
      rw [entry?_withBench, he] at he'
      cases he'
      show fresh ≠ stale
      omega
    · rename_i hp
      rw [← hs]
      exact (h.seated p e' he').ne (h.seated port e he) hp
  · obtain ⟨hb, -, hk⟩ := h.opened hopen
    rw [hr]
    apply hb.release
    intro p e' he'
    have hlt := (h.seated p e' he').lt_length
    omega

/-- A name registered again leads to the new device; the old one keeps its name and its handles. -/
theorem addDevice (h : Seated r) (name : String) :
    Seated { r with bench := r.bench.addDevice name } where
  sorted := h.sorted
  named n i hi := by
    rw [Bench.lookup?_addDevice] at hi
    split at hi
    · rename_i hn
      cases hi
      refine ⟨Device.fresh name, ?_, hn.symm⟩
      rw [Bench.device?_addDevice, if_neg (Nat.lt_irrefl _), if_pos rfl]
    · obtain ⟨d, hd, hname⟩ := h.named n i hi
      have hlt : i < r.bench.devices.length := (List.getElem?_eq_some_iff.mp hd).1
      exact ⟨d, by rw [Bench.device?_addDevice, if_pos hlt]; exact hd, hname⟩
  seated port e he := by
    obtain ⟨hd, d, hh, hc, hdev, hname⟩ := h.seated port e he
    have hlt : hd.device < r.bench.devices.length := (List.getElem?_eq_some_iff.mp hdev).1
    exact ⟨hd, d, hh, hc, by rw [Bench.device?_addDevice, if_pos hlt]; exact hdev, hname⟩

theorem checkOne (h : Seated r) (port : String) (k : Nat) : Seated (r.checkOne port k) := by
  rcases checkOne_cases r port k with hr | ⟨config, r', hm, hr⟩
  · rw [hr]
    exact h
  · have hmarked : Seated r' := by
      have := h.of_books (books_markReconnecting r port k)
      rwa [hm] at this
    rw [hr]
    exact hmarked.reconnect port k config

theorem checkPorts (h : Seated r) : Seated r.checkPorts :=
  checkPorts_induction r h (fun _ port e _ _ _ h' => h'.checkOne port e.handle)

theorem shutdown (h : Seated r) : Seated r.shutdown := by
  rw [shutdown_eq_foldl_closePort]
  generalize r.entries = L
  induction L generalizing r with
  | nil => exact h
  | cons p rest ih => exact ih (h.closePort p.1)

theorem run (h : Seated r) (c : Call) : Seated (c.run r) := by
  cases c with
  | act i a => exact h.of_books (books_actOn r i a)
  | addDevice name => exact h.addDevice name
  | openPort port o ar => exact h.openPort port o ar
  | closePort port => exact h.closePort port
  | setConfig port o => exact h.of_books (books_setConfig r port o)
  | send port data => exact h.of_books (books_send r port data)
  | read port size t => exact h.of_books (books_readData r port size t)
  | checkPorts => exact h.checkPorts
  | shutdown => exact h.shutdown

theorem empty (blacklist : Blacklist) (defaults : LineConfig) :
    Seated { bench := {}, blacklist, defaults } where
  sorted := Keyed.sorted_nil
  named _ _ hi := by simp [Bench.lookup?] at hi
  seated _ _ he := by simp [Registry.entry?] at he

end Seated

/-- Every registry the calls reach keeps its handles seated, however often a name was
registered. -/
theorem Reached.seated {r : Registry} (hr : Reached r) : Seated r := by
  induction hr with
  | empty blacklist defaults => exact Seated.empty blacklist defaults
  | call c _ ih => exact ih.run c
  | mark port stale _ ih => exact ih.of_books (books_markReconnecting _ port stale)
  | reconnect port stale config _ ih => exact ih.reconnect port stale config

end SerialHub.Registry
