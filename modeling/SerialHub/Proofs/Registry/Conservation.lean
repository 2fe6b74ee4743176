import SerialHub.Proofs.Registry.Steps

/-!
# No handle is leaked and none is closed twice

When each device name is registered once, every registry the calls can reach keeps its books: the
handle of an open port is open and on the device of the port's name, every open handle is held by
an open port, and each device was opened once more than it was closed when its port is open and as
often otherwise. Main statement: `Reachable.handles_balanced`.
-/

namespace SerialHub.Registry

open SerialHub.Line
open SerialHub.Port

/-- Where the handles of open ports sit: on the devices registered under the ports' names. -/
structure Placed (r : Registry) : Prop where
  /-- Each device is registered under its own name, and under no other. -/
  naming : r.bench.Named
  /-- Open ports are kept in increasing order of name. -/
  sorted : Keyed.Sorted r.entries
  /-- The handle of an open port is open, on the device registered under the port's name. -/
  installed : ∀ port e, r.entry? port = some e → ∃ i hd, r.bench.lookup? port = some i ∧
    r.bench.handle? e.handle = some hd ∧ hd.device = i ∧ hd.closed = false

/-- The bookkeeping of handles that every reachable registry keeps. -/
structure Conserved (r : Registry) : Prop extends Placed r where
  /-- Every open handle is held by an open port. -/
  owned : ∀ h hd, r.bench.handle? h = some hd → hd.closed = false →
    ∃ port e, r.entry? port = some e ∧ e.handle = h
  /-- A device was opened once more than it was closed if its port is open, else as often. -/
  balanced : ∀ i d, r.bench.device? i = some d →
    d.openCount = d.closeCount + if r.isOpen d.name then 1 else 0

/-- The bookkeeping halfway through a call that opens or lets go a handle: one open handle `k`,
on the device `i`, is held by no port, and it is the one open of that device not yet balanced by
a close or by an open port. -/
structure Loose (r : Registry) (k i : Nat) : Prop extends Placed r where
  loose : ∃ hd, r.bench.handle? k = some hd ∧ hd.device = i ∧ hd.closed = false
  free : ∀ port e, r.entry? port = some e → e.handle ≠ k
  owned : ∀ h hd, r.bench.handle? h = some hd → hd.closed = false → h ≠ k →
    ∃ port e, r.entry? port = some e ∧ e.handle = h
  balanced : ∀ j d, r.bench.device? j = some d →
    d.openCount = d.closeCount + (if r.isOpen d.name then 1 else 0) + if j = i then 1 else 0

/-- What conservation reads of a registry: the registered names, each device's name and
counters, each handle's device and whether it is closed, and the handle each open port holds. -/
def books (r : Registry) :
    List (String × Nat) × List (String × Nat × Nat) × List (Nat × Bool) × List (String × Nat) :=
  (r.bench.names, r.bench.devices.map (fun d => (d.name, d.openCount, d.closeCount)),
    r.bench.handles.map (fun h => (h.device, h.closed)), r.entries.map (fun p => (p.1, p.2.handle)))

section Books

variable {r r' : Registry}

/-- An option that a view maps like another holds a value with the same view. -/
theorem exists_of_map_eq {α β : Type} {o o' : Option α} {f : α → β} {a : α}
    (h : o'.map f = o.map f) (ho : o = some a) : ∃ a', o' = some a' ∧ f a' = f a := by
  subst ho
  cases o' with
  | none => simp at h
  | some a' => exact ⟨a', rfl, by simpa using h⟩

theorem books_lookup? (hb : r'.books = r.books) (name : String) :
    r'.bench.lookup? name = r.bench.lookup? name := by
  have h : r'.bench.names = r.bench.names := congrArg (·.1) hb
  simp [Bench.lookup?, h]

theorem books_device? (hb : r'.books = r.books) (i : Nat) :
    (r'.bench.device? i).map (fun d => (d.name, d.openCount, d.closeCount)) =
      (r.bench.device? i).map (fun d => (d.name, d.openCount, d.closeCount)) := by
  have h := congrArg (·.2.1) hb
  simp only [books] at h
  simp only [Bench.device?, ← List.getElem?_map, h]

theorem books_handle? (hb : r'.books = r.books) (k : Nat) :
    (r'.bench.handle? k).map (fun h => (h.device, h.closed)) =
      (r.bench.handle? k).map (fun h => (h.device, h.closed)) := by
  have h := congrArg (·.2.2.1) hb
  simp only [books] at h
  simp only [Bench.handle?, ← List.getElem?_map, h]

theorem books_entry (hb : r'.books = r.books) (port : String) :
    (r'.entry? port).map Entry.handle = (r.entry? port).map Entry.handle := by
  have h := congrArg (·.2.2.2) hb
  simp only [books] at h
  simp only [Registry.entry?, ← Keyed.lookup_map_snd]
  exact congrArg (List.lookup port) h

theorem books_isOpen (hb : r'.books = r.books) (port : String) :
    r'.isOpen port = r.isOpen port := by
  have h := congrArg Option.isSome (books_entry hb port)
  simpa [isOpen] using h

theorem books_sorted (hb : r'.books = r.books) (hs : Keyed.Sorted r.entries) :
    Keyed.Sorted r'.entries := by
  have h := congrArg (fun l => l.map Prod.fst) (congrArg (·.2.2.2) hb)
  simp only [books, List.map_map] at h
  rw [Keyed.sorted_iff_keys] at hs ⊢
  have hk : r'.entries.map Prod.fst = r.entries.map Prod.fst := h
  rw [hk]
  exact hs

/-- Conservation reads nothing but the books. -/
theorem Conserved.of_books (h : Conserved r) (hb : r'.books = r.books) : Conserved r' where
  naming := by
    constructor
    · intro name i hi
      rw [books_lookup? hb] at hi
      obtain ⟨d, hd, hname⟩ := h.naming.named name i hi
      obtain ⟨d', hd', heq⟩ := exists_of_map_eq (books_device? hb i) hd
      simp only [Prod.mk.injEq] at heq
      exact ⟨d', hd', heq.1.trans hname⟩
    · intro i d' hd'
      obtain ⟨d, hd, heq⟩ := exists_of_map_eq (books_device? hb i).symm hd'
      simp only [Prod.mk.injEq] at heq
      rw [books_lookup? hb, ← heq.1]
      exact h.naming.registered i d hd
  sorted := books_sorted hb h.sorted
  installed port e' he' := by
    obtain ⟨e, he, heq⟩ := exists_of_map_eq (books_entry hb port).symm he'
    obtain ⟨i, hd, hi, hh, hdev, hc⟩ := h.installed port e he
    obtain ⟨hd', hh', hheq⟩ := exists_of_map_eq (books_handle? hb e.handle) hh
    simp only [Prod.mk.injEq] at hheq
    refine ⟨i, hd', by rw [books_lookup? hb]; exact hi, ?_, hheq.1.trans hdev, hheq.2.trans hc⟩
    rw [← heq]
    exact hh'
  owned k hd' hh' hc' := by
    obtain ⟨hd, hh, hheq⟩ := exists_of_map_eq (books_handle? hb k).symm hh'
    simp only [Prod.mk.injEq] at hheq
    obtain ⟨port, e, he, hek⟩ := h.owned k hd hh (hheq.2.trans hc')
    obtain ⟨e', he', heq⟩ := exists_of_map_eq (books_entry hb port) he
    exact ⟨port, e', he', heq.trans hek⟩
  balanced i d' hd' := by
    obtain ⟨d, hd, heq⟩ := exists_of_map_eq (books_device? hb i).symm hd'
    simp only [Prod.mk.injEq] at heq
    rw [← heq.1, ← heq.2.1, ← heq.2.2, books_isOpen hb]
    exact h.balanced i d hd

/-- Changing traffic keeps the books. -/
theorem books_of_setup {b : Bench} (hs : b.setup = r.bench.setup) :
    ({ r with bench := b } : Registry).books = r.books := by
  have hn : b.names = r.bench.names := by simpa using congrArg Bench.names hs
  have hh : b.handles = r.bench.handles := by simpa using congrArg Bench.handles hs
  have hd := congrArg (fun b => b.devices.map (fun d => (d.name, d.openCount, d.closeCount))) hs
  simp only [Bench.setup, List.map_map] at hd
  simp only [books, hn, hh]
  exact congrArg (fun l => (r.bench.names, l, _)) hd

/-- Changing an entry in a way that keeps its handle keeps the books. -/
theorem books_modifyEntry (port : String) (f : Entry → Entry) (hf : ∀ e, (f e).handle = e.handle) :
    (r.modifyEntry port f).books = r.books := by
  simp only [books, modifyEntry]
  congr 3
  simp only [Keyed.modify, List.map_map]
  apply List.map_congr_left
  intro p _
  by_cases hp : p.1 = port <;> simp [hp, hf]

/-- A change of one device that keeps its name and counters keeps the books. -/
theorem books_modifyDevice (b : Bench) (i : Nat) (f : Device → Device)
    (hf : ∀ d, (f d).name = d.name ∧ (f d).openCount = d.openCount ∧ (f d).closeCount = d.closeCount) :
    ({ r with bench := b.modifyDevice i f } : Registry).books =
      ({ r with bench := b } : Registry).books := by
  simp only [books, Bench.modifyDevice_names, Bench.modifyDevice_handles]
  congr 2
  apply map_updateAt
  intro d
  obtain ⟨h1, h2, h3⟩ := hf d
  rw [h1, h2, h3]

/-- A change of one handle that keeps its device and whether it is closed keeps the books. -/
theorem books_modifyHandle (b : Bench) (k : Nat) (f : Handle → Handle)
    (hf : ∀ hd, (f hd).device = hd.device ∧ (f hd).closed = hd.closed) :
    ({ r with bench := b.modifyHandle k f } : Registry).books =
      ({ r with bench := b } : Registry).books := by
  simp only [books, Bench.modifyHandle_names, Bench.modifyHandle_devices]
  congr 3
  apply map_updateAt
  intro hd
  obtain ⟨h1, h2⟩ := hf hd
  rw [h1, h2]

/-- Reconfiguring a port keeps the books: it notes a configuration on the device and sets the
handle's timeout. -/
theorem books_setConfig (r : Registry) (port : String) (o : Overrides) :
    (r.setConfig port o).2.books = r.books := by
  rcases setConfig_cases r port o with hr | ⟨e, merged, b, -, -, hb, hr⟩
  · rw [hr]
  · rw [hr]
    obtain ⟨hd, d, -, rfl⟩ := Bench.applyConfig_eq_ok hb
    rw [books_modifyEntry port (fun e => { e with config := merged }) (fun _ => rfl),
      books_modifyHandle _ e.handle (fun hd => { hd with timeoutMs := merged.readTimeoutMs })
        (fun _ => ⟨rfl, rfl⟩),
      books_modifyDevice _ hd.device (fun d => { d with configHistory := d.configHistory ++ [merged] })
        (fun _ => ⟨rfl, rfl, rfl⟩)]

theorem books_send (r : Registry) (port : String) (data : List UInt8) :
    (r.send port data).2.books = r.books := by
  obtain ⟨b, hr, hs⟩ := send_setup r port data
  rw [hr]
  exact books_of_setup hs

theorem books_readData (r : Registry) (port : String) (size : Option Nat) (t : Option Nat) :
    (r.readData port size t).2.books = r.books := by
  obtain ⟨b, hr, hs⟩ := readData_setup r port size t
  rw [hr]
  exact books_of_setup hs

/-- A test's action on a device keeps its name and counters. -/
theorem books_actOn (r : Registry) (i : Nat) (a : DeviceAction) : (r.actOn i a).books = r.books := by
  rw [actOn_eq]
  refine (books_modifyDevice r.bench i (·.act a) (fun d => ?_)).trans rfl
  obtain ⟨h1, h2, h3, -⟩ := Device.act_keeps d a
  exact ⟨h1, h2, h3⟩

theorem books_markReconnecting (r : Registry) (port : String) (stale : Nat) :
    (r.markReconnecting port stale).2.books = r.books := by
  rcases markReconnecting_cases r port stale with hr | ⟨e, -, -, -, hr⟩
  · rw [hr]
  · rw [hr]
    exact books_modifyEntry port (fun e => { e with reconnecting := true }) (fun _ => rfl)

end Books

namespace Placed

variable {r : Registry}

/-- Two open ports that hold the same handle are the same port. -/
theorem handle_inj (h : Placed r) {p q : String} {e e' : Entry} (hp : r.entry? p = some e)
    (hq : r.entry? q = some e') (he : e.handle = e'.handle) : p = q := by
  obtain ⟨i, hd, hi, hh, hdev, -⟩ := h.installed p e hp
  obtain ⟨i', hd', hi', hh', hdev', -⟩ := h.installed q e' hq
  rw [he, hh'] at hh
  cases hh
  rw [← hdev, hdev'] at hi
  exact h.naming.lookup_inj hi hi'

/-- The handle of an open port is on the device registered under its name, and so on no device
registered under another name. -/
theorem device_ne (h : Placed r) {p port : String} {e : Entry} {hd : Handle} {i : Nat}
    (he : r.entry? p = some e) (hh : r.bench.handle? e.handle = some hd)
    (hi : r.bench.lookup? port = some i) (hp : p ≠ port) : hd.device ≠ i := by
  obtain ⟨j, hd', hj, hh', hdj, -⟩ := h.installed p e he
  rw [hh] at hh'
  cases hh'
  intro heq
  rw [← hdj, heq] at hj
  exact hp (h.naming.lookup_inj hj hi)

/-- A port whose name is not registered is not open. -/
theorem entry?_eq_none (h : Placed r) {port : String} (hn : r.bench.lookup? port = none) :
    r.entry? port = none := by
  cases he : r.entry? port with
  | none => rfl
  | some e =>
    obtain ⟨i, -, hi, -⟩ := h.installed port e he
    rw [hn] at hi
    cases hi

end Placed

namespace Conserved

variable {r : Registry}

/-! ## Calls that leave the handles alone -/

theorem setConfig (h : Conserved r) (port : String) (o : Overrides) :
    Conserved (r.setConfig port o).2 :=
  h.of_books (books_setConfig r port o)

theorem send (h : Conserved r) (port : String) (data : List UInt8) :
    Conserved (r.send port data).2 :=
  h.of_books (books_send r port data)

theorem readData (h : Conserved r) (port : String) (size : Option Nat) (t : Option Nat) :
    Conserved (r.readData port size t).2 :=
  h.of_books (books_readData r port size t)

theorem actOn (h : Conserved r) (i : Nat) (a : DeviceAction) : Conserved (r.actOn i a) :=
  h.of_books (books_actOn r i a)

theorem markReconnecting (h : Conserved r) (port : String) (stale : Nat) :
    Conserved (r.markReconnecting port stale).2 :=
  h.of_books (books_markReconnecting r port stale)

/-! ## A handle in flight

Every call that opens or lets go a handle passes through a registry where exactly one open handle
belongs to no port. Removing an entry and opening a fresh handle lead there; entering the handle
for a port, or letting it go, lead back. -/

/-- Removing the entry of an open port leaves its handle loose. -/
theorem erase (h : Conserved r) {port : String} {e : Entry} (he : r.entry? port = some e) :
    ∃ i, Loose { r with entries := Keyed.erase port r.entries } e.handle i := by
  obtain ⟨i, hd, hi, hh, hdev, hc⟩ := h.installed port e he
  have hentry := entry?_erase h.sorted port
  refine ⟨i, ⟨h.naming, Keyed.sorted_erase port h.sorted, ?installed⟩, ⟨hd, hh, hdev, hc⟩,
    ?free, ?owned, ?balanced⟩
  case installed =>
    intro p e' he'
    rw [hentry] at he'
    split at he'
    · cases he'
    · exact h.installed p e' he'
  case free =>
    intro p e' he'
    rw [hentry] at he'
    split at he'
    · cases he'
    · rename_i hp
      exact fun heq => hp (h.handle_inj he' he heq)
  case owned =>
    intro k hd' hk hc' hne
    obtain ⟨p, e', he', hek⟩ := h.owned k hd' hk hc'
    have hp : p ≠ port := by
      rintro rfl
      rw [he] at he'
      cases he'
      exact hne hek.symm
    exact ⟨p, e', by rw [hentry, if_neg hp]; exact he', hek⟩
  case balanced =>
    intro j d hd
    have hbal := h.balanced j d hd
    rw [isOpen_erase h.sorted]
    by_cases hj : j = i
    · -- the port's own device: its open now waits for the loose handle
      have hname := (h.naming.name_eq_iff hi hd).mpr hj
      have hwas : r.isOpen d.name = true := by simp [isOpen, hname, he]
      rw [hwas, if_pos rfl] at hbal
      rw [if_pos hname, if_pos hj]
      simp only [Bool.false_eq_true, if_false]
      omega
    · have hname : d.name ≠ port := fun hq => hj ((h.naming.name_eq_iff hi hd).mp hq)
      rw [if_neg hname, if_neg hj]
      omega

/-- Opening a handle on the device registered under a name leaves the fresh handle loose. -/
theorem openBench (h : Conserved r) {port : String} {c : LineConfig} {k : Nat} {b : Bench}
    (hopen : r.bench.openPort port c = .ok (k, b)) :
    ∃ i, b.lookup? port = some i ∧ Loose { r with bench := b } k i := by
  obtain ⟨i, hi, hdev⟩ := Bench.openPort_eq_ok hopen
  obtain ⟨d, hd, rfl, hnames, hdevs, hhandles, -⟩ := Bench.openDevice_views hdev
  have hlookup : ∀ p, b.lookup? p = r.bench.lookup? p := fun p => by
    simp only [Bench.lookup?, hnames]
  -- the handles that were there keep their indices
  have hold : ∀ k' hd', r.bench.handle? k' = some hd' → b.handle? k' = some hd' := by
    intro k' hd' hk
    rw [hhandles, if_neg (Nat.ne_of_lt (Bench.lt_length_of_handle? hk))]
    exact hk
  have hnaming : b.Named := by
    obtain ⟨-, -, -, -, rfl⟩ := Bench.openDevice_eq_ok hdev
    exact (h.naming.modifyDevice i (fun d =>
      { d with openCount := d.openCount + 1, configHistory := d.configHistory ++ [c] })
      (fun _ => rfl)).pushHandle _
  refine ⟨i, (hlookup port).trans hi, ⟨hnaming, h.sorted, ?installed⟩, ?loose, ?free, ?owned,
    ?balanced⟩
  case installed =>
    intro p e he
    obtain ⟨j, hd', hj, hh, hdev', hc⟩ := h.installed p e he
    exact ⟨j, hd', (hlookup p).trans hj, hold _ _ hh, hdev', hc⟩
  case loose => exact ⟨_, by rw [hhandles, if_pos rfl], rfl, rfl⟩
  case free =>
    intro p e he
    obtain ⟨j, hd', -, hh, -⟩ := h.installed p e he
    exact Nat.ne_of_lt (Bench.lt_length_of_handle? hh)
  case owned =>
    intro k' hd' hk hc hne
    rw [hhandles, if_neg hne] at hk
    exact h.owned k' hd' hk hc
  case balanced =>
    intro j d' hd'
    rw [hdevs] at hd'
    rw [isOpen_withBench]
    split at hd'
    · rename_i hj
      subst hj
      cases hd'
      have hbal := h.balanced i d hd
      rw [if_pos rfl]
      dsimp only
      omega
    · rename_i hj
      have hbal := h.balanced j d' hd'
      rw [if_neg (Ne.symm hj)]
      omega

end Conserved

namespace Loose

variable {r : Registry} {k i : Nat}

/-- Letting the loose handle go closes it and counts the close: the books balance again. -/
theorem release (h : Loose r k i) : Conserved (r.release k) := by
  obtain ⟨hd, hh, hdev, hc⟩ := h.loose
  rw [release_of_open hh hc, hdev]
  refine ⟨⟨(h.naming.modifyHandle _ _).modifyDevice _ _ (fun _ => rfl), h.sorted, ?installed⟩,
    ?owned, ?balanced⟩
  case installed =>
    intro p e he
    obtain ⟨j, hd', hj, hh', hdev', hc'⟩ := h.installed p e he
    have hne : k ≠ e.handle := fun heq => h.free p e he heq.symm
    exact ⟨j, hd', hj, by simp [hne, hh'], hdev', hc'⟩
  case owned =>
    intro k' hd' hk hc'
    simp only [Bench.handle?_modifyDevice, Bench.handle?_modifyHandle] at hk
    split at hk
    · obtain ⟨_, _, rfl⟩ := Option.map_eq_some_iff.mp hk
      simp at hc'
    · rename_i hne
      exact h.owned k' hd' hk hc' (Ne.symm hne)
  case balanced =>
    intro j d hd
    simp only [Bench.device?_modifyDevice, Bench.device?_modifyHandle] at hd
    rw [isOpen_withBench]
    split at hd
    · rename_i hj
      obtain ⟨d0, hd0, rfl⟩ := Option.map_eq_some_iff.mp hd
      have hbal := h.balanced j d0 hd0
      rw [if_pos hj.symm] at hbal
      simp only
      omega
    · rename_i hj
      have hbal := h.balanced j d hd
      rw [if_neg (Ne.symm hj)] at hbal
      omega

/-- Entering the loose handle for a port of its device that is not open balances the books. -/
theorem insert (h : Loose r k i) {port : String} (hi : r.bench.lookup? port = some i)
    (he : r.entry? port = none) (e : Entry) (hek : e.handle = k) :
    Conserved { r with entries := Keyed.insert port e r.entries } := by
  have hentry := entry?_insert r port
  obtain ⟨hd, hh, hdev, hc⟩ := h.loose
  refine ⟨⟨h.naming, Keyed.sorted_insert port e h.sorted, ?installed⟩, ?owned, ?balanced⟩
  case installed =>
    intro p e' he'
    rw [hentry] at he'
    split at he'
    · rename_i hp
      subst hp
      cases he'
      exact ⟨i, hd, hi, by rw [hek]; exact hh, hdev, hc⟩
    · exact h.installed p e' he'
  case owned =>
    intro k' hd' hk hc'
    by_cases hne : k' = k
    · exact ⟨port, e, by rw [hentry, if_pos rfl], hek.trans hne.symm⟩
    · obtain ⟨p, e', he', hek'⟩ := h.owned k' hd' hk hc' hne
      have hp : p ≠ port := by
        rintro rfl
        rw [he] at he'
        cases he'
      exact ⟨p, e', by rw [hentry, if_neg hp]; exact he', hek'⟩
  case balanced =>
    intro j d hd
    have hbal := h.balanced j d hd
    rw [isOpen_insert]
    by_cases hj : j = i
    · -- the port's own device: the loose open is now the open port's
      have hname := (h.naming.name_eq_iff hi hd).mpr hj
      have hwas : r.isOpen d.name = false := by simp [isOpen, hname, he]
      rw [hwas, if_pos hj] at hbal
      rw [if_pos hname]
      simp only [Bool.false_eq_true, if_false, if_true] at hbal ⊢
      omega
    · have hname : d.name ≠ port := fun hq => hj ((h.naming.name_eq_iff hi hd).mp hq)
      rw [if_neg hj] at hbal
      rw [if_neg hname]
      omega

/-- Entering the loose handle in place of the handle of an open port of the same device leaves
the port's old handle loose instead. -/
theorem swap (h : Loose r k i) {port : String} {e : Entry} (hi : r.bench.lookup? port = some i)
    (he : r.entry? port = some e) (f : Entry → Entry) (hf : (f e).handle = k) :
    Loose (r.modifyEntry port f) e.handle i := by
  have hentry := entry?_modifyEntry r port
  obtain ⟨hd, hh, hdev, hc⟩ := h.loose
  obtain ⟨i', hd', hi', hh', hdev', hc'⟩ := h.installed port e he
  rw [hi] at hi'
  cases hi'
  have hek : e.handle ≠ k := h.free port e he
  refine ⟨⟨h.naming, Keyed.sorted_modify port f h.sorted, ?installed⟩, ⟨hd', hh', hdev', hc'⟩,
    ?free, ?owned, ?balanced⟩
  case installed =>
    intro p e' he'
    rw [hentry, he] at he'
    split at he'
    · rename_i hp
      subst hp
      cases he'
      exact ⟨i, hd, hi, by rw [hf]; exact hh, hdev, hc⟩
    · exact h.installed p e' he'
  case free =>
    intro p e' he'
    rw [hentry, he] at he'
    split at he'
    · cases he'
      rw [hf]
      exact Ne.symm hek
    · rename_i hp
      exact fun heq => hp (h.handle_inj he' he heq)
  case owned =>
    intro k' hd'' hk hc'' hne
    by_cases hk' : k' = k
    · exact ⟨port, f e, by rw [hentry, if_pos rfl, he]; rfl, hf.trans hk'.symm⟩
    · obtain ⟨p, e', he', hek'⟩ := h.owned k' hd'' hk hc'' hk'
      have hp : p ≠ port := by
        rintro rfl
        rw [he] at he'
        cases he'
        exact hne hek'.symm
      exact ⟨p, e', by rw [hentry, if_neg hp]; exact he', hek'⟩
  case balanced =>
    intro j d hd
    rw [isOpen_modifyEntry]
    exact h.balanced j d hd

end Loose

namespace Conserved

variable {r : Registry}

/-- Closing a port lets go the one handle it held, and its device counts the close. -/
theorem closePort (h : Conserved r) (port : String) : Conserved (r.closePort port).2 := by
  cases he : r.entry? port with
  | none =>
    rw [closePort_of_none he]
    exact h
  | some e =>
    obtain ⟨i, hloose⟩ := h.erase he
    rw [closePort_of_entry he]
    exact hloose.release

/-- Opening a port that is not open enters a fresh handle on its device. -/
theorem openPort (h : Conserved r) (port : String) (o : Overrides) (ar : Bool) :
    Conserved (r.openPort port o ar).2 := by
  rcases openPort_cases r port o ar with hr | ⟨config, k, b, he, -, hopen, hr⟩
  · rw [hr]
    exact h
  · obtain ⟨i, hi, hloose⟩ := h.openBench hopen
    rw [hr]
    exact hloose.insert hi he ⟨k, config, ar, false⟩ rfl

/-- Settling a reopening: a fresh handle replaces exactly the dead one it was opened for, or is
let go at once. -/
theorem reconnect (h : Conserved r) (port : String) (stale : Nat) (config : LineConfig) :
    Conserved (r.reconnect port stale config) := by
  rcases reconnect_cases r port stale config with
    ⟨-, -, -, -, -, hr⟩ | ⟨-, -, -, hr⟩ | ⟨fresh, b, e, hopen, he, hs, hr⟩ |
      ⟨fresh, b, hopen, -, hr⟩
  · rw [hr]
    exact h.of_books (books_modifyEntry port (fun e => { e with reconnecting := false })
      (fun _ => rfl))
  · rw [hr]
    exact h
  · obtain ⟨i, hi, hloose⟩ := h.openBench hopen
    rw [hr, ← hs]
    exact (hloose.swap hi he (fun e => { e with handle := fresh, reconnecting := false }) rfl).release
  · obtain ⟨i, -, hloose⟩ := h.openBench hopen
    rw [hr]
    exact hloose.release

/-- Registering a device under a new name: the device has never been opened or closed, and no
port of its name is open. -/
theorem addDevice (h : Conserved r) {name : String} (hfresh : r.bench.lookup? name = none) :
    Conserved { r with bench := r.bench.addDevice name } := by
  refine ⟨⟨h.naming.addDevice hfresh, h.sorted, ?installed⟩, h.owned, ?balanced⟩
  case installed =>
    intro p e he
    obtain ⟨i, hd, hi, hh, hdev, hc⟩ := h.installed p e he
    have hp : p ≠ name := by
      rintro rfl
      rw [hfresh] at hi
      cases hi
    exact ⟨i, hd, by rw [Bench.lookup?_addDevice, if_neg hp]; exact hi, hh, hdev, hc⟩
  case balanced =>
    intro j d hd
    rw [Bench.device?_addDevice] at hd
    split at hd
    · exact h.balanced j d hd
    · split at hd
      · cases hd
        have hclosed : r.isOpen name = false := by simp [isOpen, h.entry?_eq_none hfresh]
        simp [Device.fresh, hclosed]
      · cases hd

/-- One check of a supervisor pass marks a reopening and settles it at once. -/
theorem checkOne (h : Conserved r) (port : String) (k : Nat) : Conserved (r.checkOne port k) := by
  rcases checkOne_cases r port k with hr | ⟨config, r', hm, hr⟩
  · rw [hr]
    exact h
  · have hmarked : Conserved r' := by
      have := h.markReconnecting port k
      rwa [hm] at this
    rw [hr]
    exact hmarked.reconnect port k config

/-- A supervisor pass checks one entry after another. -/
theorem checkPorts (h : Conserved r) : Conserved r.checkPorts :=
  checkPorts_induction r h (fun _ port e _ _ _ h' => h'.checkOne port e.handle)

/-- Shutting down closes the open ports one after another. -/
theorem shutdown (h : Conserved r) : Conserved r.shutdown := by
  rw [shutdown_eq_foldl_closePort]
  generalize r.entries = L
  induction L generalizing r with
  | nil => exact h
  | cons p rest ih => exact ih (h.closePort p.1)

/-- Every call keeps the books. -/
theorem run (h : Conserved r) (c : Call) (hc : c.Admissible r) : Conserved (c.run r) := by
  cases c with
  | act i a => exact h.actOn i a
  | addDevice name => exact h.addDevice hc
  | openPort port o ar => exact h.openPort port o ar
  | closePort port => exact h.closePort port
  | setConfig port o => exact h.setConfig port o
  | send port data => exact h.send port data
  | read port size t => exact h.readData port size t
  | checkPorts => exact h.checkPorts
  | shutdown => exact h.shutdown

theorem empty (blacklist : Blacklist) (defaults : LineConfig) :
    Conserved { bench := {}, blacklist, defaults } where
  naming := Bench.named_empty
  sorted := Keyed.sorted_nil
  installed _ _ he := by simp [Registry.entry?] at he
  owned _ _ hh := by simp [Bench.handle?] at hh
  balanced _ _ hd := by simp [Bench.device?] at hd

end Conserved

/-- Every registry the calls reach keeps the books. -/
theorem Reachable.conserved {r : Registry} (hr : Reachable r) : Conserved r := by
  induction hr with
  | empty blacklist defaults => exact Conserved.empty blacklist defaults
  | call c _ hc ih => exact ih.run c hc
  | mark port stale _ ih => exact ih.markReconnecting port stale
  | reconnect port stale config _ ih => exact ih.reconnect port stale config

/-- No handle is leaked and none is closed twice. In every registry the calls reach, each device
name being registered once: the handle of an open port is open, on the device of the port's name;
every open handle belongs to an open port; and each device has been opened once more than it was
closed while its port is open, and exactly as often otherwise. -/
theorem Reachable.handles_balanced {r : Registry} (hr : Reachable r) :
    (∀ port e, r.entry? port = some e → ∃ hd d, r.bench.handle? e.handle = some hd ∧
      hd.closed = false ∧ r.bench.device? hd.device = some d ∧ d.name = port) ∧
    (∀ h hd, r.bench.handle? h = some hd → hd.closed = false →
      ∃ port e, r.entry? port = some e ∧ e.handle = h) ∧
    (∀ i d, r.bench.device? i = some d →
      d.openCount = d.closeCount + if r.isOpen d.name then 1 else 0) := by
  have h := hr.conserved
  refine ⟨?_, h.owned, h.balanced⟩
  intro port e he
  obtain ⟨i, hd, hi, hh, hdev, hc⟩ := h.installed port e he
  obtain ⟨d, hd', hname⟩ := h.naming.named port i hi
  exact ⟨hd, d, hh, hc, by rw [hdev]; exact hd', hname⟩

/-- A device registered and opened once: its port is open and its counters balance. -/
theorem handles_balanced_one_port :
    Reachable ((Call.openPort "P1" {} false).run ((Call.addDevice "P1").run { bench := {} })) ∧
      ((Call.openPort "P1" {} false).run
        ((Call.addDevice "P1").run { bench := {} })).isOpen "P1" = true ∧
      ∀ i d, ((Call.openPort "P1" {} false).run
          ((Call.addDevice "P1").run { bench := {} })).bench.device? i = some d →
        d.openCount = d.closeCount + if ((Call.openPort "P1" {} false).run
          ((Call.addDevice "P1").run { bench := {} })).isOpen d.name then 1 else 0 := by
  have hr : Reachable ((Call.openPort "P1" {} false).run
      ((Call.addDevice "P1").run { bench := {} })) :=
    .call _ (.call _ (.empty {} .default) rfl) trivial
  exact ⟨hr, by decide, (Reachable.handles_balanced hr).2.2⟩

end SerialHub.Registry
