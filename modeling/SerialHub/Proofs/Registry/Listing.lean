import SerialHub.Proofs.Registry.Conservation
import SerialHub.Proofs.Text.ByteOrder

/-!
# Status reports

The status of an open port reports its stored configuration, whether it is being reopened and
whether its handle is alive; the listing reports every open port once, by increasing name, each as
a query of that port alone. In every reachable registry a port is reported connected exactly when
the device of its name is present and has not been unplugged since it was opened. Main statement:
`Reachable.statuses_agree`.
-/

namespace SerialHub.Registry

open SerialHub.Line
open SerialHub.Port

namespace Bench

/-- A handle on a device is alive exactly when it is not closed and the device is present in the
generation the handle was opened in. -/
theorem isAlive_iff {b : Bench} {h : Nat} {hd : Handle} {d : Device} (hh : b.handle? h = some hd)
    (hdev : b.device? hd.device = some d) :
    b.isAlive h = true ↔ hd.closed = false ∧ d.present = true ∧ d.generation = hd.generation := by
  cases hc : hd.closed <;> cases hp : d.present <;>
    by_cases hg : d.generation = hd.generation <;>
    simp [Bench.isAlive, Bench.alive, hh, hdev, hc, hp, hg]

/-- A handle fresh from an open is alive. -/
theorem isAlive_of_openPort {b b' : Bench} {name : String} {c : LineConfig} {h : Nat}
    (ho : b.openPort name c = .ok (h, b')) : b'.isAlive h = true := by
  obtain ⟨i, -, hopen⟩ := Bench.openPort_eq_ok ho
  obtain ⟨d, hd, hpresent, -, -⟩ := Bench.openDevice_eq_ok hopen
  obtain ⟨d', hd', rfl, -, hdevs, hhandles, -⟩ := Bench.openDevice_views hopen
  rw [hd] at hd'
  cases hd'
  have hh : b'.handle? b.handles.length = some ⟨i, d.generation, c.readTimeoutMs, false⟩ := by
    rw [hhandles, if_pos rfl]
  let d' : Device := { d with openCount := d.openCount + 1, configHistory := d.configHistory ++ [c] }
  have hdev : b'.device? i = some d' := by
    rw [hdevs, if_pos rfl]
  exact (isAlive_iff hh hdev).mpr ⟨rfl, hpresent, rfl⟩

end Bench

/-! ## Queries -/

variable {r : Registry} {port : String}

/-- The status of an open port is the status of its entry. -/
theorem status_of_entry {e : Entry} (he : r.entry? port = some e) :
    r.status port = .ok (r.statusOf port e) := by
  simp [status, he]

/-- The listing reports the ports of the entries, in their order. -/
theorem allStatus_ports (r : Registry) : r.allStatus.map Status.port = r.entries.map Prod.fst := by
  simp [allStatus, statusOf]

/-- Each report of the listing is that of an entry of the registry. -/
theorem mem_allStatus {s : Status} (h : s ∈ r.allStatus) :
    ∃ e, (s.port, e) ∈ r.entries ∧ s = r.statusOf s.port e := by
  obtain ⟨⟨p, e⟩, hmem, rfl⟩ := List.mem_map.mp h
  exact ⟨e, hmem, rfl⟩

/-- With ports kept in order, each report of the listing is what a query of its port gives. -/
theorem status_of_mem_allStatus (hs : Keyed.Sorted r.entries) {s : Status} (h : s ∈ r.allStatus) :
    r.isOpen s.port = true ∧ r.status s.port = .ok s := by
  obtain ⟨e, hmem, hs'⟩ := mem_allStatus h
  have he : r.entry? s.port = some e := Keyed.lookup_of_mem hs hmem
  refine ⟨by simp [isOpen, he], ?_⟩
  rw [status_of_entry he, ← hs']

/-- With ports kept in order, the listing is in strictly increasing order of the ports' UTF-8
bytes. -/
theorem allStatus_bytes_increasing (hs : Keyed.Sorted r.entries) :
    (r.allStatus.map (fun s => Text.utf8 s.port)).Pairwise (· < ·) := by
  have hports : (r.allStatus.map Status.port).Pairwise (· < ·) := by
    rw [allStatus_ports]
    exact Keyed.sorted_iff_keys.mp hs
  rw [List.pairwise_map] at hports ⊢
  exact hports.imp Text.utf8_lt_utf8_iff.mpr

/-! ## Answers of opening and reconfiguring -/

/-- An open that succeeds answers with the status a query of the port gives right afterwards:
the status of the entry already there, or, for a fresh open, the reported connection of a
handle that is alive. -/
theorem status_after_openPort {r r' : Registry} {port : String} {o : Overrides} {ar : Bool}
    {s : Status} (h : r.openPort port o ar = (.ok s, r')) : r'.status port = .ok s := by
  unfold openPort at h
  split at h
  · cases h
  · split at h
    · cases h
    · rename_i config _
      split at h
      · rename_i e he
        cases h
        exact status_of_entry he
      · split at h
        · cases h
        · rename_i fresh b hopen
          cases h
          -- the fresh entry is found again, and its handle is alive
          let e : Entry := ⟨fresh, config, ar, false⟩
          have hfound : Registry.entry?
              { r with bench := b, entries := Keyed.insert port e r.entries } port = some e :=
            (Keyed.lookup_insert port port e r.entries).trans (if_pos rfl)
          rw [status_of_entry hfound]
          simp [statusOf, e, Bench.isAlive_of_openPort hopen]

/-- A reconfiguration that succeeds answers with the status a query of the port gives right
afterwards. -/
theorem status_after_setConfig {r r' : Registry} {port : String} {o : Overrides} {s : Status}
    (h : r.setConfig port o = (.ok s, r')) : r'.status port = .ok s := by
  unfold setConfig at h
  split at h
  · cases h
  · rename_i e he
    split at h
    · cases h
    · rename_i merged _
      split at h
      · cases h
      · cases h
      · cases h
        apply status_of_entry
        rw [entry?_modifyEntry, if_pos rfl, entry?_withBench, he]
        rfl

/-! ## Reachable registries -/

/-- The status of an open port in a reachable registry: its stored configuration, its
reopening flag, and connected exactly when its handle is not closed and the device of the port's
name, which the handle sits on, is present in the handle's generation. -/
theorem Conserved.status_of_entry (hc : Conserved r) {e : Entry} (he : r.entry? port = some e) :
    ∃ s hd d, r.status port = .ok s ∧ s.port = port ∧ s.config = e.config ∧
      s.reconnecting = e.reconnecting ∧ r.bench.handle? e.handle = some hd ∧
      r.bench.device? hd.device = some d ∧ d.name = port ∧
      (s.connected = true ↔ hd.closed = false ∧ d.present = true ∧ d.generation = hd.generation) := by
  obtain ⟨i, hd, hi, hh, hdev, -⟩ := hc.installed port e he
  obtain ⟨d, hd', hname⟩ := hc.naming.named port i hi
  rw [← hdev] at hd'
  exact ⟨r.statusOf port e, hd, d, Registry.status_of_entry he, rfl, rfl, rfl, hh, hd', hname,
    Bench.isAlive_iff hh hd'⟩

/-- Status agreement. In every reachable registry the listing reports each open port once, in
strictly increasing order of the UTF-8 bytes of its name; each report is of an open port and is
what a query of that port gives; the query of an open port reports the entry's configuration and
reopening flag, and connected exactly when its handle is not closed and the device it sits on,
the one of the port's name, is present and was not unplugged since the handle was opened. An open
or a reconfiguration that succeeds answers with the status a query right afterwards gives. -/
theorem Reachable.statuses_agree (hr : Reachable r) :
    r.allStatus.map Status.port = r.entries.map Prod.fst ∧
    (r.allStatus.map (fun s => Text.utf8 s.port)).Pairwise (· < ·) ∧
    (∀ s ∈ r.allStatus, r.isOpen s.port = true ∧ r.status s.port = .ok s) ∧
    (∀ port e, r.entry? port = some e → ∃ s hd d, r.status port = .ok s ∧ s.port = port ∧
      s.config = e.config ∧ s.reconnecting = e.reconnecting ∧
      r.bench.handle? e.handle = some hd ∧ r.bench.device? hd.device = some d ∧ d.name = port ∧
      (s.connected = true ↔ hd.closed = false ∧ d.present = true ∧ d.generation = hd.generation)) ∧
    (∀ port o ar s r', r.openPort port o ar = (.ok s, r') → r'.status port = .ok s) ∧
    (∀ port o s r', r.setConfig port o = (.ok s, r') → r'.status port = .ok s) := by
  have hc := hr.conserved
  exact ⟨allStatus_ports r, allStatus_bytes_increasing hc.sorted,
    fun _ hs => status_of_mem_allStatus hc.sorted hs, fun _ _ he => hc.status_of_entry he,
    fun _ _ _ _ _ h => status_after_openPort h, fun _ _ _ _ h => status_after_setConfig h⟩

/-- Two ports opened in the reverse order of their names are listed in order of name, and the
listing agrees with the queries. -/
theorem statuses_agree_two_ports :
    let r := (Call.openPort "P1" {} false).run ((Call.openPort "P2" {} true).run
      ((Call.addDevice "P1").run ((Call.addDevice "P2").run { bench := {} })))
    Reachable r ∧ r.allStatus.map Status.port = ["P1", "P2"] ∧
    r.allStatus.map Status.port = r.entries.map Prod.fst ∧
    (r.allStatus.map (fun s => Text.utf8 s.port)).Pairwise (· < ·) ∧
    (∀ s ∈ r.allStatus, r.isOpen s.port = true ∧ r.status s.port = .ok s) ∧
    (∀ port e, r.entry? port = some e → ∃ s hd d, r.status port = .ok s ∧ s.port = port ∧
      s.config = e.config ∧ s.reconnecting = e.reconnecting ∧
      r.bench.handle? e.handle = some hd ∧ r.bench.device? hd.device = some d ∧ d.name = port ∧
      (s.connected = true ↔ hd.closed = false ∧ d.present = true ∧ d.generation = hd.generation)) ∧
    (∀ port o ar s r', r.openPort port o ar = (.ok s, r') → r'.status port = .ok s) ∧
    (∀ port o s r', r.setConfig port o = (.ok s, r') → r'.status port = .ok s) := by
  intro r
  have hr : Reachable r :=
    .call _ (.call _ (.call _ (.call _ (.empty {} .default) rfl) rfl) trivial) trivial
  exact ⟨hr, by decide +kernel, Reachable.statuses_agree hr⟩

end SerialHub.Registry
