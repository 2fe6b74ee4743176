import SerialHub.Proofs.Registry.Conservation
import Mathlib.Data.List.Nodup

/-!
# One reopening per handle

A reopening is begun by marking an open port for the handle it holds and settled later, with other
calls, marks and settlings between, in any order. In every state so reached a port is marked
exactly when a reopening begun for its current handle is unsettled, and since handles are never
reused, a reopening that outlived its handle changes no entry when settled. Main statement:
`Supervised.Reachable.one_reopening_per_handle`.
-/

namespace SerialHub.Registry

open SerialHub.Line
open SerialHub.Port

/-- A registry with the reopenings begun on it and not yet settled, each with the configuration
its mark gave. -/
structure Supervised where
  registry : Registry
  pending : List (Pending × LineConfig) := []

namespace Supervised

/-- What can happen to a supervised registry: a call, a mark that may begin a reopening, and the
settling of a reopening that was begun. -/
inductive Move where
  | call (c : Call)
  | mark (port : String) (stale : Nat)
  | finish (q : Pending × LineConfig)

namespace Move

/-- The supervised registry after a move. A mark that begins a reopening hands it out, and
settling a reopening takes it back. -/
def run : Move → Supervised → Supervised
  | .call c, s => { s with registry := c.run s.registry }
  | .mark port stale, s =>
    match s.registry.markReconnecting port stale with
    | (some config, r) => ⟨r, s.pending ++ [(⟨port, stale⟩, config)]⟩
    | (none, r) => ⟨r, s.pending⟩
  | .finish q, s => ⟨s.registry.reconnect q.1.port q.1.stale q.2, s.pending.erase q⟩

/-- Calls are made as before, and only a reopening that was handed out and is not settled yet
can be settled. -/
def Admissible : Move → Supervised → Prop
  | .call c, s => c.Admissible s.registry
  | .mark _ _, _ => True
  | .finish q, s => q ∈ s.pending

end Move

/-- The supervised registries reached from an empty registry over no devices. -/
inductive Reachable : Supervised → Prop
  | empty (blacklist : Blacklist) (defaults : LineConfig) :
      Reachable ⟨{ bench := {}, blacklist, defaults }, []⟩
  | move {s : Supervised} (m : Move) : Reachable s → m.Admissible s → Reachable (m.run s)

/-- The registry a mark leaves. -/
theorem registry_mark (s : Supervised) (port : String) (stale : Nat) :
    ((Move.mark port stale).run s).registry = (s.registry.markReconnecting port stale).2 := by
  simp only [Move.run]
  split <;> simp_all

/-- The registry of a supervised registry is one the calls and the two halves of reopenings
reach. -/
theorem Reachable.registry {s : Supervised} (hs : s.Reachable) :
    Registry.Reachable s.registry := by
  induction hs with
  | empty blacklist defaults => exact .empty blacklist defaults
  | move m _ hm ih =>
    cases m with
    | call c => exact .call c ih hm
    | mark port stale =>
      rw [registry_mark]
      exact .mark port stale ih
    | finish q => exact .reconnect q.1.port q.1.stale q.2 ih

end Supervised

/-- The reopening marks of a registry match the reopenings begun on it and not yet settled. -/
structure Tracked (r : Registry) (pending : List (Pending × LineConfig)) : Prop where
  /-- No reopening is begun twice for one port and handle. -/
  nodup : (pending.map Prod.fst).Nodup
  /-- An open port is marked exactly when a reopening begun for the handle it holds is
  unsettled. -/
  flagged : ∀ port e, r.entry? port = some e →
    (e.reconnecting = true ↔ ∃ c, (⟨port, e.handle⟩, c) ∈ pending)
  /-- Reopenings are begun for handles that were opened. -/
  issued : ∀ q ∈ pending, q.1.stale < r.bench.handles.length

/-- What the marks of a registry are: each open port with its handle and its mark. -/
def marks (r : Registry) : List (String × Nat × Bool) :=
  r.entries.map (fun p => (p.1, p.2.handle, p.2.reconnecting))

/-- Registries with the same marks give every port the same handle and mark. -/
theorem marks_entry {r r' : Registry} (hm : marks r' = marks r) (port : String) :
    (r'.entry? port).map (fun e => (e.handle, e.reconnecting)) =
      (r.entry? port).map (fun e => (e.handle, e.reconnecting)) := by
  simp only [Registry.entry?, ← Keyed.lookup_map_snd]
  exact congrArg (List.lookup port) hm

/-- Changing an entry in a way that keeps its handle and its mark keeps the marks. -/
theorem marks_modifyEntry (r : Registry) (port : String) (f : Entry → Entry)
    (hf : ∀ e, (f e).handle = e.handle ∧ (f e).reconnecting = e.reconnecting) :
    marks (r.modifyEntry port f) = marks r := by
  simp only [marks, modifyEntry, Keyed.modify, List.map_map]
  apply List.map_congr_left
  intro p _
  by_cases hp : p.1 = port <;> simp [hp, hf]

section Lists

variable {P : List (Pending × LineConfig)} {q x : Pending × LineConfig}

/-- Two unsettled reopenings begun for one port and handle are the same. -/
theorem eq_of_fst_eq (hn : (P.map Prod.fst).Nodup) (hx : x ∈ P) (hq : q ∈ P) (h : x.1 = q.1) :
    x = q :=
  List.inj_on_of_nodup_map hn hx hq h

/-- Settling a reopening leaves none begun for its port and handle. -/
theorem not_mem_erase (hn : (P.map Prod.fst).Nodup) (hq : q ∈ P) (c : LineConfig) :
    (q.1, c) ∉ P.erase q := by
  intro hmem
  have hnd : P.Nodup := List.Nodup.of_map Prod.fst hn
  obtain ⟨hne, hin⟩ := (List.Nodup.mem_erase_iff hnd).mp hmem
  exact hne (eq_of_fst_eq hn hin hq rfl)

/-- Settling one reopening leaves those of every other port and handle as they were. -/
theorem mem_erase_of_fst_ne (h : x.1 ≠ q.1) : x ∈ P.erase q ↔ x ∈ P :=
  List.mem_erase_of_ne (fun e => h (congrArg Prod.fst e))

/-- A reopening just begun is the last one, so settling it gives back those before it. -/
theorem erase_append_new (hn : ((P ++ [x]).map Prod.fst).Nodup) : (P ++ [x]).erase x = P := by
  have hnew : x ∉ P := by
    intro hmem
    rw [List.map_append, List.nodup_append] at hn
    exact hn.2.2 _ (List.mem_map_of_mem hmem) _ (List.mem_singleton_self _) rfl
  rw [List.erase_append_right _ hnew, List.erase_cons_head, List.append_nil]

end Lists

namespace Tracked

variable {r : Registry} {P : List (Pending × LineConfig)}

/-- Nothing is begun over an empty registry. -/
theorem empty (blacklist : Blacklist) (defaults : LineConfig) :
    Tracked { bench := {}, blacklist, defaults } [] where
  nodup := List.nodup_nil
  flagged _ _ he := by simp [Registry.entry?] at he
  issued _ hq := by simp at hq

/-- A change that keeps every port's handle and mark and removes no handle keeps the record. -/
theorem of_marks {r' : Registry} (h : Tracked r P) (hm : marks r' = marks r)
    (hl : r.bench.handles.length ≤ r'.bench.handles.length) : Tracked r' P where
  nodup := h.nodup
  flagged port e' he' := by
    have hview := marks_entry hm port
    rw [he'] at hview
    obtain ⟨e, he, heq⟩ := Option.map_eq_some_iff.mp hview.symm
    simp only [Prod.mk.injEq] at heq
    rw [← heq.1, ← heq.2]
    exact h.flagged port e he
  issued q hq := lt_of_lt_of_le (h.issued q hq) hl

/-- A mark that begins a reopening records it on the port's entry, which was not marked. -/
theorem mark (h : Tracked r P) (hp : Placed r) {port : String} {stale : Nat} {c : LineConfig}
    {r' : Registry} (hm : r.markReconnecting port stale = (some c, r')) :
    Tracked r' (P ++ [(⟨port, stale⟩, c)]) := by
  rcases markReconnecting_cases r port stale with hm' | ⟨e, he, hs, hfree, hm'⟩
  · rw [hm'] at hm
    cases hm
  rw [hm'] at hm
  cases hm
  have hentry := entry?_modifyEntry r port
  -- the entry was not marked, so no reopening was begun for its handle
  have hnone : ∀ c', (⟨port, stale⟩, c') ∉ P := by
    intro c' hc'
    have := (h.flagged port e he).mpr ⟨c', by rw [hs]; exact hc'⟩
    rw [hfree] at this
    cases this
  refine ⟨?nodup, ?flagged, ?issued⟩
  case nodup =>
    rw [List.map_append, List.nodup_append]
    refine ⟨h.nodup, List.nodup_singleton _, ?_⟩
    intro a ha b hb
    simp only [List.map_cons, List.map_nil, List.mem_singleton] at hb
    subst hb
    obtain ⟨⟨a', c'⟩, hmem, rfl⟩ := List.mem_map.mp ha
    rintro rfl
    exact hnone c' hmem
  case flagged =>
    intro p e' he'
    rw [hentry] at he'
    split at he'
    · rename_i hpq
      subst hpq
      rw [he] at he'
      cases he'
      refine ⟨fun _ => ⟨e.config, ?_⟩, fun _ => rfl⟩
      rw [hs]
      exact List.mem_append_right _ (List.mem_singleton_self _)
    · rename_i hpq
      rw [h.flagged p e' he']
      -- a reopening of another port is not the one just begun
      simp only [List.mem_append, List.mem_singleton, Prod.mk.injEq, Pending.mk.injEq, hpq,
        false_and, or_false]
  case issued =>
    intro q hq
    rcases List.mem_append.mp hq with hq | hq
    · exact h.issued q hq
    · rw [List.mem_singleton.mp hq]
      obtain ⟨_, hd, -, hh, -⟩ := hp.installed port e he
      rw [← hs]
      exact Bench.lt_length_of_handle? hh

/-- Settling one reopening keeps the mark of an entry whose port and handle are not its own. -/
theorem flagged_erase (h : Tracked r P) {p : String} {e : Entry} (he : r.entry? p = some e)
    {q : Pending × LineConfig} (hne : (⟨p, e.handle⟩ : Pending) ≠ q.1) :
    (e.reconnecting = true ↔ ∃ c, (⟨p, e.handle⟩, c) ∈ P.erase q) := by
  rw [h.flagged p e he]
  exact exists_congr fun c => (mem_erase_of_fst_ne (x := (⟨p, e.handle⟩, c)) hne).symm

/-- Settling a reopening that was handed out: its port's entry is unmarked if it still holds the
dead handle, and no other entry changes. -/
theorem finish (h : Tracked r P) {q : Pending × LineConfig} (hq : q ∈ P) :
    Tracked (r.reconnect q.1.port q.1.stale q.2) (P.erase q) := by
  obtain ⟨⟨port, stale⟩, config⟩ := q
  have hnodup : ((P.erase (⟨port, stale⟩, config)).map Prod.fst).Nodup :=
    h.nodup.sublist ((List.erase_sublist).map _)
  have hlen := (reconnect_bench r port stale config).2.1
  refine ⟨hnodup, ?_, fun x hx => lt_of_lt_of_le (h.issued x (List.mem_of_mem_erase hx)) hlen⟩
  intro p e' he'
  by_cases hp : p = port
  · subst hp
    rcases reconnect_cases r p stale config with
      ⟨_, e, -, he, hs, hr⟩ | ⟨_, -, hne, hr⟩ | ⟨fresh, b, e, hopen, he, hs, hr⟩ |
        ⟨fresh, b, hopen, hne, hr⟩
    · -- the open failed: the mark is cleared, and the reopening was the only one for the handle
      rw [hr, entry?_modifyEntry, if_pos rfl, he] at he'
      cases he'
      simp only [Bool.false_eq_true, false_iff, not_exists]
      rw [hs]
      exact not_mem_erase h.nodup hq
    · -- the entry holds another handle: it keeps it, and its own reopenings
      rw [hr] at he'
      exact h.flagged_erase he' fun heq => hne e' he' (congrArg Pending.stale heq)
    · -- the fresh handle is entered unmarked; nothing was begun for a handle that new
      rw [hr, entry?_release, entry?_modifyEntry, if_pos rfl, entry?_withBench, he] at he'
      cases he'
      obtain ⟨hfresh, -, -⟩ := Bench.openPort_keeps hopen
      simp only [Bool.false_eq_true, false_iff, not_exists]
      intro c hc
      have := h.issued _ (List.mem_of_mem_erase hc)
      simp only at this
      omega
    · rw [hr, entry?_release, entry?_withBench] at he'
      exact h.flagged_erase he' fun heq => hne e' he' (congrArg Pending.stale heq)
  · rw [entry?_reconnect_of_ne stale config hp] at he'
    exact h.flagged_erase he' fun heq => hp (congrArg Pending.port heq)

/-- One check of a supervisor pass is a mark and its settling at once, so the record is as it
was. -/
theorem checkOne (h : Tracked r P) (hc : Conserved r) (port : String) (k : Nat) :
    Tracked (r.checkOne port k) P := by
  rcases checkOne_cases r port k with hr | ⟨config, r', hm, hr⟩
  · rw [hr]
    exact h
  · have hmarked := h.mark hc.toPlaced hm
    have hsettled := hmarked.finish (List.mem_append_right P (List.mem_singleton_self _))
    rw [erase_append_new hmarked.nodup] at hsettled
    rw [hr]
    exact hsettled

/-! ## Calls -/

theorem actOn (h : Tracked r P) (i : Nat) (a : DeviceAction) : Tracked (r.actOn i a) P :=
  h.of_marks rfl (le_of_eq rfl)

theorem addDevice (h : Tracked r P) (name : String) :
    Tracked { r with bench := r.bench.addDevice name } P :=
  h.of_marks rfl (le_of_eq rfl)

theorem setConfig (h : Tracked r P) (port : String) (o : Overrides) :
    Tracked (r.setConfig port o).2 P := by
  rcases setConfig_cases r port o with hr | ⟨e, merged, b, -, -, hb, hr⟩
  · rw [hr]
    exact h
  · rw [hr]
    obtain ⟨hd, d, -, rfl⟩ := Bench.applyConfig_eq_ok hb
    exact h.of_marks (marks_modifyEntry _ port _ (fun _ => ⟨rfl, rfl⟩)) (by simp)

theorem send (h : Tracked r P) (port : String) (data : List UInt8) :
    Tracked (r.send port data).2 P := by
  obtain ⟨b, hr, hs⟩ := send_setup r port data
  have hl : b.handles = r.bench.handles := by simpa using congrArg Bench.handles hs
  rw [hr]
  exact h.of_marks rfl (by simp [hl])

theorem readData (h : Tracked r P) (port : String) (size : Option Nat) (t : Option Nat) :
    Tracked (r.readData port size t).2 P := by
  obtain ⟨b, hr, hs⟩ := readData_setup r port size t
  have hl : b.handles = r.bench.handles := by simpa using congrArg Bench.handles hs
  rw [hr]
  exact h.of_marks rfl (by simp [hl])

/-- Opening a port enters an unmarked handle newer than every reopening begun. -/
theorem openPort (h : Tracked r P) (port : String) (o : Overrides) (ar : Bool) :
    Tracked (r.openPort port o ar).2 P := by
  rcases openPort_cases r port o ar with hr | ⟨config, k, b, -, -, hopen, hr⟩
  · rw [hr]
    exact h
  · rw [hr]
    obtain ⟨hk, hlen, -, -⟩ := Bench.openPort_keeps hopen
    refine ⟨h.nodup, ?_, fun q hq => ?_⟩
    · intro p e he
      have he' : (Keyed.insert port (⟨k, config, ar, false⟩ : Entry) r.entries).lookup p =
          some e := he
      rw [Keyed.lookup_insert] at he'
      split at he'
      · cases he'
        simp only [Bool.false_eq_true, false_iff, not_exists]
        intro c hc
        have := h.issued _ hc
        simp only at this
        omega
      · exact h.flagged p e he'
    · show q.1.stale < b.handles.length
      rw [hlen]
      exact Nat.lt_succ_of_lt (h.issued q hq)

/-- Closing a port removes its entry; the reopenings begun for it stay unsettled. -/
theorem closePort (h : Tracked r P) (hs : Keyed.Sorted r.entries) (port : String) :
    Tracked (r.closePort port).2 P := by
  cases he : r.entry? port with
  | none =>
    rw [closePort_of_none he]
    exact h
  | some e =>
    rw [closePort_of_entry he]
    refine ⟨h.nodup, ?_, fun q hq => ?_⟩
    · intro p e' he'
      rw [entry?_release, entry?_erase hs] at he'
      split at he'
      · cases he'
      · exact h.flagged p e' he'
    · rw [(release_keeps _ _).2.1]
      exact h.issued q hq

/-- A supervisor pass checks one entry after another. -/
theorem checkPorts (h : Tracked r P) (hc : Conserved r) : Tracked r.checkPorts P :=
  (checkPorts_induction (P := fun r' => Conserved r' ∧ Tracked r' P) r ⟨hc, h⟩
    (fun _ port e _ _ _ ih => ⟨ih.1.checkOne port e.handle, ih.2.checkOne ih.1 port e.handle⟩)).2

/-- Shutting down closes the open ports one after another. -/
theorem shutdown (h : Tracked r P) (hc : Conserved r) : Tracked r.shutdown P := by
  rw [shutdown_eq_foldl_closePort]
  generalize r.entries = L
  induction L generalizing r with
  | nil => exact h
  | cons p rest ih => exact ih (h.closePort hc.sorted p.1) (hc.closePort p.1)

/-- No call begins or settles a reopening, and every call keeps the record. -/
theorem run (h : Tracked r P) (hc : Conserved r) (c : Call) : Tracked (c.run r) P := by
  cases c with
  | act i a => exact h.actOn i a
  | addDevice name => exact h.addDevice name
  | openPort port o ar => exact h.openPort port o ar
  | closePort port => exact h.closePort hc.sorted port
  | setConfig port o => exact h.setConfig port o
  | send port data => exact h.send port data
  | read port size t => exact h.readData port size t
  | checkPorts => exact h.checkPorts hc
  | shutdown => exact h.shutdown hc

end Tracked

/-- A supervisor pass leaves a port that is being reopened alone: its entry stays as it is, and
its device is opened no more times. -/
theorem Conserved.checkPorts_spares {r : Registry} (hc : Conserved r) {port : String} {e : Entry}
    (he : r.entry? port = some e) (hflag : e.reconnecting = true) :
    Registry.entry? r.checkPorts port = some e ∧
      ∀ i, r.bench.lookup? port = some i →
        (r.checkPorts.bench.device? i).map Device.openCount =
          (r.bench.device? i).map Device.openCount := by
  -- what the pass keeps, check after check: the books, the port's entry, the names, and the
  -- opens of the port's device
  have hpass := checkPorts_induction (P := fun r' => Conserved r' ∧ r'.entry? port = some e ∧
      r'.bench.names = r.bench.names ∧ ∀ i, r.bench.lookup? port = some i →
        (r'.bench.device? i).map Device.openCount = (r.bench.device? i).map Device.openCount)
    r ⟨hc, he, rfl, fun _ _ => rfl⟩ ?step
  · exact ⟨hpass.2.1, hpass.2.2.2⟩
  intro r' p e' hmem _ hfree ⟨hc', he', hnames, hopens⟩
  -- the pass checks unmarked entries only, so never this port's
  have hp : p ≠ port := by
    rintro rfl
    have heq : e' = e := Option.some.inj ((Keyed.lookup_of_mem hc.sorted hmem).symm.trans he)
    rw [heq, hflag] at hfree
    cases hfree
  rcases checkOne_cases r' p e'.handle with hr | ⟨config, r'', hm, hr⟩
  · rw [hr]
    exact ⟨hc', he', hnames, hopens⟩
  rcases markReconnecting_cases r' p e'.handle with hm' | ⟨e0, -, -, -, hm'⟩
  · rw [hm'] at hm
    cases hm
  rw [hm'] at hm
  cases hm
  have hmarked : Conserved (r'.modifyEntry p (fun e => { e with reconnecting := true })) := by
    have := hc'.markReconnecting p e'.handle
    rwa [hm'] at this
  obtain ⟨hnames', -, hopens'⟩ := reconnect_bench
    (r'.modifyEntry p (fun e => { e with reconnecting := true })) p e'.handle e0.config
  rw [hr]
  refine ⟨hmarked.reconnect p e'.handle e0.config, ?_, hnames'.trans hnames, fun i hi => ?_⟩
  · rw [entry?_reconnect_of_ne _ _ (Ne.symm hp), entry?_modifyEntry, if_neg (Ne.symm hp)]
    exact he'
  · -- the device opened is the one registered under the other port
    have hlk : (r'.modifyEntry p (fun e => { e with reconnecting := true })).bench.lookup? port =
        some i := by
      simp only [modifyEntry_bench, Bench.lookup?, hnames]
      exact hi
    have hnot : (r'.modifyEntry p (fun e => { e with reconnecting := true })).bench.lookup? p ≠
        some i := fun h2 => hp (hmarked.naming.lookup_inj h2 hlk)
    rw [hopens' i hnot]
    exact hopens i hi

/-- Every supervised registry the moves reach keeps the record of its reopenings. -/
theorem Supervised.Reachable.tracked {s : Supervised} (hs : s.Reachable) :
    Tracked s.registry s.pending := by
  induction hs with
  | empty blacklist defaults => exact Tracked.empty blacklist defaults
  | move m hs' hm ih =>
    have hc := hs'.registry.conserved
    cases m with
    | call c => exact ih.run hc c
    | mark port stale =>
      simp only [Supervised.Move.run]
      split
      · rename_i config r' hmark
        exact ih.mark hc.toPlaced hmark
      · rename_i r' hmark
        -- a mark that begins nothing changes nothing
        rcases markReconnecting_cases _ port stale with hm' | ⟨e, -, -, -, hm'⟩
        · rw [hm'] at hmark
          cases hmark
          exact ih
        · rw [hm'] at hmark
          cases hmark
    | finish q => exact ih.finish hm

/-- At most one reopening per handle. In every supervised registry the moves reach: no reopening
is begun twice for one port and handle; an open port is marked exactly when a reopening begun for
the handle it holds now is unsettled; a marked port is not marked again; a supervisor pass
leaves a marked port and its device alone; settling a reopening whose handle its port no longer
holds changes no entry; and with no reopening unsettled, no port is marked. -/
theorem Supervised.Reachable.one_reopening_per_handle {s : Supervised} (hs : s.Reachable) :
    (s.pending.map Prod.fst).Nodup ∧
    (∀ port e, s.registry.entry? port = some e →
      (e.reconnecting = true ↔ ∃ c, (⟨port, e.handle⟩, c) ∈ s.pending)) ∧
    (∀ port e stale, s.registry.entry? port = some e → e.reconnecting = true →
      (s.registry.markReconnecting port stale).1 = none) ∧
    (∀ port e, s.registry.entry? port = some e → e.reconnecting = true →
      Registry.entry? s.registry.checkPorts port = some e ∧
        ∀ i, s.registry.bench.lookup? port = some i →
          (s.registry.checkPorts.bench.device? i).map Device.openCount =
            (s.registry.bench.device? i).map Device.openCount) ∧
    (∀ q ∈ s.pending, (∀ e, s.registry.entry? q.1.port = some e → e.handle ≠ q.1.stale) →
      (s.registry.reconnect q.1.port q.1.stale q.2).entries = s.registry.entries) ∧
    (s.pending = [] → ∀ port e, s.registry.entry? port = some e → e.reconnecting = false) := by
  have ht := hs.tracked
  have hc := hs.registry.conserved
  refine ⟨ht.nodup, ht.flagged, ?_, fun port e he hflag => hc.checkPorts_spares he hflag,
    fun q _ hne => reconnect_entries_of_ne q.2 hne, ?_⟩
  · intro port e stale he hflag
    rcases markReconnecting_cases s.registry port stale with hm | ⟨e0, he0, -, hfree, -⟩
    · rw [hm]
    · rw [he] at he0
      cases he0
      rw [hflag] at hfree
      cases hfree
  · intro hnone port e he
    cases hflag : e.reconnecting with
    | false => rfl
    | true =>
      obtain ⟨c, hc⟩ := (ht.flagged port e he).mp hflag
      rw [hnone] at hc
      cases hc

/-- A port opened and marked once: its one reopening is recorded, and the record matches its
mark. -/
theorem one_reopening_after_mark :
    Supervised.Reachable ((Supervised.Move.mark "P1" 0).run
      ((Supervised.Move.call (.openPort "P1" {} false)).run
        ((Supervised.Move.call (.addDevice "P1")).run ⟨{ bench := {} }, []⟩))) ∧
    ((Supervised.Move.mark "P1" 0).run
      ((Supervised.Move.call (.openPort "P1" {} false)).run
        ((Supervised.Move.call (.addDevice "P1")).run ⟨{ bench := {} }, []⟩))).pending.length = 1 ∧
    ∀ port e, ((Supervised.Move.mark "P1" 0).run
      ((Supervised.Move.call (.openPort "P1" {} false)).run
        ((Supervised.Move.call (.addDevice "P1")).run ⟨{ bench := {} }, []⟩))).registry.entry? port =
          some e →
      (e.reconnecting = true ↔ ∃ c, (⟨port, e.handle⟩, c) ∈ ((Supervised.Move.mark "P1" 0).run
        ((Supervised.Move.call (.openPort "P1" {} false)).run
          ((Supervised.Move.call (.addDevice "P1")).run ⟨{ bench := {} }, []⟩))).pending) := by
  have hs : Supervised.Reachable ((Supervised.Move.mark "P1" 0).run
      ((Supervised.Move.call (.openPort "P1" {} false)).run
        ((Supervised.Move.call (.addDevice "P1")).run ⟨{ bench := {} }, []⟩))) :=
    .move _ (.move _ (.move _ (.empty {} .default) rfl) trivial) trivial
  exact ⟨hs, by decide, (Supervised.Reachable.one_reopening_per_handle hs).2.1⟩

end SerialHub.Registry
