import SerialHub.Proofs.Registry.Reopening

/-!
# The handle of a port carries the port's configuration

The registry gives a port's handle the configuration it stores, and a reopening opens its fresh
handle with the configuration its mark copied. A reconfiguration between the mark and the settling
makes that copy stale, and the settling then swaps in a handle with the old configuration; when
that does not happen and no port is closed, every handle carries its port's stored configuration.
Main statement: `Supervised.QuietlyReachable.handles_carry_config`.
-/

namespace SerialHub.Registry

open SerialHub.Line
open SerialHub.Port

namespace Supervised

/-- A move that closes no port and reconfigures no port while it is being reopened. -/
def Move.Quiet : Move → Supervised → Prop
  | .call (.closePort _), _ => False
  | .call .shutdown, _ => False
  | .call (.setConfig port _), s => ∀ e, s.registry.entry? port = some e → e.reconnecting = false
  | _, _ => True

/-- The supervised registries reached by quiet moves. -/
inductive QuietlyReachable : Supervised → Prop
  | empty (blacklist : Blacklist) (defaults : LineConfig) :
      QuietlyReachable ⟨{ bench := {}, blacklist, defaults }, []⟩
  | move {s : Supervised} (m : Move) : QuietlyReachable s → m.Admissible s → m.Quiet s →
      QuietlyReachable (m.run s)

theorem QuietlyReachable.reachable {s : Supervised} (hs : s.QuietlyReachable) : s.Reachable := by
  induction hs with
  | empty blacklist defaults => exact .empty blacklist defaults
  | move m _ hm _ ih => exact .move m ih hm

end Supervised

/-- What the configuration of open ports reads: each port's handle and stored configuration,
each handle's device and timeout, and the configurations each device was given. -/
def setting (r : Registry) :
    List (String × Nat × LineConfig) × List (Nat × Nat) × List (List LineConfig) :=
  (r.entries.map (fun p => (p.1, p.2.handle, p.2.config)),
    r.bench.handles.map (fun h => (h.device, h.timeoutMs)),
    r.bench.devices.map Device.configHistory)

section Setting

variable {r r' : Registry}

theorem setting_entry (hs : setting r' = setting r) (port : String) :
    (r'.entry? port).map (fun e => (e.handle, e.config)) =
      (r.entry? port).map (fun e => (e.handle, e.config)) := by
  have h := congrArg (·.1) hs
  simp only [setting] at h
  simp only [Registry.entry?, ← Keyed.lookup_map_snd]
  exact congrArg (List.lookup port) h

theorem setting_handle? (hs : setting r' = setting r) (k : Nat) :
    (r'.bench.handle? k).map (fun h => (h.device, h.timeoutMs)) =
      (r.bench.handle? k).map (fun h => (h.device, h.timeoutMs)) := by
  have h := congrArg (·.2.1) hs
  simp only [setting] at h
  simp only [Bench.handle?, ← List.getElem?_map, h]

theorem setting_device? (hs : setting r' = setting r) (i : Nat) :
    (r'.bench.device? i).map Device.configHistory =
      (r.bench.device? i).map Device.configHistory := by
  have h := congrArg (·.2.2) hs
  simp only [setting] at h
  simp only [Bench.device?, ← List.getElem?_map, h]

/-- Changing traffic keeps the setting. -/
theorem setting_of_setup {b : Bench} (hs : b.setup = r.bench.setup) :
    setting { r with bench := b } = setting r := by
  have hh : b.handles = r.bench.handles := by simpa using congrArg Bench.handles hs
  have hd := congrArg (fun b => b.devices.map Device.configHistory) hs
  simp only [Bench.setup, List.map_map] at hd
  simp only [setting, hh]
  exact congrArg (fun l => (_, _, l)) hd

/-- A test's action never configures a device. -/
theorem setting_actOn (r : Registry) (i : Nat) (a : DeviceAction) :
    setting (r.actOn i a) = setting r := by
  simp only [setting, actOn_eq, Bench.modifyDevice_handles]
  congr 2
  exact map_updateAt (fun d => (Device.act_keeps d a).2.2.2) _ _

/-- Changing an entry in a way that keeps its handle and configuration keeps the setting. -/
theorem setting_modifyEntry (r : Registry) (port : String) (f : Entry → Entry)
    (hf : ∀ e, (f e).handle = e.handle ∧ (f e).config = e.config) :
    setting (r.modifyEntry port f) = setting r := by
  simp only [setting, modifyEntry, Keyed.modify, List.map_map]
  congr 1
  apply List.map_congr_left
  intro p _
  by_cases hp : p.1 = port <;> simp [hp, hf]

/-- Letting a handle go changes no timeout and no configuration. -/
theorem setting_release (r : Registry) (h : Nat) : setting (r.release h) = setting r := by
  unfold release
  split
  · rename_i b hb
    obtain ⟨hd, -, -, rfl⟩ := Bench.close_eq_ok hb
    simp only [setting, Bench.modifyDevice, Bench.modifyHandle]
    refine Prod.ext rfl (Prod.ext ?_ ?_) <;> apply map_updateAt <;> intro _ <;> rfl
  · rfl

end Setting

/-- The handle of every open port carries the port's stored configuration, and every reopening
under way is for the handle its port holds, with the port's stored configuration. -/
structure Carried (r : Registry) (pending : List (Pending × LineConfig)) : Prop where
  /-- The handle's device was last given the stored configuration, and the handle reads with its
  timeout. -/
  carried : ∀ port e, r.entry? port = some e → ∃ hd d, r.bench.handle? e.handle = some hd ∧
    r.bench.device? hd.device = some d ∧ d.currentConfig = some e.config ∧
    hd.timeoutMs = e.config.readTimeoutMs
  /-- A reopening under way is for the handle its port holds, with its stored configuration. -/
  matched : ∀ q ∈ pending, ∃ e, r.entry? q.1.port = some e ∧ e.handle = q.1.stale ∧ q.2 = e.config

/-- A handle opened on the device registered under a port reads with the timeout of the
configuration it was opened with, its device was last given that configuration, and the handles
of the other open ports and their devices are as they were. -/
theorem Conserved.openBench_config {r : Registry} (hc : Conserved r) {port : String}
    {c : LineConfig} {k : Nat} {b : Bench} (hopen : r.bench.openPort port c = .ok (k, b)) :
    ∃ (i : Nat) (d : Device), b.handle? k = some ⟨i, d.generation, c.readTimeoutMs, false⟩ ∧
      b.device? i =
        some { d with openCount := d.openCount + 1, configHistory := d.configHistory ++ [c] } ∧
      ∀ p e hd, p ≠ port → r.entry? p = some e → r.bench.handle? e.handle = some hd →
        b.handle? e.handle = some hd ∧ b.device? hd.device = r.bench.device? hd.device := by
  obtain ⟨i, hi, hdev⟩ := Bench.openPort_eq_ok hopen
  obtain ⟨d, -, rfl, -, hdevs, hhandles, -⟩ := Bench.openDevice_views hdev
  refine ⟨i, d, by rw [hhandles, if_pos rfl], by rw [hdevs, if_pos rfl], ?_⟩
  intro p e hd hp he hh
  refine ⟨by rw [hhandles, if_neg (Nat.ne_of_lt (Bench.lt_length_of_handle? hh))]; exact hh, ?_⟩
  -- the other port's handle is on the device registered under the other name
  rw [hdevs, if_neg (hc.device_ne he hh hi hp).symm]

namespace Carried

variable {r : Registry} {P : List (Pending × LineConfig)}

theorem empty (blacklist : Blacklist) (defaults : LineConfig) :
    Carried { bench := {}, blacklist, defaults } [] where
  carried _ _ he := by simp [Registry.entry?] at he
  matched _ hq := by simp at hq

/-- The record reads nothing but the setting. -/
theorem of_setting {r' : Registry} (h : Carried r P) (hs : setting r' = setting r) :
    Carried r' P where
  carried port e' he' := by
    obtain ⟨e, he, heq⟩ := exists_of_map_eq (setting_entry hs port).symm he'
    simp only [Prod.mk.injEq] at heq
    obtain ⟨hd, d, hh, hd', hcur, ht⟩ := h.carried port e he
    obtain ⟨hd2, hh2, hheq⟩ := exists_of_map_eq (setting_handle? hs e.handle) hh
    obtain ⟨d2, hd2', hdeq⟩ := exists_of_map_eq (setting_device? hs hd.device) hd'
    simp only [Prod.mk.injEq] at hheq
    refine ⟨hd2, d2, by rw [← heq.1]; exact hh2, by rw [hheq.1]; exact hd2', ?_, ?_⟩
    · rw [← heq.2, ← hcur]
      simp only [Device.currentConfig, hdeq]
    · rw [← heq.2, hheq.2, ht]
  matched q hq := by
    obtain ⟨e, he, hs', hc⟩ := h.matched q hq
    obtain ⟨e', he', heq⟩ := exists_of_map_eq (setting_entry hs q.1.port) he
    simp only [Prod.mk.injEq] at heq
    exact ⟨e', he', heq.1.trans hs', hc.trans heq.2.symm⟩

/-- Settled reopenings take nothing from the record. -/
theorem sublist {P' : List (Pending × LineConfig)} (h : Carried r P) (hP : ∀ q ∈ P', q ∈ P) :
    Carried r P' :=
  ⟨h.carried, fun q hq => h.matched q (hP q hq)⟩

/-- A mark copies the stored configuration of the port into the reopening it begins. -/
theorem mark (h : Carried r P) {port : String} {stale : Nat} {c : LineConfig} {r' : Registry}
    (hm : r.markReconnecting port stale = (some c, r')) :
    Carried r' (P ++ [(⟨port, stale⟩, c)]) := by
  rcases markReconnecting_cases r port stale with hm' | ⟨e, he, hs, -, hm'⟩
  · rw [hm'] at hm
    cases hm
  rw [hm'] at hm
  cases hm
  have hsame := h.of_setting (setting_modifyEntry r port (fun e => { e with reconnecting := true })
    (fun _ => ⟨rfl, rfl⟩))
  refine ⟨hsame.carried, fun q hq => ?_⟩
  rcases List.mem_append.mp hq with hq | hq
  · exact hsame.matched q hq
  · rw [List.mem_singleton.mp hq]
    exact ⟨{ e with reconnecting := true }, by simp [entry?_modifyEntry, he], hs, rfl⟩

/-- Settling a reopening under way: its fresh handle is opened with the port's stored
configuration, or, if the open fails, the port keeps its handle. -/
theorem finish (h : Carried r P) (hc : Conserved r) (ht : Tracked r P)
    {q : Pending × LineConfig} (hq : q ∈ P) :
    Carried (r.reconnect q.1.port q.1.stale q.2) (P.erase q) := by
  obtain ⟨⟨port, stale⟩, config⟩ := q
  obtain ⟨e, he, hs, hconf⟩ := h.matched _ hq
  simp only at he hs hconf
  show Carried (r.reconnect port stale config) _
  have hrest : Carried r (P.erase (⟨port, stale⟩, config)) :=
    h.sublist (fun _ hx => List.mem_of_mem_erase hx)
  -- every other reopening under way is of another port
  have hother : ∀ q' ∈ P.erase (⟨port, stale⟩, config), q'.1.port ≠ port := by
    rintro ⟨⟨p', s'⟩, c'⟩ hq' hp
    obtain ⟨e', he', hs', -⟩ := h.matched _ (List.mem_of_mem_erase hq')
    simp only at hp he' hs'
    subst hp
    rw [he] at he'
    cases he'
    rw [← hs', hs] at hq'
    exact not_mem_erase ht.nodup hq c' hq'
  rcases reconnect_cases r port stale config with
    ⟨_, e0, -, -, -, hr⟩ | ⟨_, -, hne, -⟩ | ⟨fresh, b, e0, hopen, he0, -, hr⟩ |
      ⟨fresh, b, -, hne, -⟩
  · -- the open failed: only the mark is cleared
    rw [hr]
    exact hrest.of_setting (setting_modifyEntry _ _ _ (fun _ => ⟨rfl, rfl⟩))
  · exact absurd hs (hne e he)
  · -- the fresh handle replaces the dead one, which is let go
    rw [he] at he0
    cases he0
    rw [hr]
    refine Carried.of_setting ?_ (setting_release _ stale)
    obtain ⟨i, d, hk, hdi, hframe⟩ := hc.openBench_config hopen
    refine ⟨fun p e' he' => ?_, fun q' hq' => ?_⟩
    · simp only [entry?_modifyEntry, entry?_withBench] at he'
      split at he'
      · rename_i hp
        subst hp
        rw [he] at he'
        cases he'
        refine ⟨_, _, hk, hdi, by simp [Device.currentConfig, hconf], ?_⟩
        rw [hconf]
      · rename_i hp
        obtain ⟨hd, d', hh, hd', hcur, ht'⟩ := h.carried p e' he'
        obtain ⟨hh2, hd2⟩ := hframe p e' hd hp he' hh
        exact ⟨hd, d', hh2, hd2.trans hd', hcur, ht'⟩
    · obtain ⟨e', he', hs', hc'⟩ := hrest.matched q' hq'
      refine ⟨e', ?_, hs', hc'⟩
      rw [entry?_modifyEntry, if_neg (hother q' hq'), entry?_withBench]
      exact he'
  · exact absurd hs (hne e he)

/-- One check of a supervisor pass marks a reopening and settles it at once. -/
theorem checkOne (h : Carried r P) (hc : Conserved r) (ht : Tracked r P) (port : String)
    (k : Nat) : Carried (r.checkOne port k) P := by
  rcases checkOne_cases r port k with hr | ⟨config, r', hm, hr⟩
  · rw [hr]
    exact h
  · have hcm : Conserved r' := by
      have := hc.markReconnecting port k
      rwa [hm] at this
    have htm := ht.mark hc.toPlaced hm
    have hsettled := (h.mark hm).finish hcm htm (List.mem_append_right P (List.mem_singleton_self _))
    rw [erase_append_new htm.nodup] at hsettled
    rw [hr]
    exact hsettled

/-! ## Calls -/

theorem actOn (h : Carried r P) (i : Nat) (a : DeviceAction) : Carried (r.actOn i a) P :=
  h.of_setting (setting_actOn r i a)

theorem send (h : Carried r P) (port : String) (data : List UInt8) :
    Carried (r.send port data).2 P := by
  obtain ⟨b, hr, hs⟩ := send_setup r port data
  rw [hr]
  exact h.of_setting (setting_of_setup hs)

theorem readData (h : Carried r P) (port : String) (size : Option Nat) (t : Option Nat) :
    Carried (r.readData port size t).2 P := by
  obtain ⟨b, hr, hs⟩ := readData_setup r port size t
  rw [hr]
  exact h.of_setting (setting_of_setup hs)

/-- Registering a device under a new name touches no device already registered. -/
theorem addDevice (h : Carried r P) {name : String} :
    Carried { r with bench := r.bench.addDevice name } P where
  carried port e he := by
    obtain ⟨hd, d, hh, hd', hcur, ht⟩ := h.carried port e he
    have hlt : hd.device < r.bench.devices.length := (List.getElem?_eq_some_iff.mp hd').1
    refine ⟨hd, d, hh, ?_, hcur, ht⟩
    show (r.bench.addDevice name).device? hd.device = some d
    rw [Bench.device?_addDevice, if_pos hlt]
    exact hd'
  matched := h.matched

/-- Opening a port gives its fresh handle the configuration it stores. -/
theorem openPort (h : Carried r P) (hc : Conserved r) (port : String) (o : Overrides)
    (ar : Bool) : Carried (r.openPort port o ar).2 P := by
  rcases openPort_cases r port o ar with hr | ⟨config, k, b, he, -, hopen, hr⟩
  · rw [hr]
    exact h
  · rw [hr]
    obtain ⟨i, d, hk, hdi, hframe⟩ := hc.openBench_config hopen
    refine ⟨fun p e' he' => ?_, fun q hq => ?_⟩
    · have he'' : (Keyed.insert port (⟨k, config, ar, false⟩ : Entry) r.entries).lookup p =
          some e' := he'
      rw [Keyed.lookup_insert] at he''
      split at he''
      · cases he''
        exact ⟨_, _, hk, hdi, by simp [Device.currentConfig], rfl⟩
      · rename_i hp
        obtain ⟨hd, d', hh, hd', hcur, ht'⟩ := h.carried p e' he''
        obtain ⟨hh2, hd2⟩ := hframe p e' hd hp he'' hh
        exact ⟨hd, d', hh2, hd2.trans hd', hcur, ht'⟩
    · obtain ⟨e', he', hs', hc'⟩ := h.matched q hq
      -- the port was not open, so nothing under way is of it
      have hp : q.1.port ≠ port := by
        intro hp
        rw [hp, he] at he'
        cases he'
      refine ⟨e', ?_, hs', hc'⟩
      show (Keyed.insert port _ r.entries).lookup q.1.port = some e'
      rw [Keyed.lookup_insert, if_neg hp]
      exact he'

/-- Reconfiguring a port that is not being reopened gives its handle the new configuration. -/
theorem setConfig (h : Carried r P) (hc : Conserved r) (ht : Tracked r P) {port : String}
    (o : Overrides) (hquiet : ∀ e, r.entry? port = some e → e.reconnecting = false) :
    Carried (r.setConfig port o).2 P := by
  rcases setConfig_cases r port o with hr | ⟨e, merged, b, he, -, hb, hr⟩
  · rw [hr]
    exact h
  rw [hr]
  obtain ⟨hd, d, halive, rfl⟩ := Bench.applyConfig_eq_ok hb
  obtain ⟨hh, -, hdev, -, -⟩ := Bench.alive_eq_ok halive
  obtain ⟨i, hd', hi, hh', hdi, -⟩ := hc.installed port e he
  rw [hh] at hh'
  cases hh'
  refine ⟨fun p e' he' => ?_, ?_⟩
  · simp only [entry?_modifyEntry, entry?_withBench] at he'
    split at he'
    · rename_i hp
      subst hp
      rw [he] at he'
      cases he'
      refine ⟨{ hd with timeoutMs := merged.readTimeoutMs },
        { d with configHistory := d.configHistory ++ [merged] }, ?_, ?_,
        by simp [Device.currentConfig], rfl⟩
      · simp [hh]
      · simp [hdev]
    · rename_i hp
      obtain ⟨hd2, d2, hh2, hd2', hcur, ht'⟩ := h.carried p e' he'
      -- another port holds another handle, on another device
      have hne : e.handle ≠ e'.handle := fun heq => hp (hc.handle_inj he' he heq.symm)
      have hdne : hd.device ≠ hd2.device := by
        rw [hdi]
        exact (hc.device_ne he' hh2 hi hp).symm
      exact ⟨hd2, d2, by simp [hne, hh2], by simp [hdne, hd2'], hcur, ht'⟩
  · rintro ⟨⟨p, stale⟩, c⟩ hq
    obtain ⟨e', he', hs', hc'⟩ := h.matched _ hq
    simp only at he' hs' hc'
    -- the port is not being reopened, so nothing under way is of it
    have hp : p ≠ port := by
      rintro rfl
      rw [he] at he'
      cases he'
      have hmarked := (ht.flagged p e he).mpr ⟨c, by rw [hs']; exact hq⟩
      rw [hquiet e he] at hmarked
      cases hmarked
    refine ⟨e', ?_, hs', hc'⟩
    simp only [entry?_modifyEntry, if_neg hp, entry?_withBench]
    exact he'

/-- A supervisor pass checks one entry after another. -/
theorem checkPorts (h : Carried r P) (hc : Conserved r) (ht : Tracked r P) :
    Carried r.checkPorts P :=
  (checkPorts_induction (P := fun r' => Conserved r' ∧ Tracked r' P ∧ Carried r' P) r
    ⟨hc, ht, h⟩ (fun _ port e _ _ _ ih => ⟨ih.1.checkOne port e.handle,
      ih.2.1.checkOne ih.1 port e.handle, ih.2.2.checkOne ih.1 ih.2.1 port e.handle⟩)).2.2

/-- Every quiet call keeps the record. -/
theorem run (h : Carried r P) (hc : Conserved r) (ht : Tracked r P) (c : Call)
    (hquiet : (Supervised.Move.call c).Quiet ⟨r, P⟩) : Carried (c.run r) P := by
  cases c with
  | act i a => exact h.actOn i a
  | addDevice name => exact h.addDevice
  | openPort port o ar => exact h.openPort hc port o ar
  | closePort port => exact (show False from hquiet).elim
  | setConfig port o => exact h.setConfig hc ht o hquiet
  | send port data => exact h.send port data
  | read port size t => exact h.readData port size t
  | checkPorts => exact h.checkPorts hc ht
  | shutdown => exact (show False from hquiet).elim

end Carried

/-- Every supervised registry that quiet moves reach keeps the record. -/
theorem Supervised.QuietlyReachable.carried {s : Supervised} (hs : s.QuietlyReachable) :
    Carried s.registry s.pending := by
  induction hs with
  | empty blacklist defaults => exact Carried.empty blacklist defaults
  | move m hs' hm hq ih =>
    have hc := hs'.reachable.registry.conserved
    have ht := hs'.reachable.tracked
    cases m with
    | call c => exact ih.run hc ht c hq
    | mark port stale =>
      simp only [Supervised.Move.run]
      split
      · rename_i config r' hmark
        exact ih.mark hmark
      · rename_i r' hmark
        rcases markReconnecting_cases _ port stale with hm' | ⟨e, -, -, -, hm'⟩
        · rw [hm'] at hmark
          cases hmark
          exact ih
        · rw [hm'] at hmark
          cases hmark
    | finish q => exact ih.finish hc ht hm

/-- When no port is reconfigured while it is being reopened, and no port is closed, the handle of
every open port carries the port's stored configuration: its device was last given that
configuration and the handle reads with its timeout. Every reopening under way is for the handle
its port holds and opens its fresh handle with the port's stored configuration. -/
theorem Supervised.QuietlyReachable.handles_carry_config {s : Supervised}
    (hs : s.QuietlyReachable) :
    (∀ port e, s.registry.entry? port = some e → ∃ hd d,
      s.registry.bench.handle? e.handle = some hd ∧ s.registry.bench.device? hd.device = some d ∧
      d.currentConfig = some e.config ∧ hd.timeoutMs = e.config.readTimeoutMs) ∧
    (∀ q ∈ s.pending, ∃ e, s.registry.entry? q.1.port = some e ∧ e.handle = q.1.stale ∧
      q.2 = e.config) :=
  ⟨hs.carried.carried, hs.carried.matched⟩

/-- A port opened on a fresh device and given its default configuration. -/
def openedOnFreshDevice : Supervised :=
  (Supervised.Move.call (.openPort "P1" {} false)).run
    ((Supervised.Move.call (.addDevice "P1")).run ⟨{ bench := {} }, []⟩)

/-- The port reconfigured to a read timeout of 500 ms, and then marked for reopening. -/
def reconfiguredThenMarked : Supervised :=
  (Supervised.Move.mark "P1" 0).run
    ((Supervised.Move.call (.setConfig "P1" { readTimeoutMs := some 500 })).run openedOnFreshDevice)

/-- The port marked for reopening, reconfigured to a read timeout of 500 ms while the reopening
is under way, and the reopening settled with the configuration the mark copied. -/
def reconfiguredWhileReopening : Supervised :=
  (Supervised.Move.finish (⟨"P1", 0⟩, LineConfig.default)).run
    ((Supervised.Move.call (.setConfig "P1" { readTimeoutMs := some 500 })).run
      ((Supervised.Move.mark "P1" 0).run openedOnFreshDevice))

/-- A port opened, reconfigured and then marked: its reopening holds the new configuration. -/
theorem reopening_holds_new_config :
    Supervised.QuietlyReachable reconfiguredThenMarked ∧
    ∀ q ∈ reconfiguredThenMarked.pending, ∃ e,
      reconfiguredThenMarked.registry.entry? q.1.port = some e ∧
        e.handle = q.1.stale ∧ q.2 = e.config := by
  -- the reconfiguration comes before the mark, while the port is not being reopened
  have hquiet : ∀ e, openedOnFreshDevice.registry.entry? "P1" = some e →
      e.reconnecting = false := by
    intro e he
    have hflag : (openedOnFreshDevice.registry.entry? "P1").map Entry.reconnecting =
        some false := by
      decide
    rw [he] at hflag
    exact Option.some.inj hflag
  have hs : Supervised.QuietlyReachable reconfiguredThenMarked :=
    .move _ (.move _ (.move _ (.move _ (.empty {} .default) rfl trivial) trivial trivial)
      trivial hquiet) trivial trivial
  exact ⟨hs, (Supervised.QuietlyReachable.handles_carry_config hs).2⟩

/-- Reconfiguring a port between its mark and the settling of its reopening: the port stores a
read timeout of 500 ms, while the handle swapped in reads with the 1000 ms its mark copied. -/
theorem reconfiguration_lost_by_reopening :
    Supervised.Reachable reconfiguredWhileReopening ∧
    (reconfiguredWhileReopening.registry.entry? "P1").map
      (fun e => e.config.readTimeoutMs) = some 500 ∧
    (reconfiguredWhileReopening.registry.entry? "P1").map
      (fun e => reconfiguredWhileReopening.registry.bench.timeoutOf e.handle) = some 1000 :=
  ⟨.move _ (.move _ (.move _ (.move _ (.move _ (.empty {} .default) rfl) trivial) trivial) trivial)
    (by simp only [Supervised.Move.Admissible]; decide), by decide, by decide⟩

end SerialHub.Registry
