import SerialHub.Proofs.Registry.Steps

/-!
# No reconfiguration is lost

A reconfiguration is modelled as three steps made at once: read the port's handle and stored
configuration, apply the merge to that handle, and store it if the port still holds both, else
start again. With any number of them interleaved with every other call, a port's configuration
while it stays open is its first one with the successful overrides applied in the order they were
stored. Main statement: `Concurrent.Reachable.reconfigurations_chain`.
-/

namespace SerialHub.Registry

open SerialHub.Line
open SerialHub.Port

/-! ## Stored configurations -/

/-- What the stored configurations of a registry are: each open port with its configuration. -/
def configs (r : Registry) : List (String × LineConfig) :=
  r.entries.map (fun p => (p.1, p.2.config))

/-- Registries with the same stored configurations give every port the same one. -/
theorem configs_entry {r r' : Registry} (hc : configs r' = configs r) (port : String) :
    (r'.entry? port).map Entry.config = (r.entry? port).map Entry.config := by
  simp only [Registry.entry?, ← Keyed.lookup_map_snd]
  exact congrArg (List.lookup port) hc

/-- Changing an entry in a way that keeps its configuration keeps the stored configurations. -/
theorem configs_modifyEntry (r : Registry) (port : String) (f : Entry → Entry)
    (hf : ∀ e, (f e).config = e.config) : configs (r.modifyEntry port f) = configs r := by
  simp only [configs, modifyEntry, Keyed.modify, List.map_map]
  apply List.map_congr_left
  intro p _
  by_cases hp : p.1 = port <;> simp [hp, hf]

@[simp] theorem configs_release (r : Registry) (h : Nat) : configs (r.release h) = configs r := by
  simp [configs]

/-- A mark changes no stored configuration. -/
theorem configs_markReconnecting (r : Registry) (port : String) (stale : Nat) :
    configs (r.markReconnecting port stale).2 = configs r := by
  rcases markReconnecting_cases r port stale with hm | ⟨_, _, _, _, hm⟩
  · rw [hm]
  · rw [hm]
    exact configs_modifyEntry r port _ fun _ => rfl

/-- Settling a reopening swaps handles and changes no stored configuration. -/
theorem configs_reconnect (r : Registry) (port : String) (stale : Nat) (config : LineConfig) :
    configs (r.reconnect port stale config) = configs r := by
  rcases reconnect_cases r port stale config with
    ⟨-, -, -, -, -, hr⟩ | ⟨-, -, -, hr⟩ | ⟨_, b, _, -, -, -, hr⟩ | ⟨_, b, -, -, hr⟩
  · rw [hr]
    exact configs_modifyEntry r port _ fun _ => rfl
  · rw [hr]
  · rw [hr, configs_release]
    exact configs_modifyEntry { r with bench := b } port _ fun _ => rfl
  · rw [hr, configs_release]
    rfl

theorem configs_checkOne (r : Registry) (port : String) (h : Nat) :
    configs (r.checkOne port h) = configs r := by
  rcases checkOne_cases r port h with hr | ⟨config, r', hm, hr⟩
  · rw [hr]
  · have hmark := configs_markReconnecting r port h
    rw [hm] at hmark
    rw [hr, configs_reconnect, hmark]

/-- A supervisor pass changes no stored configuration. -/
theorem configs_checkPorts (r : Registry) : configs r.checkPorts = configs r :=
  checkPorts_induction (P := fun r' => configs r' = configs r) r rfl
    (fun r' port e _ _ _ ih => (configs_checkOne r' port e.handle).trans ih)

namespace Call

/-- Whether a call is made at once, which every call but a reconfiguration is. -/
def Atomic : Call → Prop
  | .setConfig _ _ => False
  | _ => True

/-- Whether a call closes a port: closing it, or shutting down. -/
def Closes (port : String) : Call → Prop
  | .closePort p => p = port
  | .shutdown => True
  | _ => False

end Call

/-- A call made at once that does not close an open port keeps its stored configuration. -/
theorem config_run {r : Registry} {port : String} {e : Entry} (c : Call) (hc : c.Atomic)
    (hopen : ¬ c.Closes port) (he : r.entry? port = some e) :
    (Registry.entry? (c.run r) port).map Entry.config = some e.config := by
  cases c with
  | act i a => simp [Call.run, actOn, he]
  | addDevice name => simp [Call.run, he]
  | openPort p o ar =>
    rcases openPort_cases r p o ar with hr | ⟨_, _, _, hnone, -, -, hr⟩
    · simp [Call.run, hr, he]
    · -- only a port that was not open is entered, and this one was
      have hp : port ≠ p := fun hp => by rw [hp, hnone] at he; cases he
      rw [Call.run, hr]
      show ((Keyed.insert p _ r.entries).lookup port).map Entry.config = _
      rw [Keyed.lookup_insert, if_neg hp]
      exact congrArg (Option.map Entry.config) he
  | closePort p =>
    have hp : port ≠ p := fun hp => hopen hp.symm
    cases hclosed : r.entry? p with
    | none => simp [Call.run, closePort_of_none hclosed, he]
    | some e' =>
      rw [Call.run, closePort_of_entry hclosed, entry?_release]
      show ((Keyed.erase p r.entries).lookup port).map Entry.config = _
      rw [Keyed.lookup_erase_of_ne hp]
      exact congrArg (Option.map Entry.config) he
  | setConfig p o => exact hc.elim
  | send p data =>
    obtain ⟨b, hb, -⟩ := send_setup r p data
    simp [Call.run, hb, he]
  | read p size t =>
    obtain ⟨b, hb, -⟩ := readData_setup r p size t
    simp [Call.run, hb, he]
  | checkPorts =>
    simp only [Call.run, configs_entry (configs_checkPorts r) port, he, Option.map_some]
  | shutdown => exact (hopen trivial).elim

namespace Reconfig

/-- How far a reconfiguration has got. -/
inductive Phase where
  /-- It is about to read the port's entry. -/
  | start
  /-- It has read the port's handle and stored configuration. -/
  | read (handle : Nat) (current : LineConfig)
  /-- It has given what it merged onto the configuration it read to that handle. -/
  | applied (handle : Nat) (current merged : LineConfig)

end Reconfig

/-- A reconfiguration of a port in flight. -/
structure Reconfig where
  port : String
  o : Overrides
  phase : Reconfig.Phase := .start

namespace Reconfig

/-- One step of a reconfiguration: the registry after it, and either how far the reconfiguration
has got or what it answers. -/
def step (rc : Reconfig) (r : Registry) : Registry × (Reconfig ⊕ Except SerialError Status) :=
  match rc.phase with
  | .start =>
    match r.entry? rc.port with
    | none => (r, .inr (.error (.portClosed rc.port)))
    | some e => (r, .inl { rc with phase := .read e.handle e.config })
  | .read h current =>
    match rc.o.apply current with
    | .error err => (r, .inr (.error err))
    | .ok merged =>
      match r.bench.applyConfig h merged with
      | .error (.config reason) => (r, .inr (.error (.invalidParam "config" rc.port reason)))
      | .error err => (r, .inr (.error (.portOpenFailed rc.port err.message)))
      | .ok b => ({ r with bench := b }, .inl { rc with phase := .applied h current merged })
  | .applied h current merged =>
    match r.entry? rc.port with
    | none => (r, .inr (.error (.portClosed rc.port)))
    | some e =>
      if e.handle = h ∧ e.config = current then
        let r' := r.modifyEntry rc.port (fun e => { e with config := merged })
        (r', .inr (.ok (r'.statusOf rc.port { e with config := merged })))
      else (r, .inl { rc with phase := .start })

/-- A reconfiguration run with nothing else happening, for at most `fuel` steps. -/
def alone : Nat → Reconfig → Registry → Option (Except SerialError Status × Registry)
  | 0, _, _ => none
  | fuel + 1, rc, r =>
    match rc.step r with
    | (r', .inr ans) => some (ans, r')
    | (r', .inl rc') => alone fuel rc' r'

/-- Alone, a reconfiguration ends within its three steps and does what the registry's
reconfiguration does. -/
theorem alone_eq_setConfig (r : Registry) (port : String) (o : Overrides) :
    alone 3 ⟨port, o, .start⟩ r = some (r.setConfig port o) := by
  cases he : r.entry? port with
  | none => simp [alone, step, setConfig, he]
  | some e =>
    cases hm : o.apply e.config with
    | error err => simp [alone, step, setConfig, he, hm]
    | ok merged =>
      cases hb : r.bench.applyConfig e.handle merged with
      | error err => cases err <;> simp [alone, step, setConfig, he, hm, hb]
      | ok b => simp [alone, step, setConfig, he, hm, hb]

/-- A reconfiguration that has applied its overrides to the configuration it read got what it
merged from them. -/
def Merged (rc : Reconfig) : Prop :=
  match rc.phase with
  | .applied _ current merged => rc.o.apply current = .ok merged
  | _ => True

/-- A reconfiguration that goes on after a step has merged what it holds from its own overrides. -/
theorem merged_step {rc rc' : Reconfig} {r : Registry} (h : (rc.step r).2 = .inl rc') :
    rc'.Merged := by
  obtain ⟨port, o, phase⟩ := rc
  cases phase with
  | start =>
    simp only [step] at h
    split at h
    · cases h
    · cases h
      trivial
  | read handle current =>
    simp only [step] at h
    split at h
    · cases h
    · rename_i merged hmerged
      split at h
      · cases h
      · cases h
      · cases h
        exact hmerged
  | applied handle current merged =>
    simp only [step] at h
    split at h
    · cases h
    · split at h
      · cases h
      · cases h
        trivial

/-- What a step does to the stored configurations: it keeps them and answers no success; or the
port still holds what the reconfiguration read, and the step stores the overrides applied to it
and answers with what it stored. -/
theorem step_cases (rc : Reconfig) (r : Registry) (hm : rc.Merged) :
    (configs (rc.step r).1 = configs r ∧ ∀ st, (rc.step r).2 ≠ .inr (.ok st)) ∨
      ∃ e merged, r.entry? rc.port = some e ∧ rc.o.apply e.config = .ok merged ∧
        (rc.step r).1 = r.modifyEntry rc.port (fun e => { e with config := merged }) ∧
        ∃ st, (rc.step r).2 = .inr (.ok st) ∧ st.config = merged := by
  obtain ⟨port, o, phase⟩ := rc
  cases phase with
  | start =>
    simp only [step]
    split
    · exact .inl ⟨rfl, fun _ h => by cases h⟩
    · exact .inl ⟨rfl, fun _ h => by cases h⟩
  | read handle current =>
    simp only [step]
    split
    · exact .inl ⟨rfl, fun _ h => by cases h⟩
    · split
      · exact .inl ⟨rfl, fun _ h => by cases h⟩
      · exact .inl ⟨rfl, fun _ h => by cases h⟩
      · exact .inl ⟨rfl, fun _ h => by cases h⟩
  | applied handle current merged =>
    have hmerged : o.apply current = .ok merged := hm
    simp only [step]
    split
    · exact .inl ⟨rfl, fun _ h => by cases h⟩
    · rename_i e he
      split
      · -- the port still holds what was read: the merge is stored
        rename_i hsame
        rw [← hsame.2] at hmerged
        exact .inr ⟨e, merged, he, hmerged, rfl, _, rfl, rfl⟩
      · exact .inl ⟨rfl, fun _ h => by cases h⟩

end Reconfig

/-! ## Chains of successes -/

/-- The successes of reconfigurations, each with its overrides and the configuration it answered,
lead from one configuration to another: each answered configuration is its overrides applied to
the one before, and the chain ends at the last. -/
def Chain : LineConfig → List (Overrides × LineConfig) → LineConfig → Prop
  | c, [], c' => c' = c
  | c, (o, next) :: rest, c' => o.apply c = .ok next ∧ Chain next rest c'

theorem Chain.append {c c' c'' : LineConfig} {l₁ l₂ : List (Overrides × LineConfig)}
    (h₁ : Chain c l₁ c') (h₂ : Chain c' l₂ c'') : Chain c (l₁ ++ l₂) c'' := by
  induction l₁ generalizing c with
  | nil =>
    have hc : c' = c := h₁
    subst hc
    exact h₂
  | cons p rest ih =>
    obtain ⟨o, next⟩ := p
    exact ⟨h₁.1, ih h₁.2⟩

/-- The success an answer reports for a port: the overrides asked for and the configuration
answered. -/
def commitOf (port : String) (a : Reconfig × Except SerialError Status) :
    Option (Overrides × LineConfig) :=
  if a.1.port = port then
    match a.2 with
    | .ok st => some (a.1.o, st.config)
    | .error _ => none
  else none

/-- The successes that answers report for a port, in order. -/
def committed (port : String) (answers : List (Reconfig × Except SerialError Status)) :
    List (Overrides × LineConfig) :=
  answers.filterMap (commitOf port)

theorem committed_append (port : String) (l₁ l₂ : List (Reconfig × Except SerialError Status)) :
    committed port (l₁ ++ l₂) = committed port l₁ ++ committed port l₂ :=
  List.filterMap_append

/-- An answer that is no success reports none. -/
theorem committed_of_not_ok {port : String} {rc : Reconfig} {ans : Except SerialError Status}
    (h : ∀ st, ans ≠ .ok st) : committed port [(rc, ans)] = [] := by
  cases ans with
  | error err => simp [committed, commitOf]
  | ok st => exact (h st rfl).elim

/-- An answer for another port reports nothing for this one. -/
theorem committed_of_ne {port : String} {rc : Reconfig} (ans : Except SerialError Status)
    (h : rc.port ≠ port) : committed port [(rc, ans)] = [] := by
  simp [committed, commitOf, h]

/-! ## Reconfigurations in flight -/

/-- A registry with the reconfigurations in flight on it, and the answers given so far, in
order, each with the reconfiguration that gave it. -/
structure Concurrent where
  registry : Registry
  flights : List Reconfig := []
  answers : List (Reconfig × Except SerialError Status) := []

namespace Concurrent

/-- What can happen while reconfigurations are in flight. -/
inductive Event where
  /-- A call made at once. -/
  | call (c : Call)
  /-- The first half of a reopening. -/
  | mark (port : String) (stale : Nat)
  /-- The second half of a reopening. -/
  | reconnect (port : String) (stale : Nat) (config : LineConfig)
  /-- A reconfiguration of a port is asked for. -/
  | begin (port : String) (o : Overrides)
  /-- The reconfiguration in flight at a position takes a step. -/
  | advance (k : Nat)

namespace Event

/-- The state after an event. A reconfiguration that answers is done, and its answer is
recorded. -/
def run : Event → Concurrent → Concurrent
  | .call c, s => { s with registry := c.run s.registry }
  | .mark port stale, s => { s with registry := (s.registry.markReconnecting port stale).2 }
  | .reconnect port stale config, s => { s with registry := s.registry.reconnect port stale config }
  | .begin port o, s => { s with flights := s.flights ++ [⟨port, o, .start⟩] }
  | .advance k, s =>
    match s.flights[k]? with
    | none => s
    | some rc =>
      match rc.step s.registry with
      | (r', .inl rc') => { s with registry := r', flights := s.flights.set k rc' }
      | (r', .inr ans) =>
        { s with
          registry := r', flights := s.flights.eraseIdx k, answers := s.answers ++ [(rc, ans)] }

/-- Reconfigurations go through their steps; every other call is made at once, when the
registry allows it. -/
def Admissible : Event → Concurrent → Prop
  | .call c, s => c.Atomic ∧ c.Admissible s.registry
  | _, _ => True

/-- Whether an event closes a port. -/
def Closes (port : String) : Event → Prop
  | .call c => c.Closes port
  | _ => False

/-- The step of the reconfiguration at a position: nothing happens if there is none; otherwise
its step changes the registry, and it either goes on in its place or answers and is done. -/
theorem advance_cases (s : Concurrent) (k : Nat) :
    (advance k).run s = s ∨
      ∃ rc ∈ s.flights, ((advance k).run s).registry = (rc.step s.registry).1 ∧
        ((∃ rc', (rc.step s.registry).2 = .inl rc' ∧
            ((advance k).run s).flights = s.flights.set k rc' ∧
            ((advance k).run s).answers = s.answers) ∨
          ∃ ans, (rc.step s.registry).2 = .inr ans ∧
            ((advance k).run s).flights = s.flights.eraseIdx k ∧
            ((advance k).run s).answers = s.answers ++ [(rc, ans)]) := by
  simp only [run]
  split
  · exact .inl rfl
  · rename_i rc hrc
    have hmem : rc ∈ s.flights := List.mem_of_getElem? hrc
    split
    · rename_i r' rc' hstep
      exact .inr ⟨rc, hmem, by rw [hstep], .inl ⟨rc', by rw [hstep], rfl, rfl⟩⟩
    · rename_i r' ans hstep
      exact .inr ⟨rc, hmem, by rw [hstep], .inr ⟨ans, by rw [hstep], rfl, rfl⟩⟩

end Event

/-- The state after events, one after another. -/
def play : Concurrent → List Event → Concurrent
  | s, [] => s
  | s, ev :: evs => play (ev.run s) evs

/-- Every event is admissible where it happens. -/
def Admits : Concurrent → List Event → Prop
  | _, [] => True
  | s, ev :: evs => ev.Admissible s ∧ Admits (ev.run s) evs

/-- The states reached from an empty registry over no devices. -/
inductive Reachable : Concurrent → Prop
  | empty (blacklist : Blacklist) (defaults : LineConfig) :
      Reachable { registry := { bench := {}, blacklist, defaults } }
  | event {s : Concurrent} (ev : Event) : Reachable s → ev.Admissible s → Reachable (ev.run s)

/-- Every reconfiguration in flight has merged what it holds from its own overrides. -/
def InFlight (s : Concurrent) : Prop := ∀ rc ∈ s.flights, rc.Merged

theorem InFlight.run {s : Concurrent} (h : InFlight s) (ev : Event) : InFlight (ev.run s) := by
  cases ev with
  | call c => exact h
  | mark port stale => exact h
  | reconnect port stale config => exact h
  | begin port o =>
    intro rc hrc
    rcases List.mem_append.mp hrc with hrc | hrc
    · exact h rc hrc
    · rw [List.mem_singleton.mp hrc]
      trivial
  | advance k =>
    rcases Event.advance_cases s k with
      hs | ⟨rc, hmem, -, ⟨rc', hstep, hflights, -⟩ | ⟨_, -, hflights, -⟩⟩
    · rw [hs]
      exact h
    · -- the one that goes on takes its old place
      intro x hx
      rw [hflights] at hx
      rcases List.mem_or_eq_of_mem_set hx with hx | rfl
      · exact h x hx
      · exact Reconfig.merged_step hstep
    · intro x hx
      rw [hflights] at hx
      exact h x (List.mem_of_mem_eraseIdx hx)

theorem Reachable.inFlight {s : Concurrent} (hs : s.Reachable) : InFlight s := by
  induction hs with
  | empty => intro _ h; cases h
  | event ev _ _ ih => exact ih.run ev


section Chains

variable {s : Concurrent} {port : String} {e : Entry}

/-- An event that keeps the configuration of the port and reports no success for it. -/
theorem chain_of_kept {s' : Concurrent}
    (hc : (s'.registry.entry? port).map Entry.config = some e.config)
    (new : List (Reconfig × Except SerialError Status)) (hans : s'.answers = s.answers ++ new)
    (hnew : committed port new = []) :
    ∃ e' new, s'.registry.entry? port = some e' ∧ s'.answers = s.answers ++ new ∧
      Chain e.config (committed port new) e'.config := by
  obtain ⟨e', he', hcfg⟩ := Option.map_eq_some_iff.mp hc
  refine ⟨e', new, he', hans, ?_⟩
  rw [hnew]
  exact hcfg

/-- An event that keeps every stored configuration and reports no success for the port. -/
theorem chain_of_configs {s' : Concurrent} (hc : configs s'.registry = configs s.registry)
    (he : s.registry.entry? port = some e) (new : List (Reconfig × Except SerialError Status))
    (hans : s'.answers = s.answers ++ new) (hnew : committed port new = []) :
    ∃ e' new, s'.registry.entry? port = some e' ∧ s'.answers = s.answers ++ new ∧
      Chain e.config (committed port new) e'.config :=
  chain_of_kept (by rw [configs_entry hc port, he]; rfl) new hans hnew

/-- The step of a reconfiguration in flight: it keeps the configuration of the port and reports
no success for it; or it is a reconfiguration of the port that finds what it read still stored,
stores its overrides applied to it and answers with that. -/
theorem InFlight.advance_chain (hf : InFlight s) (k : Nat) (he : s.registry.entry? port = some e) :
    ∃ e' new, ((Event.advance k).run s).registry.entry? port = some e' ∧
      ((Event.advance k).run s).answers = s.answers ++ new ∧
      Chain e.config (committed port new) e'.config := by
  rcases Event.advance_cases s k with hs | ⟨rc, hmem, hreg, hcont⟩
  · rw [hs]
    exact chain_of_configs rfl he [] (List.append_nil _).symm rfl
  rcases Reconfig.step_cases rc s.registry (hf rc hmem) with
    ⟨hconfigs, hnot⟩ | ⟨e0, merged, he0, hmerged, hstepreg, st, hst, hcfg⟩
  · -- the configurations are kept, and an answer given is no success
    rw [← hreg] at hconfigs
    rcases hcont with ⟨_, -, -, hans⟩ | ⟨ans, hstep, -, hans⟩
    · exact chain_of_configs hconfigs he [] (by rw [hans, List.append_nil]) rfl
    · refine chain_of_configs hconfigs he [(rc, ans)] hans (committed_of_not_ok fun st h => ?_)
      exact hnot st (by rw [hstep, h])
  · -- a success: it answers after its step, so it is done
    rcases hcont with ⟨_, hstep, -, -⟩ | ⟨ans, hstep, -, hans⟩
    · rw [hst] at hstep
      cases hstep
    rw [hst] at hstep
    cases hstep
    by_cases hp : rc.port = port
    · -- its own port: what it read is what the port held
      subst hp
      rw [he] at he0
      cases he0
      refine ⟨{ e with config := merged }, [(rc, .ok st)], ?_, hans, ?_⟩
      · rw [hreg, hstepreg, entry?_modifyEntry, if_pos rfl, he]
        rfl
      · simp only [committed, commitOf, List.filterMap_cons, List.filterMap_nil, if_pos, hcfg]
        exact ⟨hmerged, rfl⟩
    · have hc : (((Event.advance k).run s).registry.entry? port).map Entry.config =
          some e.config := by
        rw [hreg, hstepreg, entry?_modifyEntry, if_neg (Ne.symm hp), he]
        rfl
      exact chain_of_kept hc [(rc, .ok st)] hans (committed_of_ne _ hp)

/-- One event that does not close the port keeps it open, and its stored configuration follows
the successes reported for it. -/
theorem InFlight.step_chain (hf : InFlight s) (ev : Event) (hadm : ev.Admissible s)
    (hopen : ¬ ev.Closes port) (he : s.registry.entry? port = some e) :
    ∃ e' new, (ev.run s).registry.entry? port = some e' ∧ (ev.run s).answers = s.answers ++ new ∧
      Chain e.config (committed port new) e'.config := by
  have hnil : s.answers = s.answers ++ [] := (List.append_nil _).symm
  cases ev with
  | call c => exact chain_of_kept (config_run c hadm.1 hopen he) [] hnil rfl
  | mark p stale =>
    exact chain_of_configs (configs_markReconnecting s.registry p stale) he [] hnil rfl
  | reconnect p stale config =>
    exact chain_of_configs (configs_reconnect s.registry p stale config) he [] hnil rfl
  | begin p o => exact chain_of_configs rfl he [] hnil rfl
  | advance k => exact hf.advance_chain k he

/-- Events that do not close the port keep it open, and its stored configuration goes through
the successes reported for it, one after another. -/
theorem InFlight.play_chain (hf : InFlight s) {evs : List Event} (hadm : s.Admits evs)
    (hopen : ∀ ev ∈ evs, ¬ ev.Closes port) (he : s.registry.entry? port = some e) :
    ∃ e' new, (s.play evs).registry.entry? port = some e' ∧
      (s.play evs).answers = s.answers ++ new ∧ Chain e.config (committed port new) e'.config := by
  -- induction on the events, from any state whose reconfigurations in flight merged correctly
  induction evs generalizing s e with
  | nil => exact ⟨e, [], he, (List.append_nil _).symm, rfl⟩
  | cons ev rest ih =>
    obtain ⟨hev, hrest⟩ := hadm
    obtain ⟨e1, new1, he1, hans1, hchain1⟩ :=
      hf.step_chain ev hev (hopen ev List.mem_cons_self) he
    obtain ⟨e2, new2, he2, hans2, hchain2⟩ :=
      ih (hf.run ev) hrest (fun ev' h => hopen ev' (List.mem_cons_of_mem ev h)) he1
    refine ⟨e2, new1 ++ new2, he2, ?_, ?_⟩
    · rw [play, hans2, hans1, List.append_assoc]
    · rw [committed_append]
      exact hchain1.append hchain2

end Chains

/-- No reconfiguration is lost. Alone, a reconfiguration in three steps is the registry's own.
Interleaved with any number of others, with calls that do not close the port and with the
halves of reopenings, the stored configuration of an open port goes through the successes
answered for it, in the order they were answered: each answered exactly its overrides applied to
the configuration stored before it, and the last is the one stored now. -/
theorem Reachable.reconfigurations_chain {s : Concurrent} (hs : s.Reachable)
    {evs : List Event} (hadm : s.Admits evs) {port : String}
    (hopen : ∀ ev ∈ evs, ¬ ev.Closes port) {e : Entry} (he : s.registry.entry? port = some e) :
    (∀ (r : Registry) (o : Overrides),
      Reconfig.alone 3 ⟨port, o, .start⟩ r = some (r.setConfig port o)) ∧
    ∃ e' new, (s.play evs).registry.entry? port = some e' ∧
      (s.play evs).answers = s.answers ++ new ∧ Chain e.config (committed port new) e'.config :=
  ⟨fun r o => Reconfig.alone_eq_setConfig r port o, hs.inFlight.play_chain hadm hopen he⟩

/-- A registry with one device and its port open. -/
def onePortOpen : Concurrent :=
  { registry := (Call.openPort "P1" {} false).run ((Call.addDevice "P1").run { bench := {} }) }

/-- Two reconfigurations of the port begun together: the first stores its result; the second
finds the configuration changed under it, starts again and stores its result on top. -/
def twoReconfigurations : List Event :=
  [.begin "P1" { readTimeoutMs := some 500 }, .begin "P1" { writeTimeoutMs := some 200 },
    .advance 0, .advance 1, .advance 0, .advance 0, .advance 0, .advance 0, .advance 0,
    .advance 0, .advance 0]

/-- Both reconfigurations succeed and the port keeps both. -/
theorem two_reconfigurations_both_kept :
    onePortOpen.Reachable ∧ onePortOpen.Admits twoReconfigurations ∧
      (∀ ev ∈ twoReconfigurations, ¬ ev.Closes "P1") ∧
      onePortOpen.registry.entry? "P1" = some ⟨0, LineConfig.default, false, false⟩ ∧
      ((∀ (r : Registry) (o : Overrides),
        Reconfig.alone 3 ⟨"P1", o, .start⟩ r = some (r.setConfig "P1" o)) ∧
      ∃ e' new, (onePortOpen.play twoReconfigurations).registry.entry? "P1" = some e' ∧
        (onePortOpen.play twoReconfigurations).answers = onePortOpen.answers ++ new ∧
        Chain LineConfig.default (committed "P1" new) e'.config) ∧
      ((onePortOpen.play twoReconfigurations).registry.entry? "P1").map
        (fun e => (e.config.readTimeoutMs, e.config.writeTimeoutMs)) = some (500, 200) ∧
      (committed "P1" (onePortOpen.play twoReconfigurations).answers).length = 2 := by
  have hs : onePortOpen.Reachable :=
    .event (.call (.openPort "P1" {} false))
      (.event (.call (.addDevice "P1")) (.empty {} .default) ⟨trivial, rfl⟩) ⟨trivial, trivial⟩
  have hadm : onePortOpen.Admits twoReconfigurations := by
    simp [twoReconfigurations, Admits, Event.Admissible]
  have hopen : ∀ ev ∈ twoReconfigurations, ¬ ev.Closes "P1" := by
    simp [twoReconfigurations, Event.Closes]
  have he : onePortOpen.registry.entry? "P1" = some ⟨0, LineConfig.default, false, false⟩ := by
    decide
  exact ⟨hs, hadm, hopen, he, Reachable.reconfigurations_chain hs hadm hopen he, by decide,
    by decide⟩

end Concurrent

end SerialHub.Registry
