import SerialHub.Proofs.Registry.Steps
import SerialHub.Proofs.Line.Overrides

/-!
# Opening a port

Opening a port is decided by four checks, always in this order: the blacklist, the overrides
applied to the registry's defaults, whether the port is open already, and the one open of its
device. The first check that decides answers, and only the last one, when the device opens,
changes the registry: a port that is open already is answered with the status of its entry as
it stands, whatever configuration and flag the caller asked for, and a refused call changes
nothing.
-/

namespace SerialHub.Registry

open SerialHub.Line
open SerialHub.Port

/-- Opening a port, for every registry, port, overrides and flag. A blocked port is refused.
Otherwise overrides that do not apply to the defaults are refused with their first refused
setting. Otherwise a port that is open already is answered with its entry's status, its handle
probed now, and nothing changes, whatever the overrides and flag. Otherwise the device is opened
once with the overrides applied to the defaults: a failed open is classified and changes nothing,
and a successful one is reported connected and enters the port with that configuration, the flag
asked for and no reopening under way, leaving every other entry as it was. -/
theorem openPort_decided_in_order (r : Registry) (port : String) (o : Overrides) (ar : Bool) :
    (r.blacklist.blocks port = true →
      r.openPort port o ar = (.error (.portBlacklisted port), r)) ∧
    (r.blacklist.blocks port = false → ∀ e, o.apply r.defaults = .error e →
      r.openPort port o ar = (.error e, r) ∧
        ∃ s v, o.refuses s = true ∧ o.shown s = some v ∧
          e = .invalidParam s.param v s.accepted) ∧
    (r.blacklist.blocks port = false → ∀ c e, o.apply r.defaults = .ok c →
      r.entry? port = some e → r.openPort port o ar = (.ok (r.statusOf port e), r)) ∧
    (r.blacklist.blocks port = false → ∀ c, o.apply r.defaults = .ok c → r.entry? port = none →
      (∀ err, r.bench.openPort port c = .error err →
        r.openPort port o ar = (.error (classifyOpenFailure port err), r)) ∧
      (∀ h b, r.bench.openPort port c = .ok (h, b) →
        (r.openPort port o ar).1 = .ok ⟨port, c, true, false⟩ ∧
        (r.openPort port o ar).2.bench = b ∧
        (r.openPort port o ar).2.blacklist = r.blacklist ∧
        (r.openPort port o ar).2.defaults = r.defaults ∧
        ∀ p, Registry.entry? (r.openPort port o ar).2 p =
          if p = port then some ⟨h, c, ar, false⟩ else r.entry? p)) := by
  refine ⟨fun hb => by simp [openPort, hb], fun hb e he => ?_, fun hb c e hc he => ?_,
    fun hb c hc he => ⟨fun err ho => by simp [openPort, hb, hc, he, ho], fun h b ho => ?_⟩⟩
  · exact ⟨by simp [openPort, hb, he], Overrides.refuses_of_apply_error he⟩
  · simp [openPort, hb, hc, he]
  · -- the one branch that changes the registry: the device opened and the port is entered
    have hr : r.openPort port o ar = (.ok ⟨port, c, true, false⟩,
        { r with bench := b, entries := Keyed.insert port ⟨h, c, ar, false⟩ r.entries }) := by
      simp [openPort, hb, hc, he, ho]
    rw [hr]
    exact ⟨rfl, rfl, rfl, rfl, fun p => Keyed.lookup_insert port p _ r.entries⟩

/-- A port opened at 115200 baud and opened again at 9600 baud without reopening keeps its
first configuration and flag: the second call answers with the first entry's status and changes
nothing. -/
theorem open_twice_keeps_first_config :
    let r := (({ bench := Bench.ofNames ["P1"] } : Registry).openPort "P1"
      { baudrate := some 115200 } true).2
    r.openPort "P1" { baudrate := some 9600 } false =
      (.ok ⟨"P1", { LineConfig.default with baudrate := 115200 }, true, false⟩, r) := by
  intro r
  have he : r.entry? "P1" =
      some ⟨0, { LineConfig.default with baudrate := 115200 }, true, false⟩ := by
    decide +kernel
  obtain ⟨-, -, hopen, -⟩ := openPort_decided_in_order r "P1" { baudrate := some 9600 } false
  rw [hopen (by decide +kernel) { LineConfig.default with baudrate := 9600 } _ rfl he]
  -- the status reports the first configuration and a live handle
  have hstatus :
      r.statusOf "P1" ⟨0, { LineConfig.default with baudrate := 115200 }, true, false⟩ =
        ⟨"P1", { LineConfig.default with baudrate := 115200 }, true, false⟩ := by
    decide +kernel
  rw [hstatus]

end SerialHub.Registry
