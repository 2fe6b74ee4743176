import SerialHub.Proofs.Registry.Seating

/-!
# One supervisor pass

A pass checks, one after another, the entries that ask to be reopened and are not being reopened.
What it does for one port touches only that port's entry and devices, so each port's outcome is
read off the registry the pass started from: left as it was, or reopened with a fresh handle and
its dead one closed, and never marked afterwards. Main statement: `checkPorts_outcome`.
-/

namespace SerialHub.Port

open SerialHub.Line

/-- A device with an open and a close counted, each where it happened; an open notes the
configuration it was made with. -/
def Device.counted (d : Device) (opened closed : Bool) (config : LineConfig) : Device :=
  { d with openCount := d.openCount + (if opened then 1 else 0),
           closeCount := d.closeCount + (if closed then 1 else 0),
           configHistory := d.configHistory ++ (if opened then [config] else []) }

namespace Bench

variable {b b' : Bench}

/-- A name can be opened when it leads to a device that is present and has no open failure set. -/
def Openable (b : Bench) (port : String) : Prop :=
  ∃ i d, b.lookup? port = some i ∧ b.device? i = some d ∧ d.present = true ∧ d.openFailure = none

/-- An open on a name that can be opened succeeds, on the device the name leads to. -/
theorem openPort_of_openable {port : String} {i : Nat} {d : Device} (c : LineConfig)
    (hi : b.lookup? port = some i) (hd : b.device? i = some d) (hp : d.present = true)
    (hf : d.openFailure = none) :
    b.openPort port c = .ok (b.handles.length, { b.modifyDevice i (fun d =>
        { d with openCount := d.openCount + 1, configHistory := d.configHistory ++ [c] }) with
      handles := b.handles ++ [⟨i, d.generation, c.readTimeoutMs, false⟩] }) := by
  simp [openPort, openDevice, hi, hd, hp, hf]

/-- An open on a name that cannot be opened fails. -/
theorem openPort_error {port : String} (c : LineConfig) (h : ¬ b.Openable port) :
    ∃ err, b.openPort port c = .error err := by
  cases hopen : b.openPort port c with
  | error err => exact ⟨err, rfl⟩
  | ok res =>
    obtain ⟨i, hi, hdevice⟩ := openPort_eq_ok hopen
    unfold openDevice at hdevice
    split at hdevice
    · cases hdevice
    · rename_i d hd
      split at hdevice
      · cases hdevice
      · rename_i hpresent
        split at hdevice
        · cases hdevice
        · rename_i hnone
          exact absurd ⟨i, d, hi, hd, by simpa using hpresent, hnone⟩ h

/-- Whether a handle is alive reads only the handle and its device. -/
theorem alive_congr {k : Nat} (hh : b'.handle? k = b.handle? k)
    (hdev : ∀ hd, b.handle? k = some hd → b'.device? hd.device = b.device? hd.device) :
    b'.alive k = b.alive k := by
  unfold alive
  rw [hh]
  cases hk : b.handle? k with
  | none => rfl
  | some hd => simp only [hdev hd hk]

/-- The devices after an open on device `i` and then a close of a handle on device `s`: each
counts what was done to it. -/
theorem device?_open_close {B : Bench} {i s : Nat} {d : Device} {c : LineConfig}
    (hd : b.device? i = some d)
    (hdevs : ∀ j, B.device? j = if i = j then
      some { d with openCount := d.openCount + 1, configHistory := d.configHistory ++ [c] }
      else b.device? j)
    (k : Nat) (f : Handle → Handle) {j : Nat} {d' : Device} (hj : b.device? j = some d') :
    ((B.modifyHandle k f).modifyDevice s (fun d => { d with closeCount := d.closeCount + 1 })).device? j =
      some (d'.counted (j == i) (j == s) c) := by
  rw [device?_modifyDevice, device?_modifyHandle, hdevs]
  by_cases hij : i = j <;> by_cases hsj : s = j
  · subst hij hsj
    rw [hd, Option.some.injEq] at hj
    subst hj
    simp [Device.counted]
  · subst hij
    rw [hd, Option.some.injEq] at hj
    subst hj
    simp [Device.counted, hsj, Ne.symm hsj]
  · subst hsj
    simp [Device.counted, hj, hij, Ne.symm hij]
  · simp [Device.counted, hj, hij, Ne.symm hij, hsj, Ne.symm hsj]

end Bench

end SerialHub.Port

namespace SerialHub.Registry

open SerialHub.Line
open SerialHub.Port

/-! ## What a pass keeps for a port -/

/-- What a pass may read and write for a port, kept from one registry to the next: the port's
entry, the device its name leads to, every device of its name and every handle on one, and
every handle index in use. -/
structure Frame (p : String) (a a' : Registry) : Prop where
  entry : a'.entry? p = a.entry? p
  lookup : a'.bench.lookup? p = a.bench.lookup? p
  devices : ∀ j d, a.bench.device? j = some d → d.name = p → a'.bench.device? j = some d
  handles : ∀ k hd d, a.bench.handle? k = some hd → a.bench.device? hd.device = some d →
    d.name = p → a'.bench.handle? k = some hd
  grows : a.bench.handles.length ≤ a'.bench.handles.length

namespace Frame

variable {p : String} {a a' a'' : Registry}

theorem refl (a : Registry) : Frame p a a :=
  ⟨rfl, rfl, fun _ _ h _ => h, fun _ _ _ h _ _ => h, le_refl _⟩

theorem trans (h : Frame p a a') (h' : Frame p a' a'') : Frame p a a'' where
  entry := h'.entry.trans h.entry
  lookup := h'.lookup.trans h.lookup
  devices j d hd hname := h'.devices j d (h.devices j d hd hname) hname
  handles k hd d hk hdev hname :=
    h'.handles k hd d (h.handles k hd d hk hdev hname) (h.devices _ d hdev hname) hname
  grows := h.grows.trans h'.grows

/-- A handle that sits for the port is alive after exactly when it was before. -/
theorem isAlive (h : Frame p a a') {k : Nat} (hk : SitsFor a.bench p k) :
    a'.bench.isAlive k = a.bench.isAlive k := by
  obtain ⟨hd, d, hh, -, hdev, hname⟩ := hk
  have hh' := h.handles k hd d hh hdev hname
  unfold Bench.isAlive
  rw [Bench.alive_congr (hh'.trans hh.symm) (fun hd' hk' => ?_)]
  rw [hh] at hk'
  cases hk'
  rw [hdev]
  exact h.devices _ d hdev hname

/-! ### Steps for another port -/

theorem modifyEntry {q : String} (hq : q ≠ p) (f : Entry → Entry) : Frame p a (a.modifyEntry q f) :=
  ⟨by rw [entry?_modifyEntry, if_neg (Ne.symm hq)], rfl, fun _ _ h _ => h, fun _ _ _ h _ _ => h,
    le_refl _⟩

theorem markReconnecting {q : String} (hq : q ≠ p) (stale : Nat) :
    Frame p a (a.markReconnecting q stale).2 := by
  rcases markReconnecting_cases a q stale with hm | ⟨e, -, -, -, hm⟩
  · rw [hm]
    exact refl a
  · rw [hm]
    exact modifyEntry hq _

/-- Letting go a handle that sits for another port: it and the device that counts the close are
of the other port's name. -/
theorem release {q : String} {k : Nat} (hq : q ≠ p) (hk : SitsFor a.bench q k) :
    Frame p a (a.release k) := by
  unfold Registry.release
  split
  · rename_i b hb
    obtain ⟨hd, hh, -, rfl⟩ := Bench.close_eq_ok hb
    obtain ⟨hd', dq, hh', -, hdevq, hnameq⟩ := hk
    rw [hh] at hh'
    cases hh'
    refine ⟨rfl, rfl, fun j d hd' hname => ?_, fun k' hd' d hk' hdev hname => ?_, by simp⟩
    · have hj : hd.device ≠ j := by
        rintro rfl
        rw [hdevq] at hd'
        cases hd'
        exact hq (hnameq.symm.trans hname)
      simp [hj, hd']
    · have hkk : k ≠ k' := by
        rintro rfl
        rw [hh] at hk'
        cases hk'
        rw [hdevq] at hdev
        cases hdev
        exact hq (hnameq.symm.trans hname)
      simp [hkk, hk']
  · exact refl a

/-- An open on another port's name: the device opened is of that name, and the handle is new. -/
theorem opened {q : String} (hq : q ≠ p) (hs : Seated a) {config : LineConfig} {k : Nat} {b : Bench}
    (hopen : a.bench.openPort q config = .ok (k, b)) : Frame p a { a with bench := b } := by
  obtain ⟨j, hj, hdevice⟩ := Bench.openPort_eq_ok hopen
  obtain ⟨d, hd, -, hnames, hdevs, hhandles, hlen⟩ := Bench.openDevice_views hdevice
  have hname₀ := hs.name_of_lookup hj hd
  have hlookup : b.lookup? p = a.bench.lookup? p := by simp [Bench.lookup?, hnames]
  refine ⟨rfl, hlookup, fun j' d' hd' hname => ?_, fun k' hd' d' hk' _ _ => ?_, ?_⟩
  · have hj' : j ≠ j' := by
      rintro rfl
      rw [hd] at hd'
      cases hd'
      exact hq (hname₀.symm.trans hname)
    show b.device? j' = some d'
    rw [hdevs, if_neg hj']
    exact hd'
  · have hlt := Bench.lt_length_of_handle? hk'
    show b.handle? k' = some hd'
    rw [hhandles, if_neg (by omega)]
    exact hk'
  · show a.bench.handles.length ≤ b.handles.length
    omega

theorem reconnect {q : String} (hq : q ≠ p) (hs : Seated a) (stale : Nat) (config : LineConfig) :
    Frame p a (a.reconnect q stale config) := by
  rcases reconnect_cases a q stale config with
    ⟨-, -, -, -, -, hr⟩ | ⟨-, -, -, hr⟩ | ⟨fresh, b, e, hopen, he, hstale, hr⟩ |
      ⟨fresh, b, hopen, -, hr⟩
  · rw [hr]
    exact modifyEntry hq _
  · rw [hr]
    exact refl a
  · obtain ⟨hb, -, -⟩ := hs.opened hopen
    rw [hr]
    -- the dead handle let go sits for the other port
    have hsits : SitsFor b q stale := hstale ▸ hb.seated q e he
    exact ((opened hq hs hopen).trans (modifyEntry hq _)).trans (release hq hsits)
  · obtain ⟨-, hsits, -⟩ := hs.opened hopen
    rw [hr]
    exact (opened hq hs hopen).trans (release hq hsits)

theorem checkOne {q : String} (hq : q ≠ p) (hs : Seated a) (k : Nat) :
    Frame p a (a.checkOne q k) := by
  rcases checkOne_cases a q k with hr | ⟨config, a', hm, hr⟩
  · rw [hr]
    exact refl a
  · have hmarked : a' = (a.markReconnecting q k).2 := by rw [hm]
    rw [hr, hmarked]
    exact (markReconnecting hq k).trans
      (reconnect hq (hs.of_books (books_markReconnecting a q k)) k config)

end Frame

/-- The check a pass makes of one candidate. -/
def check (acc : Registry) (x : String × Entry) : Registry :=
  acc.checkOne x.1 x.2.handle

theorem Seated.checks {a : Registry} (h : Seated a) (L : List (String × Entry)) :
    Seated (L.foldl check a) := by
  induction L generalizing a with
  | nil => exact h
  | cons x rest ih => exact ih (h.checkOne x.1 x.2.handle)

/-- Checks of other ports, one after another, keep what a port has. -/
theorem Frame.checks {p : String} {a : Registry} (L : List (String × Entry)) (hL : ∀ x ∈ L, x.1 ≠ p)
    (hs : Seated a) : Frame p a (L.foldl check a) := by
  induction L generalizing a with
  | nil => exact refl a
  | cons x rest ih =>
    have hx : x.1 ≠ p := hL x List.mem_cons_self
    exact (Frame.checkOne hx hs x.2.handle).trans
      (ih (fun y hy => hL y (List.mem_cons_of_mem _ hy)) (hs.checkOne x.1 x.2.handle))

/-! ## The candidates of a pass -/

/-- An entry is a candidate of a pass when it asks to be reopened and is not being reopened. -/
def Candidate (e : Entry) : Bool := e.autoReconnect && !e.reconnecting

theorem checkPorts_eq (r : Registry) :
    r.checkPorts = (r.entries.filter (fun x => Candidate x.2)).foldl check r := rfl

/-- A port whose entry is no candidate, or that has none, is not among the candidates. -/
theorem ne_of_not_candidate {r : Registry} (hs : Keyed.Sorted r.entries) {p : String}
    (hnot : ∀ e, r.entry? p = some e → Candidate e = false) :
    ∀ x ∈ r.entries.filter (fun x => Candidate x.2), x.1 ≠ p := by
  intro x hx hxp
  obtain ⟨hmem, hcand⟩ := List.mem_filter.mp hx
  have hentry : r.entry? p = some x.2 := by
    rw [← hxp]
    exact Keyed.lookup_of_mem hs hmem
  rw [hnot x.2 hentry] at hcand
  cases hcand

/-- The candidates of a pass around a port whose entry is one: those before and those after it,
none of them of that port. -/
theorem split_candidates {r : Registry} (hs : Keyed.Sorted r.entries) {p : String} {e : Entry}
    (he : r.entry? p = some e) (hcand : Candidate e = true) :
    ∃ L₁ L₂, r.entries.filter (fun x => Candidate x.2) = L₁ ++ (p, e) :: L₂ ∧
      (∀ x ∈ L₁, x.1 ≠ p) ∧ (∀ x ∈ L₂, x.1 ≠ p) := by
  have hmem : (p, e) ∈ r.entries.filter (fun x => Candidate x.2) :=
    List.mem_filter.mpr ⟨Keyed.mem_of_lookup he, hcand⟩
  obtain ⟨L₁, L₂, hL⟩ := List.append_of_mem hmem
  -- the candidates are in increasing order of port, so no other one is of this port
  have hsorted : Keyed.Sorted (r.entries.filter (fun x => Candidate x.2)) := hs.filter _
  rw [hL] at hsorted
  obtain ⟨-, hrest, hacross⟩ := List.pairwise_append.mp hsorted
  refine ⟨L₁, L₂, hL, fun x hx hxp => ?_, fun x hx hxp => ?_⟩
  · have hlt := hacross x hx (p, e) List.mem_cons_self
    simp only [hxp] at hlt
    exact String.lt_irrefl _ hlt
  · have hlt := (List.pairwise_cons.mp hrest).1 x hx
    simp only [hxp] at hlt
    exact String.lt_irrefl _ hlt

/-! ## The outcome for one port -/

/-- A port that a pass left as it was: its entry, its handle, and every device of its name. -/
structure Untouched (r r' : Registry) (port : String) (e : Entry) : Prop where
  entry : r'.entry? port = some e
  handle : r'.bench.handle? e.handle = r.bench.handle? e.handle
  devices : ∀ j d, r.bench.device? j = some d → d.name = port → r'.bench.device? j = some d

/-- A port that a pass reopened. Its entry holds a fresh handle, on the device `i` its name leads
to, opened with the entry's configuration; its dead handle is closed; the device opened counts
the open and notes the configuration, the dead handle's device counts the close, and no other
device of the name changes. -/
structure Reopened (r r' : Registry) (port : String) (e : Entry) (i : Nat) (d : Device)
    (hd : Handle) (fresh : Nat) : Prop where
  fresh_new : r.bench.handles.length ≤ fresh
  entry : r'.entry? port = some { e with handle := fresh }
  handle : r'.bench.handle? fresh = some ⟨i, d.generation, e.config.readTimeoutMs, false⟩
  stale : r'.bench.handle? e.handle = some { hd with closed := true }
  devices : ∀ j d', r.bench.device? j = some d' → d'.name = port →
    r'.bench.device? j = some (d'.counted (j == i) (j == hd.device) e.config)

variable {r a a' : Registry} {p : String} {e : Entry}

theorem Untouched.of_frame (hf : Frame p r a) (he : r.entry? p = some e)
    (hsits : SitsFor r.bench p e.handle) : Untouched r a p e := by
  obtain ⟨hd, d, hh, -, hdev, hname⟩ := hsits
  exact ⟨hf.entry.trans he, (hf.handles _ hd d hh hdev hname).trans hh.symm, hf.devices⟩

theorem Untouched.frame (hu : Untouched r a p e) (hf : Frame p a a')
    (hsits : SitsFor r.bench p e.handle) : Untouched r a' p e := by
  obtain ⟨hd, d, hh, -, hdev, hname⟩ := hsits
  have hah : a.bench.handle? e.handle = some hd := hu.handle.trans hh
  refine ⟨hf.entry.trans hu.entry, ?_, fun j d' hd' hname' => hf.devices j d' (hu.devices j d' hd' hname') hname'⟩
  rw [hf.handles _ hd d hah (hu.devices _ d hdev hname) hname, hh]

theorem Reopened.frame {i fresh : Nat} {d : Device} {hd : Handle}
    (hro : Reopened r a p e i d hd fresh) (hf : Frame p a a') (hi : r.bench.device? i = some d)
    (hdn : d.name = p) (hh : r.bench.handle? e.handle = some hd) (hsits : SitsFor r.bench p e.handle) :
    Reopened r a' p e i d hd fresh := by
  obtain ⟨hd₀, d₀, hh₀, -, hdev₀, hname₀⟩ := hsits
  rw [hh] at hh₀
  cases hh₀
  refine ⟨hro.fresh_new, hf.entry.trans hro.entry, ?_, ?_,
    fun j d' hd' hname => hf.devices j _ (hro.devices j d' hd' hname) hname⟩
  · -- the fresh handle is on the device the name leads to
    exact hf.handles _ _ _ hro.handle (hro.devices i d hi hdn) hdn
  · -- the dead handle is on a device of the name too
    exact hf.handles _ _ _ hro.stale (hro.devices hd.device d₀ hdev₀ hname₀) hname₀

/-- A reopened port's fresh handle is alive. -/
theorem Reopened.alive {i fresh : Nat} {d : Device} {hd : Handle}
    (hro : Reopened r a p e i d hd fresh) (hi : r.bench.device? i = some d) (hdn : d.name = p)
    (hp : d.present = true) : a.bench.isAlive fresh = true := by
  have hdev := hro.devices i d hi hdn
  simp [Bench.isAlive, Bench.alive, hro.handle, hdev, Device.counted, hp]

/-- Settling a reopening that opened a fresh handle on the entry that holds the dead one. -/
theorem reconnect_of_ok (s : Registry) {config : LineConfig} {fresh : Nat} {b : Bench} {e : Entry}
    (hopen : s.bench.openPort p config = .ok (fresh, b)) (he : s.entry? p = some e) :
    s.reconnect p e.handle config = (({ s with bench := b }).modifyEntry p
      (fun e => { e with handle := fresh, reconnecting := false })).release e.handle := by
  simp [Registry.reconnect, hopen, he]

/-- Settling a reopening whose open failed clears the mark of the entry that holds the dead
handle. -/
theorem reconnect_of_error (s : Registry) {config : LineConfig} {err : PortError} {e : Entry}
    (hopen : s.bench.openPort p config = .error err) (he : s.entry? p = some e) :
    s.reconnect p e.handle config = s.modifyEntry p (fun e => { e with reconnecting := false }) := by
  simp [Registry.reconnect, hopen, he]

/-- A check that finds a port's handle dead marks its entry and reopens it with the entry's
configuration. -/
theorem checkOne_of_dead (hae : a.entry? p = some e) (hrec : e.reconnecting = false)
    (hdead : a.bench.isAlive e.handle = false) :
    a.checkOne p e.handle =
      (a.modifyEntry p (fun e => { e with reconnecting := true })).reconnect p e.handle e.config := by
  simp [Registry.checkOne, hdead, markReconnecting, hae, hrec]

/-- Whether a port's name can be opened is kept along with what the port has. -/
theorem Frame.openable (hf : Frame p r a) (hr : Seated r) (h : a.bench.Openable p) :
    r.bench.Openable p := by
  obtain ⟨i, d, hi, hd, hp, hfail⟩ := h
  have hri : r.bench.lookup? p = some i := hf.lookup.symm.trans hi
  obtain ⟨d', hd', hname⟩ := hr.named p i hri
  rw [hf.devices i d' hd' hname, Option.some.injEq] at hd
  subst hd
  exact ⟨i, d', hri, hd', hp, hfail⟩

section Dead

variable (hr : Seated r) (hf : Frame p r a) (he : r.entry? p = some e)
  (hrec : e.reconnecting = false) (hdead : r.bench.isAlive e.handle = false)
include hr hf he hrec hdead

/-- The check of a port whose handle is dead and whose name can be opened, in a registry that
kept what the port had when the pass started: the entry is reopened on the device its name leads
to, at the next free index. -/
theorem checkOne_dead_reopens {i : Nat} {d : Device} (hi : r.bench.lookup? p = some i)
    (hd : r.bench.device? i = some d) (hp : d.present = true) (hfail : d.openFailure = none) :
    ∃ hd, r.bench.handle? e.handle = some hd ∧
      Reopened r (a.checkOne p e.handle) p e i d hd a.bench.handles.length := by
  obtain ⟨hd₀, d₀, hh, hc, hdev₀, hname₀⟩ := hr.seated p e he
  refine ⟨hd₀, hh, ?_⟩
  have hae : a.entry? p = some e := hf.entry.trans he
  let marked := a.modifyEntry p (fun e => { e with reconnecting := true })
  have hmarked : marked.entry? p = some { e with reconnecting := true } := by
    rw [entry?_modifyEntry, if_pos rfl, hae]
    rfl
  have had : a.bench.device? i = some d := hf.devices i d hd (hr.name_of_lookup hi hd)
  -- the open succeeds, on the device the name leads to, at the next free index
  obtain ⟨fresh, B, hopen⟩ : ∃ fresh B, a.bench.openPort p e.config = .ok (fresh, B) :=
    ⟨_, _, Bench.openPort_of_openable e.config (hf.lookup.trans hi) had hp hfail⟩
  obtain ⟨j₀, hj₀, hdevice⟩ := Bench.openPort_eq_ok hopen
  rw [hf.lookup.trans hi, Option.some.injEq] at hj₀
  subst hj₀
  obtain ⟨d₁, hd₁, hfresh, -, hdevs, hhandles, -⟩ := Bench.openDevice_views hdevice
  rw [had, Option.some.injEq] at hd₁
  subst hd₁ hfresh
  -- the dead handle is still there, below the fresh one, and is closed
  have hah : a.bench.handle? e.handle = some hd₀ := hf.handles _ hd₀ d₀ hh hdev₀ hname₀
  have hlt := Bench.lt_length_of_handle? hah
  have hBh : B.handle? e.handle = some hd₀ := by rw [hhandles, if_neg (Nat.ne_of_lt hlt), hah]
  rw [checkOne_of_dead hae hrec ((hf.isAlive ⟨hd₀, d₀, hh, hc, hdev₀, hname₀⟩).trans hdead),
    reconnect_of_ok marked hopen hmarked, release_of_open hBh hc]
  refine ⟨hf.grows, ?_, ?_, ?_, fun j d' hj hname => ?_⟩
  · rw [entry?_withBench, entry?_modifyEntry, if_pos rfl, entry?_withBench, hmarked]
    cases e
    cases hrec
    rfl
  · show ((B.modifyHandle e.handle _).modifyDevice hd₀.device _).handle? a.bench.handles.length = _
    rw [Bench.handle?_modifyDevice, Bench.handle?_modifyHandle, if_neg (Nat.ne_of_lt hlt),
      hhandles, if_pos rfl]
  · show ((B.modifyHandle e.handle _).modifyDevice hd₀.device _).handle? e.handle = _
    rw [Bench.handle?_modifyDevice, Bench.handle?_modifyHandle, if_pos rfl, hBh]
    rfl
  · exact Bench.device?_open_close had hdevs _ _ (hf.devices j d' hj hname)

/-- The check of a port whose handle is dead and whose name cannot be opened: the open fails, the
mark is cleared, and the entry is as it was. -/
theorem checkOne_dead_kept (hnot : ¬ r.bench.Openable p) :
    Untouched r (a.checkOne p e.handle) p e := by
  have hsits := hr.seated p e he
  have hae : a.entry? p = some e := hf.entry.trans he
  let marked := a.modifyEntry p (fun e => { e with reconnecting := true })
  have hmarked : marked.entry? p = some { e with reconnecting := true } := by
    rw [entry?_modifyEntry, if_pos rfl, hae]
    rfl
  obtain ⟨err, herr⟩ := Bench.openPort_error e.config (fun h => hnot (hf.openable hr h))
  rw [checkOne_of_dead hae hrec ((hf.isAlive hsits).trans hdead),
    reconnect_of_error marked herr hmarked]
  -- clearing the mark gives the entry back as it was
  have hback : Frame p a (marked.modifyEntry p (fun e => { e with reconnecting := false })) := by
    refine ⟨?_, rfl, fun _ _ h _ => h, fun _ _ _ h _ _ => h, le_refl _⟩
    rw [entry?_modifyEntry, if_pos rfl, hmarked, hae]
    cases e
    cases hrec
    rfl
  exact Untouched.of_frame (hf.trans hback) he hsits

end Dead

/-! ## The pass -/

/-- The pass around a port whose entry is a candidate: the checks before it, its own, and the
checks after it. -/
theorem checkPorts_around (hr : Seated r) (he : r.entry? p = some e) (hcand : Candidate e = true) :
    ∃ a, Frame p r a ∧ Seated a ∧
      Frame p (a.checkOne p e.handle) r.checkPorts := by
  obtain ⟨L₁, L₂, hL, h₁, h₂⟩ := split_candidates hr.sorted he hcand
  refine ⟨L₁.foldl check r, Frame.checks L₁ h₁ hr, hr.checks L₁, ?_⟩
  rw [checkPorts_eq, hL, List.foldl_append, List.foldl_cons]
  exact Frame.checks L₂ h₂ ((hr.checks L₁).checkOne p e.handle)

/-- A pass seen from one port, over a registry whose handles sit for their ports. A port with
no entry gets none. An entry that is no candidate is kept whole, with its handle and the devices
of its name, and so is one whose handle is alive. A candidate whose handle is dead is reopened
when its name can be opened, and kept whole otherwise. -/
theorem checkPorts_port (hr : Seated r) (p : String) :
    (r.entry? p = none → r.checkPorts.entry? p = none) ∧
    ∀ e, r.entry? p = some e →
      (Candidate e = false ∨ r.bench.isAlive e.handle = true → Untouched r r.checkPorts p e) ∧
      (Candidate e = true → r.bench.isAlive e.handle = false →
        (∀ i d, r.bench.lookup? p = some i → r.bench.device? i = some d → d.present = true →
          d.openFailure = none → ∃ hd fresh, r.bench.handle? e.handle = some hd ∧
            Reopened r r.checkPorts p e i d hd fresh) ∧
        (¬ r.bench.Openable p → Untouched r r.checkPorts p e)) := by
  refine ⟨fun hnone => ?_, fun e he => ⟨fun hkept => ?_, fun hcand hdead => ?_⟩⟩
  · -- no candidate is of this port
    have hne := ne_of_not_candidate hr.sorted (p := p) (fun e he => by rw [hnone] at he; cases he)
    rw [checkPorts_eq, (Frame.checks _ hne hr).entry, hnone]
  · have hsits := hr.seated p e he
    cases hcand : Candidate e with
    | false =>
      -- not a candidate: every check is of another port
      have hne := ne_of_not_candidate hr.sorted (p := p) (fun e' he' => by
        rw [he, Option.some.injEq] at he'
        rw [← he']
        exact hcand)
      rw [checkPorts_eq]
      exact Untouched.of_frame (Frame.checks _ hne hr) he hsits
    | true =>
      -- a candidate found alive: its own check changes nothing
      have halive : r.bench.isAlive e.handle = true := by
        rcases hkept with hnot | halive
        · rw [hcand] at hnot
          cases hnot
        · exact halive
      obtain ⟨a, hfa, -, hfend⟩ := checkPorts_around hr he hcand
      have hsame : a.checkOne p e.handle = a := by
        simp [Registry.checkOne, (hfa.isAlive hsits).trans halive]
      rw [hsame] at hfend
      exact Untouched.of_frame (hfa.trans hfend) he hsits
  · have hsits := hr.seated p e he
    have hrec : e.reconnecting = false := by simp_all [Candidate]
    obtain ⟨a, hfa, -, hfend⟩ := checkPorts_around hr he hcand
    refine ⟨fun i d hi hd hp hfail => ?_,
      fun hnot => (checkOne_dead_kept hr hfa he hrec hdead hnot).frame hfend hsits⟩
    obtain ⟨hd', hh, hro⟩ := checkOne_dead_reopens hr hfa he hrec hdead hi hd hp hfail
    exact ⟨hd', _, hh, hro.frame hfend hd (hr.name_of_lookup hi hd) hh hsits⟩

/-- A pass keeps every entry but, perhaps, the handle it holds. -/
theorem checkPorts_entry (hr : Seated r) (he : r.entry? p = some e) :
    ∃ k, r.checkPorts.entry? p = some { e with handle := k } := by
  obtain ⟨-, hport⟩ := checkPorts_port hr p
  obtain ⟨hkept, hdead⟩ := hport e he
  cases hcand : Candidate e with
  | false => exact ⟨e.handle, (hkept (.inl hcand)).entry⟩
  | true =>
    cases halive : r.bench.isAlive e.handle with
    | true => exact ⟨e.handle, (hkept (.inr halive)).entry⟩
    | false =>
      obtain ⟨hopen, hnot⟩ := hdead hcand halive
      by_cases hable : r.bench.Openable p
      · obtain ⟨i, d, hi, hd, hp, hfail⟩ := hable
        obtain ⟨hd', fresh, -, hro⟩ := hopen i d hi hd hp hfail
        exact ⟨fresh, hro.entry⟩
      · exact ⟨e.handle, (hnot hable).entry⟩

/-- One supervisor pass, over every registry the calls reach. No port gains or loses its entry,
and no entry changes its configuration or whether it asks to be reopened. An entry that does not
ask to be reopened, is being reopened, or holds a live handle is left as it was, with its handle
and every device of its name. Any other entry is no longer marked afterwards; when its name
leads to a device that is present and has no open failure set, it holds a fresh live handle
opened with its configuration and its dead handle is closed once, and otherwise it is left as it
was. -/
theorem checkPorts_outcome (r : Registry) (hr : Reached r) (port : String) :
    (r.checkPorts.entry? port).map (fun e => (e.config, e.autoReconnect)) =
      (r.entry? port).map (fun e => (e.config, e.autoReconnect)) ∧
    ∀ e, r.entry? port = some e →
      (e.autoReconnect = false ∨ e.reconnecting = true ∨ r.bench.isAlive e.handle = true →
        Untouched r r.checkPorts port e) ∧
      (e.autoReconnect = true → e.reconnecting = false → r.bench.isAlive e.handle = false →
        (∀ e', r.checkPorts.entry? port = some e' → e'.reconnecting = false) ∧
        (∀ i d, r.bench.lookup? port = some i → r.bench.device? i = some d → d.present = true →
          d.openFailure = none → ∃ hd fresh, r.bench.handle? e.handle = some hd ∧
            Reopened r r.checkPorts port e i d hd fresh ∧ r.checkPorts.bench.isAlive fresh = true) ∧
        (¬ r.bench.Openable port → Untouched r r.checkPorts port e)) := by
  have hs := hr.seated
  obtain ⟨hnone, hport⟩ := checkPorts_port hs port
  refine ⟨?_, fun e he => ?_⟩
  · cases he : r.entry? port with
    | none => rw [hnone he]
    | some e =>
      obtain ⟨k, hk⟩ := checkPorts_entry hs he
      rw [hk]
      rfl
  · obtain ⟨hkept, hdead⟩ := hport e he
    refine ⟨fun h => hkept ?_, fun hauto hrec halive => ?_⟩
    · rcases h with h | h | h
      · exact .inl (by simp [Candidate, h])
      · exact .inl (by simp [Candidate, h])
      · exact .inr h
    · have hcand : Candidate e = true := by simp [Candidate, hauto, hrec]
      obtain ⟨hopen, hnot⟩ := hdead hcand halive
      refine ⟨fun e' he' => ?_, fun i d hi hd hp hfail => ?_, hnot⟩
      · obtain ⟨k, hk⟩ := checkPorts_entry hs he
        rw [hk, Option.some.injEq] at he'
        rw [← he']
        exact hrec
      · obtain ⟨hd', fresh, hh, hro⟩ := hopen i d hi hd hp hfail
        exact ⟨hd', fresh, hh, hro, hro.alive hd (hs.name_of_lookup hi hd) hp⟩

/-- A port whose device was unplugged and plugged again holds a dead handle, and a pass reopens
it on the device that is back. -/
theorem pass_reopens_replugged_port :
    let r : Registry := (Call.act 0 .plug).run ((Call.act 0 .unplug).run
      ((Call.openPort "P1" {} true).run ((Call.addDevice "P1").run { bench := {} })))
    Reached r ∧ r.bench.isAlive 0 = false ∧
      ∃ hd fresh, Reopened r r.checkPorts "P1" ⟨0, LineConfig.default, true, false⟩ 0
        { (Device.fresh "P1") with
          generation := 1, configHistory := [LineConfig.default], openCount := 1 } hd fresh ∧
        r.checkPorts.bench.isAlive fresh = true := by
  intro r
  have hr : Reached r := .call _ (.call _ (.call _ (.call _ (.empty {} .default))))
  have he : r.entry? "P1" = some ⟨0, LineConfig.default, true, false⟩ := by decide +kernel
  have hdead : r.bench.isAlive 0 = false := by decide +kernel
  obtain ⟨-, hport⟩ := checkPorts_outcome r hr "P1"
  obtain ⟨-, hreopen⟩ := hport _ he
  obtain ⟨-, hopen, -⟩ := hreopen rfl rfl hdead
  obtain ⟨hd, fresh, -, hro, halive⟩ := hopen 0 { (Device.fresh "P1") with
    generation := 1, configHistory := [LineConfig.default], openCount := 1 }
    (by decide +kernel) (by decide +kernel) rfl rfl
  exact ⟨hr, hdead, hd, fresh, hro, halive⟩

end SerialHub.Registry
