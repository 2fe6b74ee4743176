import SerialHub.Port.Bench
import SerialHub.Proofs.Keyed

/-!
# What the operations of a bench change

For each bench operation that succeeds, this module says once which device and which handle it
changed and how, so that proofs about the registry never unfold the bench. The *setup* of a bench
is the bench with its traffic (queues, write logs, noted read timeouts) erased: writes and reads
keep it, and whether a handle is alive depends on it alone.
-/

namespace SerialHub.Port

open SerialHub.Line

section UpdateAt

variable {α β : Type}

/-- Reading a list after changing one index. -/
theorem getElem?_updateAt (xs : List α) (i j : Nat) (f : α → α) :
    (updateAt xs i f)[j]? = if i = j then xs[j]?.map f else xs[j]? := by
  unfold updateAt
  cases hx : xs[i]? with
  | none =>
    by_cases hij : i = j
    · subst hij
      simp [hx]
    · simp [hij]
  | some x =>
    obtain ⟨hi, hxi⟩ := List.getElem?_eq_some_iff.mp hx
    by_cases hij : i = j
    · subst hij
      simp [hi, hxi]
    · simp [hij]

@[simp] theorem length_updateAt (xs : List α) (i : Nat) (f : α → α) :
    (updateAt xs i f).length = xs.length := by
  unfold updateAt
  split <;> simp

/-- Changing an element in a way that a view of the elements does not see keeps the view. -/
theorem map_updateAt {f : α → α} {g : α → β} (hfg : ∀ x, g (f x) = g x) (xs : List α) (i : Nat) :
    (updateAt xs i f).map g = xs.map g := by
  apply List.ext_getElem?
  intro j
  simp only [List.getElem?_map, getElem?_updateAt]
  split
  · cases xs[j]? <;> simp [hfg]
  · rfl

/-- Two changes at one index are one change. -/
theorem updateAt_updateAt (xs : List α) (i : Nat) (f g : α → α) :
    updateAt (updateAt xs i f) i g = updateAt xs i (g ∘ f) := by
  apply List.ext_getElem?
  intro j
  simp only [getElem?_updateAt]
  by_cases hij : i = j
  · subst hij
    cases xs[i]? <;> simp
  · simp [hij]

/-- A change that leaves the element at its index as it is leaves the list as it is. -/
theorem updateAt_eq_self {xs : List α} {i : Nat} {f : α → α}
    (h : ∀ x, xs[i]? = some x → f x = x) : updateAt xs i f = xs := by
  apply List.ext_getElem?
  intro j
  rw [getElem?_updateAt]
  split
  · rename_i hij
    subst hij
    cases hx : xs[i]? with
    | none => rfl
    | some x => simp [h x hx]
  · rfl

end UpdateAt

namespace Device

/-- A device with its traffic erased: nothing queued, nothing logged, no read noted. -/
def setup (d : Device) : Device :=
  { d with queue := [], writeLog := [], lastReadTimeout := none }

@[simp] theorem setup_name (d : Device) : d.setup.name = d.name := rfl
@[simp] theorem setup_present (d : Device) : d.setup.present = d.present := rfl
@[simp] theorem setup_generation (d : Device) : d.setup.generation = d.generation := rfl
@[simp] theorem setup_openCount (d : Device) : d.setup.openCount = d.openCount := rfl
@[simp] theorem setup_closeCount (d : Device) : d.setup.closeCount = d.closeCount := rfl
@[simp] theorem setup_configHistory (d : Device) : d.setup.configHistory = d.configHistory := rfl

/-- A test's action never renames a device, counts an open or a close, or configures it. -/
theorem act_keeps (d : Device) (a : DeviceAction) :
    (d.act a).name = d.name ∧ (d.act a).openCount = d.openCount ∧
      (d.act a).closeCount = d.closeCount ∧ (d.act a).configHistory = d.configHistory := by
  cases a <;> exact ⟨rfl, rfl, rfl, rfl⟩

end Device

namespace Bench

variable {b b' : Bench} {i n m : Nat} {c : LineConfig}

@[simp] theorem modifyDevice_handles (b : Bench) (i : Nat) (f : Device → Device) :
    (b.modifyDevice i f).handles = b.handles := rfl

@[simp] theorem modifyDevice_names (b : Bench) (i : Nat) (f : Device → Device) :
    (b.modifyDevice i f).names = b.names := rfl

@[simp] theorem modifyHandle_devices (b : Bench) (h : Nat) (f : Handle → Handle) :
    (b.modifyHandle h f).devices = b.devices := rfl

@[simp] theorem modifyHandle_names (b : Bench) (h : Nat) (f : Handle → Handle) :
    (b.modifyHandle h f).names = b.names := rfl

@[simp] theorem length_modifyHandle (b : Bench) (h : Nat) (f : Handle → Handle) :
    (b.modifyHandle h f).handles.length = b.handles.length := by
  simp [modifyHandle]

@[simp] theorem device?_modifyDevice (b : Bench) (i j : Nat) (f : Device → Device) :
    (b.modifyDevice i f).device? j = if i = j then (b.device? j).map f else b.device? j := by
  simp [modifyDevice, device?, getElem?_updateAt]

@[simp] theorem handle?_modifyHandle (b : Bench) (h k : Nat) (f : Handle → Handle) :
    (b.modifyHandle h f).handle? k = if h = k then (b.handle? k).map f else b.handle? k := by
  simp [modifyHandle, handle?, getElem?_updateAt]

@[simp] theorem lookup?_modifyDevice (b : Bench) (i : Nat) (f : Device → Device) (name : String) :
    (b.modifyDevice i f).lookup? name = b.lookup? name := rfl

@[simp] theorem lookup?_modifyHandle (b : Bench) (h : Nat) (f : Handle → Handle) (name : String) :
    (b.modifyHandle h f).lookup? name = b.lookup? name := rfl

@[simp] theorem device?_modifyHandle (b : Bench) (h j : Nat) (f : Handle → Handle) :
    (b.modifyHandle h f).device? j = b.device? j := rfl

@[simp] theorem handle?_modifyDevice (b : Bench) (i k : Nat) (f : Device → Device) :
    (b.modifyDevice i f).handle? k = b.handle? k := rfl

/-- A handle added at the end has the next free index; the others keep theirs. -/
theorem handle?_push (b : Bench) (x : Handle) (k : Nat) :
    ({ b with handles := b.handles ++ [x] } : Bench).handle? k =
      if k < b.handles.length then b.handle? k else if k = b.handles.length then some x else none := by
  simp only [handle?]
  split
  · rename_i hk
    exact List.getElem?_append_left hk
  · rename_i hk
    rw [List.getElem?_append_right (by omega)]
    split
    · rename_i he
      subst he
      simp
    · rename_i he
      have : k - b.handles.length ≠ 0 := by omega
      simp [this]

/-- A handle that exists has an index below the number of handles. -/
theorem lt_length_of_handle? {hd : Handle} (h : b.handle? n = some hd) : n < b.handles.length :=
  (List.getElem?_eq_some_iff.mp h).1

/-- A handle is alive exactly when it exists, is not closed, and its device is present in the
generation it was opened in. -/
theorem alive_eq_ok {hd : Handle} {d : Device} (h : b.alive n = .ok (hd, d)) :
    b.handle? n = some hd ∧ hd.closed = false ∧ b.device? hd.device = some d ∧
      d.present = true ∧ d.generation = hd.generation := by
  unfold alive at h
  split at h
  · cases h
  · rename_i hd' hh
    split at h
    · cases h
    · rename_i hclosed
      split at h
      · cases h
      · rename_i d' hdev
        split at h
        · cases h
        · rename_i hlive
          cases h
          simp only [Bool.not_eq_true] at hclosed
          simp only [Bool.or_eq_true, Bool.not_eq_true', bne_iff_ne, ne_eq, not_or,
            Decidable.not_not] at hlive
          exact ⟨hh, hclosed, hdev, by simpa using hlive.1, hlive.2⟩

/-- Opening a device counts the open, notes the configuration, and adds a live handle on it
with the configuration's read timeout, at the next free index. -/
theorem openDevice_eq_ok {b' : Bench} (h : b.openDevice i c = .ok (n, b')) :
    ∃ d, b.device? i = some d ∧ d.present = true ∧ n = b.handles.length ∧
      b' = { b.modifyDevice i (fun d =>
          { d with openCount := d.openCount + 1, configHistory := d.configHistory ++ [c] }) with
        handles := b.handles ++ [⟨i, d.generation, c.readTimeoutMs, false⟩] } := by
  unfold openDevice at h
  split at h
  · cases h
  · rename_i d hd
    split at h
    · cases h
    · rename_i hpresent
      split at h
      · cases h
      · cases h
        exact ⟨d, hd, by simpa using hpresent, rfl, rfl⟩

/-- What an open changes, seen through the lookups: the device counts the open and notes the
configuration, and the next index holds a live handle on it; names are as they were. -/
theorem openDevice_views {b' : Bench} (h : b.openDevice i c = .ok (n, b')) :
    ∃ d, b.device? i = some d ∧ n = b.handles.length ∧ b'.names = b.names ∧
      (∀ j, b'.device? j = if i = j then
        some { d with openCount := d.openCount + 1, configHistory := d.configHistory ++ [c] }
        else b.device? j) ∧
      (∀ k, b'.handle? k = if k = b.handles.length then
        some ⟨i, d.generation, c.readTimeoutMs, false⟩ else b.handle? k) ∧
      b'.handles.length = b.handles.length + 1 := by
  obtain ⟨d, hd, -, rfl, rfl⟩ := openDevice_eq_ok h
  refine ⟨d, hd, rfl, rfl, ?_, ?_, by simp⟩
  · intro j
    show (b.modifyDevice i _).device? j = _
    rw [device?_modifyDevice]
    split
    · rename_i hij
      subst hij
      simp [hd]
    · rfl
  · intro k
    show ({ b with handles := b.handles ++ [_] } : Bench).handle? k = _
    rw [handle?_push]
    split
    · rename_i hk
      rw [if_neg (by omega)]
    · rename_i hk
      split
      · rfl
      · rename_i hk'
        have hnone : b.handles.length ≤ k := by omega
        exact (List.getElem?_eq_none hnone).symm

/-- Opening by name opens the device registered under that name. -/
theorem openPort_eq_ok {name : String} {b' : Bench} (h : b.openPort name c = .ok (n, b')) :
    ∃ j, b.lookup? name = some j ∧ b.openDevice j c = .ok (n, b') := by
  unfold openPort at h
  split at h
  · cases h
  · rename_i j hj
    exact ⟨j, hj, h⟩

/-- Opening by name adds one handle and changes no device but the one registered under the
name. -/
theorem openPort_keeps {name : String} {b' : Bench} (h : b.openPort name c = .ok (n, b')) :
    n = b.handles.length ∧ b'.handles.length = b.handles.length + 1 ∧ b'.names = b.names ∧
      ∀ j, b.lookup? name ≠ some j → b'.device? j = b.device? j := by
  obtain ⟨i, hi, hdev⟩ := openPort_eq_ok h
  obtain ⟨d, -, hn, hnames, hdevs, -, hlen⟩ := openDevice_views hdev
  refine ⟨hn, hlen, hnames, fun j hj => ?_⟩
  have hij : i ≠ j := fun e => hj (e ▸ hi)
  rw [hdevs, if_neg hij]

/-- Closing succeeds exactly on a handle that exists and is not closed: it marks the handle
closed and counts the close on its device. -/
theorem close_eq_ok (h : b.close n = .ok b') :
    ∃ hd, b.handle? n = some hd ∧ hd.closed = false ∧
      b' = (b.modifyHandle n (fun hd => { hd with closed := true })).modifyDevice hd.device
        (fun d => { d with closeCount := d.closeCount + 1 }) := by
  unfold close at h
  split at h
  · cases h
  · rename_i hd hh
    split at h
    · cases h
    · rename_i hclosed
      cases h
      exact ⟨hd, hh, by simpa using hclosed, rfl⟩

/-- A handle that exists and is not closed can be closed. -/
theorem close_of_open {hd : Handle} (hh : b.handle? n = some hd) (hc : hd.closed = false) :
    b.close n = .ok ((b.modifyHandle n (fun hd => { hd with closed := true })).modifyDevice
      hd.device (fun d => { d with closeCount := d.closeCount + 1 })) := by
  simp [close, hh, hc]

/-- Reconfiguring through a live handle notes the configuration on its device and sets the
handle's read timeout, and nothing else. -/
theorem applyConfig_eq_ok (h : b.applyConfig n c = .ok b') :
    ∃ hd d, b.alive n = .ok (hd, d) ∧
      b' = modifyHandle
        (b.modifyDevice hd.device (fun d => { d with configHistory := d.configHistory ++ [c] }))
        n (fun hd => { hd with timeoutMs := c.readTimeoutMs }) := by
  unfold applyConfig at h
  cases ha : b.alive n with
  | error e => simp [ha] at h
  | ok p =>
    obtain ⟨hd, d⟩ := p
    simp only [ha] at h
    cases h
    exact ⟨hd, d, rfl, rfl⟩

/-- Setting a timeout through a live handle changes that handle's timeout only. -/
theorem setTimeout_eq_ok {ms : Nat} (h : b.setTimeout n ms = .ok b') :
    (∃ p, b.alive n = .ok p) ∧ b' = b.modifyHandle n (fun hd => { hd with timeoutMs := ms }) := by
  unfold setTimeout at h
  cases ha : b.alive n with
  | error e => simp [ha] at h
  | ok p =>
    simp only [ha] at h
    cases h
    exact ⟨⟨p, rfl⟩, rfl⟩

/-- Setting a timeout through a live handle succeeds. -/
theorem setTimeout_of_alive {ms : Nat} {p : Handle × Device} (h : b.alive n = .ok p) :
    b.setTimeout n ms = .ok (b.modifyHandle n (fun hd => { hd with timeoutMs := ms })) := by
  unfold setTimeout
  rw [h]
  rfl

/-- The timeout of a handle that exists. -/
theorem timeoutOf_eq {hd : Handle} (h : b.handle? n = some hd) : b.timeoutOf n = hd.timeoutMs := by
  simp [timeoutOf, h]

/-- The bench with every device's traffic erased. -/
def setup (b : Bench) : Bench :=
  { b with devices := b.devices.map Device.setup }

@[simp] theorem setup_names (b : Bench) : b.setup.names = b.names := rfl
@[simp] theorem setup_handles (b : Bench) : b.setup.handles = b.handles := rfl

@[simp] theorem device?_setup (b : Bench) (j : Nat) :
    b.setup.device? j = (b.device? j).map Device.setup := by
  simp [setup, device?]

/-- Changing traffic only keeps the setup. -/
theorem setup_modifyDevice {f : Device → Device} (hf : ∀ d, (f d).setup = d.setup) (b : Bench)
    (j : Nat) : (b.modifyDevice j f).setup = b.setup := by
  simp [setup, modifyDevice, map_updateAt hf]

/-- Whether a handle is alive, and on what, does not depend on traffic. -/
theorem alive_setup (b : Bench) (h : Nat) :
    b.setup.alive h = (b.alive h).map (fun p => (p.1, p.2.setup)) := by
  have hh : b.setup.handle? h = b.handle? h := rfl
  unfold alive
  rw [hh]
  cases b.handle? h with
  | none => rfl
  | some hd =>
    cases hclosed : hd.closed
    · simp only [hclosed, Bool.false_eq_true, if_false, device?_setup]
      cases b.device? hd.device with
      | none => rfl
      | some d =>
        by_cases hlive : (!d.present || d.generation != hd.generation) = true
        · simp [hlive, Except.map]
        · simp only [Bool.not_eq_true] at hlive
          simp [hlive, Except.map]
    · simp [hclosed, Except.map]

/-- A handle alive on a bench is alive on every bench with the same setup. -/
theorem alive_of_setup_eq {p : Handle × Device} (hs : b'.setup = b.setup) (h : b.alive n = .ok p) :
    ∃ p', b'.alive n = .ok p' := by
  have h' := alive_setup b' n
  rw [hs, alive_setup, h] at h'
  cases hb : b'.alive n with
  | error e => simp [hb] at h'; cases h'
  | ok p' => exact ⟨p', rfl⟩

/-- Writing changes traffic only. -/
theorem write_setup {data : List UInt8} (h : b.write n data = .ok (m, b')) : b'.setup = b.setup := by
  unfold write at h
  cases ha : b.alive n with
  | error e => simp [ha] at h; cases h
  | ok p =>
    obtain ⟨hd, d⟩ := p
    rw [ha] at h
    by_cases hf : d.failWrites = true
    · simp [hf, bind, Except.bind, throw, throwThe, MonadExceptOf.throw] at h
    · simp only [hf, bind, Except.bind, Bool.false_eq_true, if_false, pure, Except.pure,
        Except.ok.injEq, Prod.mk.injEq] at h
      rw [← h.2]
      apply setup_modifyDevice
      intro d
      rfl

/-- Reading changes traffic only, whatever it returns. -/
theorem read_setup (b : Bench) (h size : Nat) : (b.read h size).2.setup = b.setup := by
  unfold read
  cases b.handle? h with
  | none => rfl
  | some hd =>
    dsimp only
    -- the read first notes its timeout on the device, then takes bytes off the queue
    have h1 : (b.modifyDevice hd.device
        (fun d => { d with lastReadTimeout := some hd.timeoutMs })).setup = b.setup := by
      apply setup_modifyDevice
      intro d
      rfl
    split
    · exact h1
    · split
      · exact h1
      · rw [← h1]
        apply setup_modifyDevice
        intro d
        rfl

/-! ## Registration -/

/-- Registration is consistent: every registered name leads to a device of that name, and every
device is registered under its own name. Then each device name is registered once. -/
structure Named (b : Bench) : Prop where
  named : ∀ name i, b.lookup? name = some i → ∃ d, b.device? i = some d ∧ d.name = name
  registered : ∀ i d, b.device? i = some d → b.lookup? d.name = some i

@[simp] theorem named_empty : Named {} :=
  ⟨fun _ _ h => by simp [lookup?] at h, fun _ _ h => by simp [device?] at h⟩

/-- Two names registered for one device are the same name. -/
theorem Named.lookup_inj (h : b.Named) {p q : String} {i : Nat} (hp : b.lookup? p = some i)
    (hq : b.lookup? q = some i) : p = q := by
  obtain ⟨d, hd, hdp⟩ := h.named p i hp
  obtain ⟨d', hd', hdq⟩ := h.named q i hq
  rw [hd] at hd'
  cases hd'
  rw [← hdp, ← hdq]

/-- Under consistent registration, a device has a registered name exactly when it is the device
registered under that name. -/
theorem Named.name_eq_iff (h : b.Named) {name : String} {j : Nat} {d : Device}
    (hi : b.lookup? name = some i) (hd : b.device? j = some d) : d.name = name ↔ j = i := by
  constructor
  · intro hname
    have hreg := h.registered j d hd
    rw [hname, hi] at hreg
    exact (Option.some.inj hreg).symm
  · rintro rfl
    obtain ⟨d', hd', hname⟩ := h.named name j hi
    rw [hd] at hd'
    cases hd'
    exact hname

/-- Changing a device without renaming it keeps registration consistent. -/
theorem Named.modifyDevice (h : b.Named) (i : Nat) (f : Device → Device)
    (hf : ∀ d, (f d).name = d.name) : (b.modifyDevice i f).Named where
  named name j hj := by
    obtain ⟨d, hd, hname⟩ := h.named name j hj
    by_cases hij : i = j
    · exact ⟨f d, by simp [hij, hd], (hf d).trans hname⟩
    · exact ⟨d, by simp [hij, hd], hname⟩
  registered j d hd := by
    simp only [device?_modifyDevice] at hd
    split at hd
    · obtain ⟨d0, hd0, rfl⟩ := Option.map_eq_some_iff.mp hd
      rw [lookup?_modifyDevice, hf]
      exact h.registered j d0 hd0
    · exact h.registered j d hd

/-- Changing a handle keeps registration consistent. -/
theorem Named.modifyHandle (h : b.Named) (k : Nat) (f : Handle → Handle) :
    (b.modifyHandle k f).Named := ⟨h.named, h.registered⟩

/-- Adding a handle keeps registration consistent. -/
theorem Named.pushHandle (h : b.Named) (x : Handle) :
    ({ b with handles := b.handles ++ [x] } : Bench).Named := ⟨h.named, h.registered⟩

/-- A device of the bench at an index below the number of devices, or the one added after. -/
theorem device?_addDevice (b : Bench) (name : String) (j : Nat) :
    (b.addDevice name).device? j =
      if j < b.devices.length then b.device? j
      else if j = b.devices.length then some (Device.fresh name) else none := by
  simp only [addDevice, device?]
  split
  · rename_i hj
    exact List.getElem?_append_left hj
  · rename_i hj
    rw [List.getElem?_append_right (by omega)]
    split
    · rename_i he
      subst he
      simp
    · have : j - b.devices.length ≠ 0 := by omega
      simp [this]

/-- Registering a name puts the next device under it. -/
theorem lookup?_addDevice (b : Bench) (name p : String) :
    (b.addDevice name).lookup? p = if p = name then some b.devices.length else b.lookup? p :=
  Keyed.lookup_insert name p b.devices.length b.names

@[simp] theorem handle?_addDevice (b : Bench) (name : String) (k : Nat) :
    (b.addDevice name).handle? k = b.handle? k := rfl

/-- Registering a name that is not registered yet keeps registration consistent. -/
theorem Named.addDevice (h : b.Named) {name : String} (hfresh : b.lookup? name = none) :
    (b.addDevice name).Named where
  named n j hj := by
    simp only [Bench.addDevice, lookup?, Keyed.lookup_insert] at hj
    split at hj
    · rename_i hn
      cases hj
      subst hn
      exact ⟨Device.fresh n, by simp [device?_addDevice], rfl⟩
    · obtain ⟨d, hd, hname⟩ := h.named n j hj
      have hj' : j < b.devices.length := (List.getElem?_eq_some_iff.mp hd).1
      exact ⟨d, by simp [device?_addDevice, hj', hd], hname⟩
  registered j d hd := by
    rw [device?_addDevice] at hd
    simp only [Bench.addDevice, lookup?, Keyed.lookup_insert]
    split at hd
    · have hreg := h.registered j d hd
      have hne : d.name ≠ name := by
        intro he
        rw [he, hfresh] at hreg
        cases hreg
      simpa [hne, lookup?] using hreg
    · split at hd
      · rename_i _ hj
        cases hd
        simp [Device.fresh, hj]
      · cases hd

end Bench

end SerialHub.Port
