import SerialHub.Line.Overrides

/-!
# Applying overrides

Applying overrides checks the supplied settings in the order of `Setting.all` and stops at the
first refused one, each check reading only its own raw value. From that normal form: applying
fails exactly with the first refusal and otherwise fills the supplied settings in, and overrides
compose. Main statements: `apply_refuses_first_or_fills` and `apply_composes`.
-/

namespace SerialHub.Line

/-- The settings of a line, as overrides name them. -/
inductive Setting where
  | baudrate
  | byteSize
  | parity
  | stopBits
  | flowControl
  | readTimeout
  | writeTimeout
  deriving Repr, DecidableEq

namespace Setting

/-- Every setting, in the order overrides are checked. -/
def all : List Setting :=
  [baudrate, byteSize, parity, stopBits, flowControl, readTimeout, writeTimeout]

theorem mem_all (s : Setting) : s ∈ all := by
  cases s <;> simp [all]

/-- The name a refusal gives the setting. -/
def param : Setting → String
  | baudrate => "baudrate"
  | byteSize => "byte_size"
  | parity => "parity"
  | stopBits => "stop_bits"
  | flowControl => "flow_control"
  | readTimeout => "read_timeout_ms"
  | writeTimeout => "write_timeout_ms"

/-- What a refusal says the setting accepts. -/
def accepted : Setting → String
  | baudrate => "supported values: [300, 600, 1200, 2400, 4800, 9600, 14400, 19200, 38400, " ++
      "57600, 115200, 230400, 460800, 921600]"
  | byteSize => "supported values: [5, 6, 7, 8]"
  | parity => "supported values: [\"N\", \"E\", \"O\", \"M\", \"S\"]"
  | stopBits => "supported values: [1, 1.5, 2]"
  | flowControl => "supported values: [\"none\", \"hardware\", \"software\"]"
  | readTimeout | writeTimeout => "range: 0-60000"

end Setting

/-- A character size is read from exactly its bit count. -/
theorem DataBits.ofNat?_eq_some_iff {n : Nat} {d : DataBits} :
    DataBits.ofNat? n = some d ↔ d.toNat = n := by
  constructor
  · intro h
    unfold DataBits.ofNat? at h
    split at h <;> cases h <;> rfl
  · rintro rfl
    cases d <;> rfl

/-- The bit counts that name a character size are 5 to 8. -/
theorem DataBits.ofNat?_isSome_iff {n : Nat} : (DataBits.ofNat? n).isSome ↔ 5 ≤ n ∧ n ≤ 8 := by
  unfold DataBits.ofNat?
  split
  case h_5 h5 h6 h7 h8 =>
    -- no count but 5 to 8 names a size
    simp only [imp_false] at h5 h6 h7 h8
    simp only [Option.isSome_none, Bool.false_eq_true, false_iff]
    omega
  all_goals simp

namespace Overrides

/-- Whether overrides supply a value for a setting that the setting does not take. -/
def refuses (o : Overrides) : Setting → Bool
  | .baudrate => o.baudrate.any (fun n => n ∉ supportedBaudrates)
  | .byteSize => o.byteSize.any (fun n => n < 5 || 8 < n)
  | .parity => o.parity.any (fun s => (Parity.parse? s).isNone)
  | .stopBits => o.stopBits.any (fun x => (StopBits.ofFloat? x).isNone)
  | .flowControl => o.flowControl.any (fun s => (FlowControl.parse? s).isNone)
  | .readTimeout => o.readTimeoutMs.any (fun n : Int => n < 0 || maxTimeoutMs < n)
  | .writeTimeout => o.writeTimeoutMs.any (fun n : Int => n < 0 || maxTimeoutMs < n)

/-- The raw value supplied for a setting, written as a refusal shows it. -/
def shown (o : Overrides) : Setting → Option String
  | .baudrate => o.baudrate.map toString
  | .byteSize => o.byteSize.map toString
  | .parity => o.parity
  | .stopBits => o.stopBits.map Decimal.display
  | .flowControl => o.flowControl
  | .readTimeout => o.readTimeoutMs.map toString
  | .writeTimeout => o.writeTimeoutMs.map toString

/-- The error refusing a setting, when overrides supply a value it does not take. -/
def refusal (o : Overrides) (s : Setting) : Option SerialError :=
  if o.refuses s then (o.shown s).map (fun v => .invalidParam s.param v s.accepted) else none

/-- The base with each supplied setting replaced by the value read from it. A supplied value
that cannot be read leaves the base's; applying overrides refuses those before filling. -/
def fill (o : Overrides) (b : LineConfig) : LineConfig where
  baudrate := o.baudrate.getD b.baudrate
  dataBits := (o.byteSize.bind DataBits.ofNat?).getD b.dataBits
  parity := (o.parity.bind Parity.parse?).getD b.parity
  stopBits := (o.stopBits.bind StopBits.ofFloat?).getD b.stopBits
  flowControl := (o.flowControl.bind FlowControl.parse?).getD b.flowControl
  readTimeoutMs := (o.readTimeoutMs.map Int.toNat).getD b.readTimeoutMs
  writeTimeoutMs := (o.writeTimeoutMs.map Int.toNat).getD b.writeTimeoutMs

/-- A setting of a result takes the value read from the raw value supplied for it, or the base's
value when none is supplied. -/
def Takes {α β : Type} (reads : α → β → Prop) : Option α → β → β → Prop
  | none, base, v => v = base
  | some a, _, v => reads a v

/-- What a successful application gives: each supplied setting is the value read from its raw
value, a timeout being exactly the number given, and each other setting is the base's. -/
structure Fills (o : Overrides) (b c : LineConfig) : Prop where
  baudrate : Takes (fun n v => v = n) o.baudrate b.baudrate c.baudrate
  byteSize : Takes (fun n d => d.toNat = n) o.byteSize b.dataBits c.dataBits
  parity : Takes (fun s p => Parity.parse? s = some p) o.parity b.parity c.parity
  stopBits : Takes (fun x s => StopBits.ofFloat? x = some s) o.stopBits b.stopBits c.stopBits
  flowControl :
    Takes (fun s f => FlowControl.parse? s = some f) o.flowControl b.flowControl c.flowControl
  readTimeout : Takes (fun n v => (v : Int) = n) o.readTimeoutMs b.readTimeoutMs c.readTimeoutMs
  writeTimeout :
    Takes (fun n v => (v : Int) = n) o.writeTimeoutMs b.writeTimeoutMs c.writeTimeoutMs

/-! ## One check at a time -/

/-- Every refusal of a setting names the setting, shows the raw value as given and says what the
setting accepts. -/
theorem refusals_name_setting :
    (∀ n, baudrateError n =
      .invalidParam Setting.baudrate.param (toString n) Setting.baudrate.accepted) ∧
    (∀ n, byteSizeError n =
      .invalidParam Setting.byteSize.param (toString n) Setting.byteSize.accepted) ∧
    (∀ s, parityError s = .invalidParam Setting.parity.param s Setting.parity.accepted) ∧
    (∀ x, stopBitsError x =
      .invalidParam Setting.stopBits.param (Decimal.display x) Setting.stopBits.accepted) ∧
    (∀ s, flowControlError s =
      .invalidParam Setting.flowControl.param s Setting.flowControl.accepted) ∧
    (∀ n, timeoutError "read_timeout_ms" n =
      .invalidParam Setting.readTimeout.param (toString n) Setting.readTimeout.accepted) ∧
    (∀ n, timeoutError "write_timeout_ms" n =
      .invalidParam Setting.writeTimeout.param (toString n) Setting.writeTimeout.accepted) := by
  have hbaud : supportedText (supportedBaudrates.map toString) = Setting.baudrate.accepted := by
    decide
  have hbyte : supportedText ["5", "6", "7", "8"] = Setting.byteSize.accepted := by decide
  have hparity : supportedText ["\"N\"", "\"E\"", "\"O\"", "\"M\"", "\"S\""] =
      Setting.parity.accepted := by decide
  have hstop : supportedText ["1", "1.5", "2"] = Setting.stopBits.accepted := by decide
  have hflow : supportedText ["\"none\"", "\"hardware\"", "\"software\""] =
      Setting.flowControl.accepted := by decide
  have htime : "range: 0-" ++ toString maxTimeoutMs = Setting.readTimeout.accepted := by decide
  refine ⟨fun n => ?_, fun n => ?_, fun s => ?_, fun x => ?_, fun s => ?_, fun n => ?_,
    fun n => ?_⟩ <;>
  simp only [baudrateError, byteSizeError, parityError, stopBitsError, flowControlError,
    timeoutError, hbaud, hbyte, hparity, hstop, hflow, htime] <;> rfl

/-- The result of one check: its refusal if there is one, else the value it passes on. -/
def checked {α : Type} : Option SerialError → α → Except SerialError α
  | some e, _ => .error e
  | none, v => .ok v

/-- A check followed by the checks of the settings after it: the first refusal of them all, or
the value the last one passes on. -/
theorem checked_bind {α β : Type} (f : Setting → Option SerialError) (s : Setting)
    (rest : List Setting) (v : α) (w : β) (k : α → Except SerialError β)
    (hk : k v = checked (rest.findSome? f) w) :
    (checked (f s) v >>= k) = checked ((s :: rest).findSome? f) w := by
  rw [List.findSome?_cons]
  cases f s with
  | some e => rfl
  | none => exact hk

/-- Each setting's check is its refusal, or the value `fill` puts in its place. -/
theorem checks_eq (o : Overrides) (b : LineConfig) :
    readOr readBaudrate b.baudrate o.baudrate =
      checked (o.refusal .baudrate) (o.fill b).baudrate ∧
    readOr readByteSize b.dataBits o.byteSize =
      checked (o.refusal .byteSize) (o.fill b).dataBits ∧
    readOr readParity b.parity o.parity = checked (o.refusal .parity) (o.fill b).parity ∧
    readOr readStopBits b.stopBits o.stopBits =
      checked (o.refusal .stopBits) (o.fill b).stopBits ∧
    readOr readFlowControl b.flowControl o.flowControl =
      checked (o.refusal .flowControl) (o.fill b).flowControl ∧
    readOr (readTimeout "read_timeout_ms") b.readTimeoutMs o.readTimeoutMs =
      checked (o.refusal .readTimeout) (o.fill b).readTimeoutMs ∧
    readOr (readTimeout "write_timeout_ms") b.writeTimeoutMs o.writeTimeoutMs =
      checked (o.refusal .writeTimeout) (o.fill b).writeTimeoutMs := by
  obtain ⟨hbaud, hbyte, hparity, hstop, hflow, hread, hwrite⟩ := refusals_name_setting
  refine ⟨?_, ?_, ?_, ?_, ?_, ?_, ?_⟩
  · cases h : o.baudrate with
    | none => simp [readOr, refusal, refuses, fill, checked, h]
    | some n =>
      by_cases hn : n ∈ supportedBaudrates
      · simp [readOr, readBaudrate, refusal, refuses, fill, checked, h, hn]
      · simp [readOr, readBaudrate, refusal, refuses, shown, fill, checked, h, hn, hbaud]
  · cases h : o.byteSize with
    | none => simp [readOr, refusal, refuses, fill, checked, h]
    | some n =>
      have hsome := DataBits.ofNat?_isSome_iff (n := n)
      cases hd : DataBits.ofNat? n with
      | none =>
        have hn : n < 5 ∨ 8 < n := by simp [hd] at hsome; omega
        simp [readOr, readByteSize, refusal, refuses, shown, fill, checked, h, hd, hn, hbyte]
      | some d =>
        have hn : ¬ (n < 5 ∨ 8 < n) := by simp [hd] at hsome; omega
        simp [readOr, readByteSize, refusal, refuses, fill, checked, h, hd, hn]
  · cases h : o.parity with
    | none => simp [readOr, refusal, refuses, fill, checked, h]
    | some t =>
      cases hp : Parity.parse? t <;>
        simp [readOr, readParity, refusal, refuses, shown, fill, checked, h, hp, hparity]
  · cases h : o.stopBits with
    | none => simp [readOr, refusal, refuses, fill, checked, h]
    | some x =>
      cases hs : StopBits.ofFloat? x <;>
        simp [readOr, readStopBits, refusal, refuses, shown, fill, checked, h, hs, hstop]
  · cases h : o.flowControl with
    | none => simp [readOr, refusal, refuses, fill, checked, h]
    | some t =>
      cases hf : FlowControl.parse? t <;>
        simp [readOr, readFlowControl, refusal, refuses, shown, fill, checked, h, hf, hflow]
  · cases h : o.readTimeoutMs with
    | none => simp [readOr, refusal, refuses, fill, checked, h]
    | some n =>
      by_cases hn : 0 ≤ n ∧ n ≤ maxTimeoutMs
      · have hn' : ¬ (n < 0 ∨ maxTimeoutMs < n) := by omega
        simp [readOr, readTimeout, refusal, refuses, fill, checked, h, hn, hn']
      · have hn' : n < 0 ∨ maxTimeoutMs < n := by omega
        simp [readOr, readTimeout, refusal, refuses, shown, fill, checked, h, hn, hn', hread]
  · cases h : o.writeTimeoutMs with
    | none => simp [readOr, refusal, refuses, fill, checked, h]
    | some n =>
      by_cases hn : 0 ≤ n ∧ n ≤ maxTimeoutMs
      · have hn' : ¬ (n < 0 ∨ maxTimeoutMs < n) := by omega
        simp [readOr, readTimeout, refusal, refuses, fill, checked, h, hn, hn']
      · have hn' : n < 0 ∨ maxTimeoutMs < n := by omega
        simp [readOr, readTimeout, refusal, refuses, shown, fill, checked, h, hn, hn', hwrite]

/-- Applying overrides fails with the refusal of the first refused setting in checking order,
and otherwise gives the base filled with the supplied settings. -/
theorem apply_eq (o : Overrides) (b : LineConfig) :
    o.apply b = checked (Setting.all.findSome? o.refusal) (o.fill b) := by
  obtain ⟨h1, h2, h3, h4, h5, h6, h7⟩ := checks_eq o b
  rw [Overrides.apply, Setting.all, h1]
  -- peel the checks off one at a time, in the order they run
  refine checked_bind _ _ _ _ _ _ ?_
  rw [h2]
  refine checked_bind _ _ _ _ _ _ ?_
  rw [h3]
  refine checked_bind _ _ _ _ _ _ ?_
  rw [h4]
  refine checked_bind _ _ _ _ _ _ ?_
  rw [h5]
  refine checked_bind _ _ _ _ _ _ ?_
  rw [h6]
  refine checked_bind _ _ _ _ _ _ ?_
  rw [h7]
  exact checked_bind _ _ _ _ _ _ rfl

/-! ## Refusals and the filled base -/

/-- A setting is refused only when a value is supplied for it. -/
theorem isSome_shown_of_refuses {o : Overrides} {s : Setting} (h : o.refuses s = true) :
    (o.shown s).isSome := by
  cases s <;> simp only [refuses] at h <;> simpa [shown] using Option.isSome_of_any h

/-- A setting has a refusal exactly when it is refused. -/
theorem refusal_eq_none_iff {o : Overrides} {s : Setting} :
    o.refusal s = none ↔ o.refuses s = false := by
  constructor
  · intro h
    cases hs : o.refuses s with
    | false => rfl
    | true =>
      obtain ⟨v, hv⟩ := Option.isSome_iff_exists.mp (isSome_shown_of_refuses hs)
      simp [refusal, hs, hv] at h
  · intro h
    simp [refusal, h]

/-- The refusal of a refused setting names it, shows its raw value and says what it accepts. -/
theorem refusal_of_refuses {o : Overrides} {s : Setting} (h : o.refuses s = true) :
    ∃ v, o.shown s = some v ∧ o.refusal s = some (.invalidParam s.param v s.accepted) := by
  obtain ⟨v, hv⟩ := Option.isSome_iff_exists.mp (isSome_shown_of_refuses h)
  exact ⟨v, hv, by simp [refusal, h, hv]⟩

/-- A setting read by a parser that accepts every value supplied takes the parsed value. -/
theorem takes_parsed {α β : Type} (parse : α → Option β) {raw : Option α} (base : β)
    (h : raw.any (fun a => (parse a).isNone) = false) :
    Takes (fun a v => parse a = some v) raw base ((raw.bind parse).getD base) := by
  cases raw with
  | none => rfl
  | some a => cases hp : parse a <;> simp_all [Takes]

/-- A timeout in range is taken as the number given. -/
theorem takes_timeout {raw : Option Int} (base : Nat)
    (h : raw.any (fun n : Int => n < 0 || maxTimeoutMs < n) = false) :
    Takes (fun n v => (v : Int) = n) raw base ((raw.map Int.toNat).getD base) := by
  cases raw with
  | none => rfl
  | some n =>
    have hn : 0 ≤ n := by simp at h; omega
    simp [Takes, Int.toNat_of_nonneg hn]

/-- When no setting is refused, the filled base takes every supplied setting as read from its
raw value and keeps the base's for the others. -/
theorem fills_fill {o : Overrides} (b : LineConfig) (h : ∀ s, o.refuses s = false) :
    o.Fills b (o.fill b) := by
  constructor
  · cases hb : o.baudrate <;> simp [Takes, fill, hb]
  · have hbyte := h .byteSize
    cases hb : o.byteSize with
    | none => simp [Takes, fill, hb]
    | some n =>
      have hn : 5 ≤ n ∧ n ≤ 8 := by simp [refuses, hb] at hbyte; omega
      obtain ⟨d, hd⟩ := Option.isSome_iff_exists.mp (DataBits.ofNat?_isSome_iff.mpr hn)
      simpa [Takes, fill, hb, hd] using DataBits.ofNat?_eq_some_iff.mp hd
  · exact takes_parsed Parity.parse? b.parity (h .parity)
  · exact takes_parsed StopBits.ofFloat? b.stopBits (h .stopBits)
  · exact takes_parsed FlowControl.parse? b.flowControl (h .flowControl)
  · exact takes_timeout b.readTimeoutMs (h .readTimeout)
  · exact takes_timeout b.writeTimeoutMs (h .writeTimeout)

/-- An application succeeds exactly when no setting has a refusal, and then gives the filled
base. -/
theorem apply_eq_ok_iff {o : Overrides} {b c : LineConfig} :
    o.apply b = .ok c ↔ (∀ s, o.refusal s = none) ∧ o.fill b = c := by
  rw [apply_eq]
  cases hr : Setting.all.findSome? o.refusal with
  | some e =>
    obtain ⟨-, s, -, -, hs, -⟩ := List.findSome?_eq_some_iff.mp hr
    simp only [checked, reduceCtorEq, false_iff, not_and]
    intro hnone
    simp [hnone s] at hs
  | none =>
    have hnone := List.findSome?_eq_none_iff.mp hr
    simp only [checked, Except.ok.injEq]
    exact ⟨fun h => ⟨fun s => hnone s (Setting.mem_all s), h⟩, fun h => h.2⟩

/-- An application fails exactly with the refusal that comes first in checking order. -/
theorem apply_eq_error_iff {o : Overrides} {b : LineConfig} {e : SerialError} :
    o.apply b = .error e ↔ Setting.all.findSome? o.refusal = some e := by
  rw [apply_eq]
  cases Setting.all.findSome? o.refusal <;> simp [checked]

/-- Applying overrides fails only by refusing a setting they supply, with an error that names
the setting, shows its raw value and says what it accepts. -/
theorem refuses_of_apply_error {o : Overrides} {b : LineConfig} {e : SerialError}
    (h : o.apply b = .error e) :
    ∃ s v, o.refuses s = true ∧ o.shown s = some v ∧ e = .invalidParam s.param v s.accepted := by
  obtain ⟨-, s, -, -, hs, -⟩ := List.findSome?_eq_some_iff.mp (apply_eq_error_iff.mp h)
  cases hr : o.refuses s with
  | false => simp [refusal, hr] at hs
  | true =>
    obtain ⟨v, hv, hrs⟩ := refusal_of_refuses hr
    exact ⟨s, v, hr, hv, Option.some.inj (hs.symm.trans hrs)⟩

/-- Applying overrides to any base, valid or not, fails exactly on the first setting in checking
order that is refused, with an error that names the setting, shows the raw value as given and
says what the setting accepts. When no setting is refused it succeeds, each supplied setting
taking the value read from it, a timeout exactly the number given, and every other setting
keeping the base's. -/
theorem apply_refuses_first_or_fills (o : Overrides) (b : LineConfig) :
    (∀ pre s post, Setting.all = pre ++ s :: post → (∀ s' ∈ pre, o.refuses s' = false) →
      o.refuses s = true →
      ∃ v, o.shown s = some v ∧ o.apply b = .error (.invalidParam s.param v s.accepted)) ∧
    ((∀ s, o.refuses s = false) → ∃ c, o.apply b = .ok c ∧ o.Fills b c) := by
  refine ⟨fun pre s post hall hpre hs => ?_, fun h => ⟨o.fill b, ?_, fills_fill b h⟩⟩
  · obtain ⟨v, hv, hrefusal⟩ := refusal_of_refuses hs
    refine ⟨v, hv, apply_eq_error_iff.mpr ?_⟩
    exact List.findSome?_eq_some_iff.mpr
      ⟨pre, s, post, hall, hrefusal, fun x hx => refusal_eq_none_iff.mpr (hpre x hx)⟩
  · exact apply_eq_ok_iff.mpr ⟨fun s => refusal_eq_none_iff.mpr (h s), rfl⟩

/-- Of a speed of 7 baud and the parity `"Q"`, both refused, the speed is checked first and
named. -/
theorem first_refused_setting_named :
    ({ baudrate := some 7, parity := some "Q" } : Overrides).apply LineConfig.default =
      .error (.invalidParam "baudrate" "7" Setting.baudrate.accepted) := by
  obtain ⟨v, hv, h⟩ := (apply_refuses_first_or_fills { baudrate := some 7, parity := some "Q" }
    LineConfig.default).1 [] .baudrate
      [.byteSize, .parity, .stopBits, .flowControl, .readTimeout, .writeTimeout] rfl
      (by simp) (by decide)
  have hv' : v = "7" := by
    simp only [shown, Option.map_some, Option.some.injEq] at hv
    rw [← hv]
    rfl
  rw [h, hv']
  rfl

/-! ## Composition -/

/-- A setting's check that passed a value on gives, run again on that value, what it gives on the
first base with a second raw value taking the place of the first when one is supplied. -/
theorem readOr_orElse {α β : Type} {read : α → Except SerialError β} {base v : β}
    {raw₁ : Option α} (h : readOr read base raw₁ = .ok v) (raw₂ : Option α) :
    readOr read v raw₂ = readOr read base (raw₂ <|> raw₁) := by
  cases raw₂ with
  | none => exact h.symm
  | some a => rfl

/-- A successful application passed each setting's check with the setting of its result. -/
theorem reads_of_apply_ok {o : Overrides} {b c : LineConfig} (h : o.apply b = .ok c) :
    readOr readBaudrate b.baudrate o.baudrate = .ok c.baudrate ∧
    readOr readByteSize b.dataBits o.byteSize = .ok c.dataBits ∧
    readOr readParity b.parity o.parity = .ok c.parity ∧
    readOr readStopBits b.stopBits o.stopBits = .ok c.stopBits ∧
    readOr readFlowControl b.flowControl o.flowControl = .ok c.flowControl ∧
    readOr (readTimeout "read_timeout_ms") b.readTimeoutMs o.readTimeoutMs = .ok c.readTimeoutMs ∧
    readOr (readTimeout "write_timeout_ms") b.writeTimeoutMs o.writeTimeoutMs =
      .ok c.writeTimeoutMs := by
  obtain ⟨hnone, rfl⟩ := apply_eq_ok_iff.mp h
  obtain ⟨h1, h2, h3, h4, h5, h6, h7⟩ := checks_eq o b
  simp only [h1, h2, h3, h4, h5, h6, h7, hnone, checked, and_self]

/-- Applying `o₂` to what applying `o₁` gave is applying `o₁` and `o₂` merged, `o₂` winning, to
the first base: the same configuration, or the same error. -/
theorem apply_merge {o₁ : Overrides} {b c₁ : LineConfig} (h : o₁.apply b = .ok c₁)
    (o₂ : Overrides) : o₂.apply c₁ = (o₁.merge o₂).apply b := by
  obtain ⟨h1, h2, h3, h4, h5, h6, h7⟩ := reads_of_apply_ok h
  simp only [Overrides.apply, Overrides.merge, ← readOr_orElse h1, ← readOr_orElse h2,
    ← readOr_orElse h3, ← readOr_orElse h4, ← readOr_orElse h5, ← readOr_orElse h6,
    ← readOr_orElse h7]

/-- Merging overrides with themselves gives them back. -/
theorem merge_self (o : Overrides) : o.merge o = o := by
  cases o
  simp [Overrides.merge]

/-- Overrides applied to what they gave change nothing. -/
theorem apply_again {o : Overrides} {b c : LineConfig} (h : o.apply b = .ok c) :
    o.apply c = .ok c := by
  rw [apply_merge h o, merge_self, h]

/-- Overrides that supply no setting give the base back, whatever it is. -/
theorem apply_of_isEmpty {o : Overrides} (h : o.isEmpty = true) (b : LineConfig) :
    o.apply b = .ok b := by
  obtain ⟨_, _, _, _, _, _, _⟩ := o
  simp only [isEmpty, Bool.and_eq_true, Option.isNone_iff_eq_none] at h
  obtain ⟨⟨⟨⟨⟨⟨rfl, rfl⟩, rfl⟩, rfl⟩, rfl⟩, rfl⟩, rfl⟩ := h
  rfl

/-- Overrides compose: for every base, applying `o₂` to what applying `o₁` gave is applying the
merge of the two, each setting taken from `o₂` when it supplies one and from `o₁` otherwise, with
the same configuration or the same error. In particular overrides applied again to their result
change nothing, and overrides that supply nothing change no base. -/
theorem apply_composes :
    (∀ (b c₁ : LineConfig) (o₁ o₂ : Overrides), o₁.apply b = .ok c₁ →
      o₂.apply c₁ = (o₁.merge o₂).apply b) ∧
    (∀ (b c : LineConfig) (o : Overrides), o.apply b = .ok c → o.apply c = .ok c) ∧
    (∀ (b : LineConfig) (o : Overrides), o.isEmpty = true → o.apply b = .ok b) :=
  ⟨fun _ _ _ o₂ h => apply_merge h o₂, fun _ _ _ h => apply_again h,
    fun b _ h => apply_of_isEmpty h b⟩

/-- A byte size of 9 asked for after a speed of 115200 is refused the same way whether the two
requests are applied one after the other or merged. -/
theorem later_refusal_composes :
    ({ baudrate := some 115200 } : Overrides).apply LineConfig.default =
        .ok { LineConfig.default with baudrate := 115200 } ∧
      ({ byteSize := some 9 } : Overrides).apply { LineConfig.default with baudrate := 115200 } =
        (({ baudrate := some 115200 } : Overrides).merge { byteSize := some 9 }).apply
          LineConfig.default := by
  have h : ({ baudrate := some 115200 } : Overrides).apply LineConfig.default =
      .ok { LineConfig.default with baudrate := 115200 } := rfl
  exact ⟨h, apply_composes.1 _ _ _ _ h⟩

end Overrides

end SerialHub.Line
