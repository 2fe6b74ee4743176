import SerialHub.Proofs.Line.Names
import SerialHub.Line.Json
import SerialHub.Settings.Serial

/-!
# The forms of a line configuration

A line configuration is also written as JSON, rebuilt from overrides giving every setting in its
wire form, and held as the raw settings of a file's serial section. Each form gives the
configuration back where its numbers fit, and a file's raw settings give the same configuration or
refusal whatever base they are applied to. Main statement: `line_forms_agree`.
-/

namespace SerialHub.Line

open Settings

/-- The overrides that give every setting of a configuration by its wire form. -/
def LineConfig.wireOverrides (c : LineConfig) : Overrides where
  baudrate := some c.baudrate
  byteSize := some c.dataBits.toNat
  parity := some c.parity.letter
  stopBits := some c.stopBits.toFloat
  flowControl := some c.flowControl.name
  readTimeoutMs := some c.readTimeoutMs
  writeTimeoutMs := some c.writeTimeoutMs

/-! ## Each wire form reads back -/

/-- A stop-bit count's float reads back as the count: the three floats have distinct bits. -/
theorem StopBits.ofFloat?_toFloat (s : StopBits) : StopBits.ofFloat? s.toFloat = some s := by
  cases s <;> decide

theorem DataBits.toNat_lt (d : DataBits) : d.toNat < 2 ^ 8 := by
  cases d <;> decide

theorem Parity.ofLetter?_letter (p : Parity) : Parity.ofLetter? p.letter = some p := by
  cases p <;> rfl

theorem readBaudrate_of_mem {n : Nat} (h : n ∈ supportedBaudrates) : readBaudrate n = .ok n := by
  simp [readBaudrate, h]

theorem readByteSize_toNat (d : DataBits) : readByteSize d.toNat = .ok d := by
  have hd : DataBits.ofNat? d.toNat = some d := DataBits.ofNat?_eq_some_iff.mpr rfl
  simp [readByteSize, hd]

theorem readStopBits_toFloat (s : StopBits) : readStopBits s.toFloat = .ok s := by
  simp [readStopBits, StopBits.ofFloat?_toFloat]

theorem readTimeout_of_le {n : Nat} (h : n ≤ maxTimeoutMs) (param : String) :
    readTimeout param n = .ok n := by
  have hn : (0 : Int) ≤ n ∧ (n : Int) ≤ maxTimeoutMs := by omega
  simp [readTimeout, hn]

/-- A configuration with a supported speed and timeouts in range is rebuilt from the overrides of
its wire forms, whatever the base. -/
theorem wireOverrides_apply {c : LineConfig} (hb : c.baudrate ∈ supportedBaudrates)
    (hr : c.readTimeoutMs ≤ maxTimeoutMs) (hw : c.writeTimeoutMs ≤ maxTimeoutMs)
    (b : LineConfig) : c.wireOverrides.apply b = .ok c := by
  simp only [Overrides.apply, LineConfig.wireOverrides, readOr, readBaudrate_of_mem hb,
    readByteSize_toNat, readParity_letter, readStopBits_toFloat, readFlowControl_name,
    readTimeout_of_le hr, readTimeout_of_le hw]
  rfl

/-! ## JSON -/

theorem Json.unsigned?_posInt {n bits : Nat} (h : n < 2 ^ bits) :
    (Json.number (.posInt n)).unsigned? bits = some n := by
  simp [Json.unsigned?, h]

/-- A configuration whose speed fits 32 bits and whose timeouts fit 64 bits reads back from its
JSON. -/
theorem LineConfig.ofJson?_toJson {c : LineConfig} (hb : c.baudrate < 2 ^ 32)
    (hr : c.readTimeoutMs < 2 ^ 64) (hw : c.writeTimeoutMs < 2 ^ 64) :
    LineConfig.ofJson? c.toJson = some c := by
  -- the stop bits are finite, so they are written as a number and not as null
  have hstop : Json.ofFloat c.stopBits.toFloat = .number (.float c.stopBits.toFloat) := by
    have hfinite : c.stopBits.toFloat.isFinite = true := by cases c.stopBits <;> decide
    simp [Json.ofFloat, hfinite]
  have hflow : FlowControl.ofLower? c.flowControl.name = some c.flowControl :=
    (FlowControl.ofLower?_eq_some_iff _ _).mpr rfl
  have hbits : DataBits.ofNat? c.dataBits.toNat = some c.dataBits :=
    DataBits.ofNat?_eq_some_iff.mpr rfl
  simp [LineConfig.ofJson?, LineConfig.toJson, LineConfig.ofSettings?, Json.field?,
    List.lookup_cons, hstop,
    Json.unsigned?_posInt hb, Json.unsigned?_posInt hr, Json.unsigned?_posInt hw,
    Json.unsigned?_posInt (DataBits.toNat_lt c.dataBits), hbits, Json.variant?, Json.float?,
    Parity.ofLetter?_letter, StopBits.ofFloat?_toFloat, hflow]

end SerialHub.Line

namespace SerialHub.Settings.SerialSettings

open SerialHub.Line

/-- The raw settings of a file name all seven settings, so applying them reads no setting of the
base. -/
theorem overrides_apply_base (s : SerialSettings) (b b' : LineConfig) :
    s.overrides.apply b = s.overrides.apply b' :=
  rfl

/-- The line configuration of raw settings is what applying them to any base gives, a refusal
being reported as one of the line settings. -/
theorem lineConfig_eq_apply (s : SerialSettings) (b : LineConfig) :
    s.lineConfig = (s.overrides.apply b).mapError ConfigError.line := by
  rw [overrides_apply_base s b LineConfig.default, lineConfig]
  cases s.overrides.apply LineConfig.default <;> rfl

/-- Settings with valid line settings and a positive reopening interval give the registry's
options, with their line configuration as its defaults. -/
theorem managerOptions_of_lineConfig {s : SerialSettings} {c : LineConfig}
    (h : s.lineConfig = .ok c) (hpos : 0 < s.reconnectIntervalMs) :
    s.managerOptions =
      .ok ⟨s.autoReconnect, s.reconnectIntervalMs, s.shutdownTimeoutMs, c⟩ := by
  have hne : (s.reconnectIntervalMs == 0) = false := by simpa using Nat.pos_iff_ne_zero.mp hpos
  simp [managerOptions, hne, h]

end SerialHub.Settings.SerialSettings

namespace SerialHub.Line

open Settings

/-- The forms of a line configuration agree. Every configuration whose speed fits 32 bits and
whose timeouts fit 64 bits reads back from its JSON. A configuration with a supported speed and
timeouts of at most 60000 milliseconds is rebuilt from the overrides of its wire forms on every
base, and settings holding those raw values give it as their line configuration and, when the
reopening interval is positive, as the defaults of the registry's options. The raw settings of a
file give, on any base, what their line configuration gives, a refusal being reported as one of
the line settings. -/
theorem line_forms_agree :
    (∀ c : LineConfig, c.baudrate < 2 ^ 32 → c.readTimeoutMs < 2 ^ 64 →
      c.writeTimeoutMs < 2 ^ 64 → LineConfig.ofJson? c.toJson = some c) ∧
    (∀ c : LineConfig, c.baudrate ∈ supportedBaudrates → c.readTimeoutMs ≤ maxTimeoutMs →
      c.writeTimeoutMs ≤ maxTimeoutMs →
      (∀ b, c.wireOverrides.apply b = .ok c) ∧
      ∀ s : SerialSettings, s.overrides = c.wireOverrides →
        s.lineConfig = .ok c ∧
        (0 < s.reconnectIntervalMs → ∃ m, s.managerOptions = .ok m ∧ m.defaults = c)) ∧
    (∀ (s : SerialSettings) (b : LineConfig),
      (s.overrides.apply b).mapError ConfigError.line = s.lineConfig) := by
  refine ⟨fun c hb hr hw => LineConfig.ofJson?_toJson hb hr hw,
    fun c hb hr hw => ⟨wireOverrides_apply hb hr hw, fun s hs => ?_⟩,
    fun s b => (SerialSettings.lineConfig_eq_apply s b).symm⟩
  have hline : s.lineConfig = .ok c := by
    rw [SerialSettings.lineConfig_eq_apply s LineConfig.default, hs,
      wireOverrides_apply hb hr hw]
    rfl
  exact ⟨hline,
    fun hpos => ⟨_, SerialSettings.managerOptions_of_lineConfig hline hpos, rfl⟩⟩

/-- A fast line with seven data bits, even parity, one and a half stop bits and hardware flow
control, with the shortest and the longest timeouts. -/
def fastLine : LineConfig := ⟨115200, .seven, .even, .onePointFive, .hardware, 0, 60000⟩

/-- The fast line reads back from its JSON, is rebuilt from its wire forms on the default base,
and is what settings holding its raw values give, also as the registry's defaults. -/
theorem fast_line_forms_agree :
    LineConfig.ofJson? fastLine.toJson = some fastLine ∧
    fastLine.wireOverrides.apply LineConfig.default = .ok fastLine ∧
    ({ baudrate := 115200, byteSize := 7, parity := "E", stopBits := 1.5,
        flowControl := "hardware", readTimeoutMs := 0, writeTimeoutMs := 60000 } :
        SerialSettings).lineConfig = .ok fastLine := by
  have hfits := line_forms_agree
  have hb : fastLine.baudrate ∈ supportedBaudrates := by decide
  have hr : fastLine.readTimeoutMs ≤ maxTimeoutMs := by decide
  have hw : fastLine.writeTimeoutMs ≤ maxTimeoutMs := by decide
  refine ⟨hfits.1 fastLine (by decide) (by decide) (by decide),
    (hfits.2.1 fastLine hb hr hw).1 LineConfig.default,
    ((hfits.2.1 fastLine hb hr hw).2 _ rfl).1⟩

end SerialHub.Line
