import SerialHub.Settings.Environment
import Mathlib.Data.List.Basic

/-!
# Applying an environment

Each override reads its own variable only, refuses a value only by naming that variable and
quoting the value, and refuses the same whatever the configuration; a run of overrides stops at
the first refusal. An environment that refuses nothing overwrites, as `Environment.overwrite` says,
every setting whose variable is set. Main statements: `applyEnvironment_of_accepted` and
`applyEnvironment_stops_at`.
-/

namespace SerialHub.Settings

variable {env env' : Environment} {c c' : Config}

/-- The value of a variable read as a setting's type after trimming, when it is set and read. -/
def Environment.read? {α : Type} (env : Environment) (read : String → Option α) (key : String) :
    Option α :=
  (env.get? key).bind fun raw => read (Text.trim raw)

/-- The entries an environment appends to the blacklist. -/
def Environment.blacklistEntries (env : Environment) : List String :=
  ((env.get? "SERIAL_BLACKLIST").map listEntries).getD []

/-- What an environment makes of a configuration when it refuses none of its values: every
setting whose variable is set takes the variable's value, and the blacklist's entries are
appended. -/
def Environment.overwrite (env : Environment) (c : Config) : Config where
  serial := { c.serial with
    baudrate := (env.read? (Text.readUnsigned? 32) "SERIAL_BAUDRATE").getD c.serial.baudrate
    parity := (env.get? "SERIAL_PARITY").getD c.serial.parity
    readTimeoutMs :=
      (env.read? (Text.readSigned? 64) "SERIAL_READ_TIMEOUT_MS").getD c.serial.readTimeoutMs
    writeTimeoutMs :=
      (env.read? (Text.readSigned? 64) "SERIAL_WRITE_TIMEOUT_MS").getD c.serial.writeTimeoutMs
    autoReconnect := ((env.get? "SERIAL_AUTO_RECONNECT").map readFlag).getD c.serial.autoReconnect
    reconnectIntervalMs := (env.read? (Text.readUnsigned? 64) "SERIAL_RECONNECT_INTERVAL_MS").getD
      c.serial.reconnectIntervalMs
    blacklist := c.serial.blacklist ++ env.blacklistEntries }
  terminal := { c.terminal with
    lineEnding := (env.get? "TERMINAL_LINE_ENDING").getD c.terminal.lineEnding
    localEcho := ((env.get? "TERMINAL_LOCAL_ECHO").map readFlag).getD c.terminal.localEcho
    bufferSize :=
      (env.read? (Text.readUnsigned? 64) "TERMINAL_BUFFER_SIZE").getD c.terminal.bufferSize }
  logging := { c.logging with
    level := (env.get? "LOGGING_LEVEL").getD c.logging.level
    format := ((env.get? "LOGGING_FORMAT").bind fun raw =>
      LogFormat.ofName? (Text.asciiLower raw)).getD c.logging.format }

theorem getD_getD_self {α : Type} (x : Option α) (d : α) : x.getD (x.getD d) = x.getD d := by
  cases x <;> rfl

/-- Overwriting twice overwrites once, except that the blacklist's entries are appended twice. -/
theorem Environment.overwrite_overwrite (env : Environment) (c : Config) :
    env.overwrite (env.overwrite c) =
      { env.overwrite c with serial := { (env.overwrite c).serial with
        blacklist := (env.overwrite c).serial.blacklist ++ env.blacklistEntries } } := by
  simp [Environment.overwrite, getD_getD_self]

/-! ## One override -/

namespace Override

variable {o : Override}

theorem run_of_unset (h : env.get? o.key = none) (c : Config) : o.run env c = .ok c := by
  simp [run, h]

theorem run_of_set {raw : String} (h : env.get? o.key = some raw) (c : Config) :
    o.run env c = o.apply raw c := by
  simp [run, h]

/-- An override reads nothing of the environment but its own variable. -/
theorem run_congr (h : env.get? o.key = env'.get? o.key) (c : Config) :
    o.run env c = o.run env' c := by
  simp [run, h]

/-- What an override makes of a configuration, the configuration itself when it refuses. -/
def effect (o : Override) (env : Environment) (c : Config) : Config :=
  match o.run env c with
  | .ok c' => c'
  | .error _ => c

theorem effect_of_ok (h : o.run env c = .ok c') : o.effect env c = c' := by
  simp [effect, h]

/-- An override refuses a value whatever the configuration, naming its own variable and quoting
the value as given. -/
def RefusesByValue (o : Override) : Prop :=
  ∀ raw c c' e, o.apply raw c = .error e →
    o.apply raw c' = .error e ∧ ∃ expected, e = .env (variableName o.key) raw expected

/-- An override that refuses by value refuses under an environment whatever the configuration. -/
theorem RefusesByValue.run_error (ho : o.RefusesByValue) {e : ConfigError}
    (h : o.run env c = .error e) (c' : Config) : o.run env c' = .error e := by
  cases hv : env.get? o.key with
  | none => simp [run_of_unset hv] at h
  | some raw =>
    rw [run_of_set hv] at h ⊢
    exact (ho raw c c' e h).1

/-- A refusal under an environment names the variable and quotes its value. -/
theorem RefusesByValue.run_error_names (ho : o.RefusesByValue) {e : ConfigError}
    (h : o.run env c = .error e) :
    ∃ raw expected, env.get? o.key = some raw ∧ e = .env (variableName o.key) raw expected := by
  cases hv : env.get? o.key with
  | none => simp [run_of_unset hv] at h
  | some raw =>
    rw [run_of_set hv] at h
    obtain ⟨expected, he⟩ := (ho raw c c e h).2
    exact ⟨raw, expected, rfl, he⟩

end Override

/-! ## The kinds of override -/

section Kinds

variable {α : Type}

theorem numberOverride_effect (read : String → Option α) (key expected : String)
    (field : ConfigField α) (c : Config) :
    (numberOverride read key expected field).effect env c =
      field.set ((env.read? read key).getD (field.get c)) c := by
  simp only [Override.effect, Override.run, Environment.read?, numberOverride]
  cases env.get? key with
  | none => simp [field.set_get]
  | some raw => cases hv : read (Text.trim raw) <;> simp [hv, field.set_get]

theorem textOverride_effect (key : String) (field : ConfigField String) (c : Config) :
    (textOverride key field).effect env c = field.set ((env.get? key).getD (field.get c)) c := by
  simp only [Override.effect, Override.run, textOverride]
  cases env.get? key <;> simp [field.set_get]

theorem flagOverride_effect (key : String) (field : ConfigField Bool) (c : Config) :
    (flagOverride key field).effect env c =
      field.set (((env.get? key).map readFlag).getD (field.get c)) c := by
  simp only [Override.effect, Override.run, flagOverride]
  cases env.get? key <;> simp [field.set_get]

theorem blacklistOverride_effect (c : Config) :
    blacklistOverride.effect env c =
      { c with serial := { c.serial with
        blacklist := c.serial.blacklist ++ env.blacklistEntries } } := by
  simp only [Override.effect, Override.run, blacklistOverride, Environment.blacklistEntries]
  cases env.get? "SERIAL_BLACKLIST" <;> simp

theorem logFormatOverride_effect (c : Config) :
    logFormatOverride.effect env c =
      { c with logging := { c.logging with
        format := ((env.get? "LOGGING_FORMAT").bind fun raw =>
          LogFormat.ofName? (Text.asciiLower raw)).getD c.logging.format } } := by
  simp only [Override.effect, Override.run, logFormatOverride]
  cases env.get? "LOGGING_FORMAT" with
  | none => simp
  | some raw => cases hf : LogFormat.ofName? (Text.asciiLower raw) <;> simp [hf]

theorem numberOverride_refusesByValue (read : String → Option α) (key expected : String)
    (field : ConfigField α) : (numberOverride read key expected field).RefusesByValue := by
  intro raw c c' e h
  simp only [numberOverride] at h ⊢
  cases hr : read (Text.trim raw) with
  | none =>
    rw [hr] at h
    cases h
    exact ⟨rfl, expected, rfl⟩
  | some v => simp [hr] at h

/-- An override that takes every value refuses nothing, so it refuses by value. -/
theorem refusesByValue_of_ok {o : Override} (h : ∀ raw c, ∃ c', o.apply raw c = .ok c') :
    o.RefusesByValue := by
  intro raw c c' e herror
  obtain ⟨c₁, hok⟩ := h raw c
  rw [hok] at herror
  cases herror

theorem textOverride_refusesByValue (key : String) (field : ConfigField String) :
    (textOverride key field).RefusesByValue :=
  refusesByValue_of_ok fun _ _ => ⟨_, rfl⟩

theorem flagOverride_refusesByValue (key : String) (field : ConfigField Bool) :
    (flagOverride key field).RefusesByValue :=
  refusesByValue_of_ok fun _ _ => ⟨_, rfl⟩

theorem blacklistOverride_refusesByValue : blacklistOverride.RefusesByValue :=
  refusesByValue_of_ok fun _ _ => ⟨_, rfl⟩

theorem logFormatOverride_refusesByValue : logFormatOverride.RefusesByValue := by
  intro raw c c' e h
  simp only [logFormatOverride] at h ⊢
  cases hf : LogFormat.ofName? (Text.asciiLower raw) with
  | none =>
    rw [hf] at h
    cases h
    exact ⟨rfl, _, rfl⟩
  | some f => simp [hf] at h

end Kinds

/-- Every override refuses by value alone. -/
theorem overrides_refuse_by_value : ∀ o ∈ overrides, o.RefusesByValue := by
  simp only [overrides, List.mem_cons, List.not_mem_nil, or_false]
  rintro o (rfl | rfl | rfl | rfl | rfl | rfl | rfl | rfl | rfl | rfl | rfl | rfl)
  all_goals first
    | exact numberOverride_refusesByValue _ _ _ _
    | exact textOverride_refusesByValue _ _
    | exact flagOverride_refusesByValue _ _
    | exact blacklistOverride_refusesByValue
    | exact logFormatOverride_refusesByValue

/-- The overrides read distinct variables. -/
theorem overrides_keys_nodup : (overrides.map Override.key).Nodup := by
  decide +kernel

/-! ## Runs of overrides -/

section Runs

variable {o : Override} {os : List Override}

theorem applyOverrides_cons_of_ok {c₁ : Config} (h : o.run env c = .ok c₁) :
    applyOverrides env (o :: os) c = applyOverrides env os c₁ := by
  simp [applyOverrides, h]

theorem applyOverrides_cons_of_error {e : ConfigError} (h : o.run env c = .error e) :
    applyOverrides env (o :: os) c = (c, some e) := by
  simp [applyOverrides, h]

/-- A run over an append runs the second part from where the first stopped, unless the first
refused. -/
theorem applyOverrides_append (os₁ os₂ : List Override) (c : Config) :
    applyOverrides env (os₁ ++ os₂) c =
      match applyOverrides env os₁ c with
      | (c₁, none) => applyOverrides env os₂ c₁
      | r => r := by
  induction os₁ generalizing c with
  | nil => rfl
  | cons o os ih =>
    cases hr : o.run env c with
    | ok c₁ =>
      rw [List.cons_append, applyOverrides_cons_of_ok hr, applyOverrides_cons_of_ok hr, ih]
    | error e =>
      rw [List.cons_append, applyOverrides_cons_of_error hr, applyOverrides_cons_of_error hr]

theorem applyOverrides_append_of_ok {os₁ os₂ : List Override} {c₁ : Config}
    (h : applyOverrides env os₁ c = (c₁, none)) :
    applyOverrides env (os₁ ++ os₂) c = applyOverrides env os₂ c₁ := by
  rw [applyOverrides_append, h]

/-- Overrides whose variables are not set change nothing. -/
theorem applyOverrides_of_unset (h : ∀ o ∈ os, env.get? o.key = none) (c : Config) :
    applyOverrides env os c = (c, none) := by
  induction os with
  | nil => rfl
  | cons o os ih =>
    rw [applyOverrides_cons_of_ok (Override.run_of_unset (h o (by simp)) c)]
    exact ih fun o' ho' => h o' (by simp [ho'])

/-- Overrides read nothing of the environment but their own variables. -/
theorem applyOverrides_congr (h : ∀ o ∈ os, env.get? o.key = env'.get? o.key) (c : Config) :
    applyOverrides env os c = applyOverrides env' os c := by
  induction os generalizing c with
  | nil => rfl
  | cons o os ih =>
    have hrun := Override.run_congr (h o (by simp)) c
    have hrest : ∀ o' ∈ os, env.get? o'.key = env'.get? o'.key :=
      fun o' ho' => h o' (by simp [ho'])
    cases hr : o.run env' c with
    | ok c₁ =>
      rw [applyOverrides_cons_of_ok (hrun.trans hr), applyOverrides_cons_of_ok hr, ih hrest]
    | error e =>
      rw [applyOverrides_cons_of_error (hrun.trans hr), applyOverrides_cons_of_error hr]

/-- A run with no refusal makes of a configuration what its overrides make of it one after
another. -/
theorem applyOverrides_of_accepted (h : (applyOverrides env os c).2 = none) :
    applyOverrides env os c = (os.foldl (fun c o => o.effect env c) c, none) := by
  induction os generalizing c with
  | nil => rfl
  | cons o os ih =>
    cases hr : o.run env c with
    | ok c₁ =>
      rw [applyOverrides_cons_of_ok hr] at h ⊢
      rw [ih h, List.foldl_cons, Override.effect_of_ok hr]
    | error e => simp [applyOverrides_cons_of_error hr] at h

/-- A run that refuses stopped at one override, after the overrides before it ran. -/
theorem applyOverrides_eq_refusal {e : ConfigError} (h : applyOverrides env os c = (c', some e)) :
    ∃ pre o post, os = pre ++ o :: post ∧ applyOverrides env pre c = (c', none) ∧
      o.run env c' = .error e := by
  induction os generalizing c with
  | nil => simp [applyOverrides] at h
  | cons o os ih =>
    cases hr : o.run env c with
    | ok c₁ =>
      rw [applyOverrides_cons_of_ok hr] at h
      obtain ⟨pre, o', post, rfl, hpre, hrefused⟩ := ih h
      exact ⟨o :: pre, o', post, rfl, by rw [applyOverrides_cons_of_ok hr, hpre], hrefused⟩
    | error e' =>
      rw [applyOverrides_cons_of_error hr] at h
      simp only [Prod.mk.injEq, Option.some.injEq] at h
      obtain ⟨rfl, rfl⟩ := h
      exact ⟨[], o, os, rfl, rfl, hr⟩

/-- Overrides that refuse by value refuse the same way on every configuration. -/
theorem applyOverrides_refusal_eq (hos : ∀ o ∈ os, o.RefusesByValue) (c c' : Config) :
    (applyOverrides env os c).2 = (applyOverrides env os c').2 := by
  induction os generalizing c c' with
  | nil => rfl
  | cons o os ih =>
    have ho := hos o (by simp)
    have hrest : ∀ o' ∈ os, o'.RefusesByValue := fun o' ho' => hos o' (by simp [ho'])
    cases hr : o.run env c with
    | ok c₁ =>
      cases hr' : o.run env c' with
      | ok c₁' => rw [applyOverrides_cons_of_ok hr, applyOverrides_cons_of_ok hr', ih hrest]
      | error e => simp [ho.run_error hr' c] at hr
    | error e =>
      rw [applyOverrides_cons_of_error hr, applyOverrides_cons_of_error (ho.run_error hr c')]

end Runs

/-! ## The environment -/

/-- An environment that refuses none of its values overwrites the settings it names. -/
theorem applyEnvironment_of_accepted (h : (applyEnvironment env c).2 = none) :
    applyEnvironment env c = (env.overwrite c, none) := by
  rw [applyEnvironment, applyOverrides_of_accepted h]
  simp only [overrides, List.foldl_cons, List.foldl_nil, numberOverride_effect,
    textOverride_effect, flagOverride_effect, blacklistOverride_effect, logFormatOverride_effect]
  rfl

/-- What an environment that refuses nothing reaches is its overwrite. -/
theorem applyEnvironment_eq_overwrite (h : applyEnvironment env c = (c', none)) :
    c' = env.overwrite c := by
  rw [applyEnvironment_of_accepted (by rw [h])] at h
  exact (Prod.mk.inj h).1.symm

/-- Whether an environment refuses one of its values does not depend on the configuration. -/
theorem applyEnvironment_refusal_eq (env : Environment) (c c' : Config) :
    (applyEnvironment env c).2 = (applyEnvironment env c').2 :=
  applyOverrides_refusal_eq overrides_refuse_by_value c c'

/-- A refusal is made by one override, after the overrides before it ran, and names that
override's variable with its value as given. -/
theorem applyEnvironment_stops_at {e : ConfigError} (h : applyEnvironment env c = (c', some e)) :
    ∃ pre o post, overrides = pre ++ o :: post ∧ applyOverrides env pre c = (c', none) ∧
      o.run env c' = .error e ∧
      ∃ raw expected, env.get? o.key = some raw ∧
        e = .env (variableName o.key) raw expected := by
  obtain ⟨pre, o, post, hsplit, hpre, hrefused⟩ := applyOverrides_eq_refusal h
  have ho : o.RefusesByValue := overrides_refuse_by_value o (by simp [hsplit])
  exact ⟨pre, o, post, hsplit, hpre, hrefused, ho.run_error_names hrefused⟩

end SerialHub.Settings
