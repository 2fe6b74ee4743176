import SerialHub.Proofs.Settings.Overriding
import SerialHub.Proofs.Keyed
import SerialHub.Settings.Loader

/-!
# The defaults under an environment

Without a file the environment is applied to the defaults and a refused value is ignored, but what
was applied before it stays: the result is the defaults overwritten by the whole environment when
it refuses nothing, and by the part of it read before the refused variable otherwise. Main
statement: `withDefaults_keeps_overrides_before_refusal`.
-/

namespace SerialHub.Settings

/-- The variables read before a given one, in the order the overrides are applied. -/
def variablesBefore (var : String) : List String :=
  (overrides.map fun o => variableName o.key).takeWhile (· ≠ var)

/-- The part of an environment whose variables are read before a given one. -/
def Environment.keepBefore (env : Environment) (var : String) : Environment :=
  env.filter fun p => p.1 ∈ variablesBefore var

theorem variableName_injective : Function.Injective variableName :=
  fun _ _ h => (String.append_right_inj _).mp h

/-- Looking a name up among the entries whose names pass a test. -/
theorem lookup_filter_name (q : String → Bool) (env : Environment) (name : String) :
    (env.filter fun p => q p.1).lookup name = if q name then env.lookup name else none := by
  induction env with
  | nil => simp
  | cons p rest ih =>
    obtain ⟨n, v⟩ := p
    -- the head entry answers the name exactly when it is kept and carries the name
    by_cases h : name = n
    · subst h
      by_cases hn : q name = true <;> simp [hn, ih]
    · by_cases hn : q n = true <;> simp [hn, h, Keyed.lookup_cons_ite, ih]

theorem Environment.keepBefore_get? (env : Environment) (var key : String) :
    (env.keepBefore var).get? key =
      if variableName key ∈ variablesBefore var then env.get? key else none := by
  rw [Environment.keepBefore, Environment.get?, Environment.get?,
    lookup_filter_name (fun n => decide (n ∈ variablesBefore var))]
  simp

section Split

variable {pre post : List Override} {o : Override}

/-- Around an override, the overrides before it and those from it on read distinct variables. -/
theorem key_not_mem_before (hsplit : overrides = pre ++ o :: post) :
    ∀ o' ∈ o :: post, o'.key ∉ pre.map Override.key := by
  have hnodup := overrides_keys_nodup
  rw [hsplit, List.map_append, List.nodup_append] at hnodup
  intro o' ho' hmem
  exact hnodup.2.2 _ hmem _ (List.mem_map_of_mem ho') rfl

/-- The variables read before an override's own are those of the overrides before it. -/
theorem variablesBefore_of_split (hsplit : overrides = pre ++ o :: post) :
    variablesBefore (variableName o.key) = pre.map fun o' => variableName o'.key := by
  have hbefore : ∀ o' ∈ pre, variableName o'.key ≠ variableName o.key := by
    intro o' ho' h
    exact key_not_mem_before hsplit o (by simp)
      (List.mem_map.mpr ⟨o', ho', variableName_injective h⟩)
  rw [variablesBefore, hsplit, List.map_append, List.map_cons,
    List.takeWhile_append_of_pos (by simpa using hbefore),
    List.takeWhile_cons_of_neg (by simp), List.append_nil]

/-- Keeping the variables read before an override's own, the overrides before it read what they
read in the whole environment, and those from it on read nothing. -/
theorem keepBefore_split (env : Environment) (hsplit : overrides = pre ++ o :: post) :
    (∀ o' ∈ pre, (env.keepBefore (variableName o.key)).get? o'.key = env.get? o'.key) ∧
    (∀ o' ∈ o :: post, (env.keepBefore (variableName o.key)).get? o'.key = none) := by
  refine ⟨fun o' ho' => ?_, fun o' ho' => ?_⟩
  · rw [Environment.keepBefore_get?, variablesBefore_of_split hsplit, if_pos]
    exact List.mem_map_of_mem ho'
  · rw [Environment.keepBefore_get?, variablesBefore_of_split hsplit, if_neg]
    intro hmem
    obtain ⟨o'', ho'', h⟩ := List.mem_map.mp hmem
    exact key_not_mem_before hsplit o' ho'
      (List.mem_map.mpr ⟨o'', ho'', variableName_injective h⟩)

end Split

/-- Applying an environment that refuses a variable's value reaches what applying the part of it
read before that variable reaches, and that part refuses nothing. -/
theorem applyEnvironment_keepBefore {env : Environment} {c c' : Config}
    {var value expected : String}
    (h : applyEnvironment env c = (c', some (.env var value expected))) :
    applyEnvironment (env.keepBefore var) c = (c', none) := by
  obtain ⟨pre, o, post, hsplit, hpre, -, raw, expected', -, he⟩ := applyEnvironment_stops_at h
  -- the refusal names the refused override's own variable
  obtain rfl : var = variableName o.key := (ConfigError.env.inj he).1
  obtain ⟨hsame, hunset⟩ := keepBefore_split env hsplit
  have hbefore : applyOverrides (env.keepBefore (variableName o.key)) pre c = (c', none) := by
    rw [applyOverrides_congr hsame, hpre]
  rw [applyEnvironment, hsplit, applyOverrides_append_of_ok hbefore]
  exact applyOverrides_of_unset hunset c'

/-- The defaults under an environment are the defaults overwritten by the whole environment when
it refuses nothing, and by the part of it read before the refused variable otherwise: what was
applied before a refusal is kept. -/
theorem withDefaults_keeps_overrides_before_refusal (env : Environment) :
    ((applyEnvironment env {}).2 = none → withDefaults env = env.overwrite {}) ∧
    ∀ var value expected, (applyEnvironment env {}).2 = some (.env var value expected) →
      withDefaults env = (env.keepBefore var).overwrite {} := by
  refine ⟨fun h => by rw [withDefaults, applyEnvironment_of_accepted h],
    fun var value expected h => ?_⟩
  have hrefused : applyEnvironment env {} = (withDefaults env, some (.env var value expected)) :=
    Prod.ext rfl h
  exact applyEnvironment_eq_overwrite (applyEnvironment_keepBefore hrefused)

/-- A speed and a byte count that is no number. -/
def speedThenBadSize : Environment :=
  [("UART_MCP_SERIAL_BAUDRATE", "115200"), ("UART_MCP_TERMINAL_BUFFER_SIZE", "lots")]

/-- The defaults keep every variable of an accepted environment, and the speed read before a
refused byte count. -/
theorem defaults_keep_speed_before_bad_size :
    withDefaults [("UART_MCP_SERIAL_BAUDRATE", "115200")] =
      Environment.overwrite [("UART_MCP_SERIAL_BAUDRATE", "115200")] {} ∧
    withDefaults speedThenBadSize =
      (speedThenBadSize.keepBefore "UART_MCP_TERMINAL_BUFFER_SIZE").overwrite {} :=
  ⟨(withDefaults_keeps_overrides_before_refusal _).1 (by decide +kernel),
    (withDefaults_keeps_overrides_before_refusal _).2 _ "lots" "a byte count" (by decide +kernel)⟩

/-- The byte count is refused, yet the defaults keep the speed read before it. -/
theorem defaults_not_reset_by_bad_size :
    (applyEnvironment speedThenBadSize {}).2 =
      some (.env "UART_MCP_TERMINAL_BUFFER_SIZE" "lots" "a byte count") ∧
    (withDefaults speedThenBadSize).serial.baudrate = 115200 ∧
    withDefaults speedThenBadSize ≠ {} := by
  decide +kernel

end SerialHub.Settings
