import SerialHub.Proofs.Settings.Overriding
import SerialHub.Proofs.Keyed
import SerialHub.Settings.Decode
import SerialHub.Settings.Encode

/-!
# A configuration as a table and back

Writing a configuration as a table fails exactly when an unsigned setting does not fit a file's
integers, and a written table reads back as the configuration when it holds what reading leaves: a
32-bit speed, an 8-bit character size and sorted port aliases. Main statements:
`Config.toTable_eq_error_iff` and `Config.ofTable?_of_toTable`.
-/

namespace SerialHub.Settings

open Toml

/-! ## Writing -/

/-- The unsigned settings of the serial section fit a file's integers. -/
def SerialSettings.Fits (s : SerialSettings) : Prop :=
  (s.reconnectIntervalMs : Int) ≤ maxInteger ∧ (s.shutdownTimeoutMs : Int) ≤ maxInteger

/-- The unsigned settings of the terminal section fit a file's integers. -/
def TerminalSettings.Fits (t : TerminalSettings) : Prop :=
  (t.bufferSize : Int) ≤ maxInteger ∧ (t.readIntervalMs : Int) ≤ maxInteger ∧
    (t.readTimeoutMs : Int) ≤ maxInteger ∧ (t.stopTimeoutMs : Int) ≤ maxInteger

/-- Every unsigned setting of a configuration fits a file's integers. -/
def Config.Fits (c : Config) : Prop :=
  c.serial.Fits ∧ c.terminal.Fits

instance : DecidablePred SerialSettings.Fits :=
  fun _ => inferInstanceAs (Decidable (_ ∧ _))

instance : DecidablePred TerminalSettings.Fits :=
  fun _ => inferInstanceAs (Decidable (_ ∧ _ ∧ _ ∧ _))

instance : DecidablePred Config.Fits :=
  fun _ => inferInstanceAs (Decidable (_ ∧ _))

theorem unsignedValue_of_le {n : Nat} (h : (n : Int) ≤ maxInteger) :
    unsignedValue n = .ok (.integer n) := by
  simp [unsignedValue, h]

theorem SerialSettings.toTable_of_not_fits {s : SerialSettings} (h : ¬ s.Fits) :
    s.toTable = .error .encode := by
  simp only [SerialSettings.toTable, unsignedValue, SerialSettings.Fits] at h ⊢
  split_ifs <;> simp_all [bind, Except.bind]

theorem TerminalSettings.toTable_of_not_fits {t : TerminalSettings} (h : ¬ t.Fits) :
    t.toTable = .error .encode := by
  simp only [TerminalSettings.toTable, unsignedValue, TerminalSettings.Fits] at h ⊢
  split_ifs <;> simp_all [bind, Except.bind]

theorem SerialSettings.fits_of_toTable {s : SerialSettings} {rows : List (String × Value)}
    (h : s.toTable = .ok rows) : s.Fits := by
  by_contra hfits
  rw [SerialSettings.toTable_of_not_fits hfits] at h
  cases h

theorem TerminalSettings.fits_of_toTable {t : TerminalSettings} {rows : List (String × Value)}
    (h : t.toTable = .ok rows) : t.Fits := by
  by_contra hfits
  rw [TerminalSettings.toTable_of_not_fits hfits] at h
  cases h

theorem SerialSettings.toTable_of_fits {s : SerialSettings} (h : s.Fits) :
    ∃ rows, s.toTable = .ok rows := by
  simp [SerialSettings.toTable, unsignedValue_of_le h.1, unsignedValue_of_le h.2, bind,
    Except.bind, pure, Except.pure]

theorem TerminalSettings.toTable_of_fits {t : TerminalSettings} (h : t.Fits) :
    ∃ rows, t.toTable = .ok rows := by
  simp [TerminalSettings.toTable, unsignedValue_of_le h.1, unsignedValue_of_le h.2.1,
    unsignedValue_of_le h.2.2.1, unsignedValue_of_le h.2.2.2, bind, Except.bind, pure, Except.pure]

/-- A configuration whose unsigned settings fit is written as a table. -/
theorem Config.toTable_of_fits {c : Config} (h : c.Fits) : ∃ rows, c.toTable = .ok rows := by
  obtain ⟨serial, hserial⟩ := SerialSettings.toTable_of_fits h.1
  obtain ⟨terminal, hterminal⟩ := TerminalSettings.toTable_of_fits h.2
  simp [Config.toTable, hserial, hterminal, bind, Except.bind, pure, Except.pure]

/-- Writing a configuration as a table fails, as an encoding failure, exactly when one of its
unsigned settings does not fit a file's integers. -/
theorem Config.toTable_eq_error_iff (c : Config) : c.toTable = .error .encode ↔ ¬ c.Fits := by
  by_cases hs : c.serial.Fits
  · by_cases ht : c.terminal.Fits
    · obtain ⟨rows, hrows⟩ := Config.toTable_of_fits ⟨hs, ht⟩
      simp [hrows, Config.Fits, hs, ht]
    · obtain ⟨rows, hrows⟩ := SerialSettings.toTable_of_fits hs
      simp [Config.toTable, hrows, TerminalSettings.toTable_of_not_fits ht, bind, Except.bind,
        Config.Fits, ht]
  · simp [Config.toTable, SerialSettings.toTable_of_not_fits hs, bind, Except.bind, Config.Fits,
      hs]

/-! ## Reading back -/

/-- What the serial section holds that a file cannot spoil: a speed of 32 bits, a character size
of 8 bits, and port aliases sorted by name, each name once. -/
def SerialSettings.Stored (s : SerialSettings) : Prop :=
  s.baudrate < 2 ^ 32 ∧ s.byteSize < 2 ^ 8 ∧ Keyed.Sorted s.portAliases

/-- A configuration holds what reading a file leaves: its serial section is stored. -/
def Config.Stored (c : Config) : Prop :=
  c.serial.Stored

theorem maxInteger_lt : maxInteger < 18446744073709551616 := by
  decide

theorem unsignedOf_of_lt {bits n : Nat} (h : n < 2 ^ bits) :
    unsignedOf bits (.integer n) = some n := by
  have hlt : (n : Int) < 2 ^ bits := by exact_mod_cast h
  have hrange : (0 : Int) ≤ n ∧ (n : Int) < Int.pow 2 bits := ⟨by omega, hlt⟩
  rw [unsignedOf, if_pos hrange]
  simp

theorem unsignedOf_of_fits {n : Nat} (h : (n : Int) ≤ maxInteger) :
    unsignedOf 64 (.integer n) = some n :=
  unsignedOf_of_lt (by have := maxInteger_lt; omega)

theorem textsOf_strings (l : List String) : textsOf (.array (l.map .string)) = some l := by
  induction l with
  | nil => rfl
  | cons s rest ih => simp_all [textsOf, textOf]

theorem logFormatOf_name (f : LogFormat) : logFormatOf (.string f.name) = some f := by
  cases f <;> rfl

/-- Inserting a key above every key of a list puts it last. -/
theorem Keyed.insert_of_lt {β : Type} {k : String} {v : β} {xs : List (String × β)}
    (h : ∀ p ∈ xs, p.1 < k) : Keyed.insert k v xs = xs ++ [(k, v)] := by
  induction xs with
  | nil => rfl
  | cons p rest ih =>
    obtain ⟨j, w⟩ := p
    have hjk : j < k := h (j, w) (by simp)
    have hnlt : ¬ k < j := fun hkj => absurd (lt_trans hkj hjk) (lt_irrefl k)
    have hne : (k == j) = false := by simpa using (ne_of_lt hjk).symm
    simp only [Keyed.insert, hnlt, hne, if_false, Bool.false_eq_true, List.cons_append]
    rw [ih fun p hp => h p (by simp [hp])]

/-- Inserting the pairs of a sorted list one by one, after pairs whose keys are all below them,
appends them. -/
theorem Keyed.foldl_insert_of_sorted {β : Type} {acc xs : List (String × β)}
    (hs : Keyed.Sorted (acc ++ xs)) :
    xs.foldl (fun acc (kv : String × β) => Keyed.insert kv.1 kv.2 acc) acc = acc ++ xs := by
  induction xs generalizing acc with
  | nil => simp
  | cons p rest ih =>
    have hlast : ∀ q ∈ acc, q.1 < p.1 :=
      fun q hq => (List.pairwise_append.mp hs).2.2 q hq p (by simp)
    have hs' : Keyed.Sorted ((acc ++ [p]) ++ rest) := by simpa using hs
    rw [List.foldl_cons, Keyed.insert_of_lt hlast, ih hs']
    simp

theorem aliasesOf_table {a : List (String × String)} (hs : Keyed.Sorted a) :
    aliasesOf (.table (a.map fun (k, v) => (k, .string v))) = some a := by
  have htexts : ∀ l : List (String × String),
      (l.map fun (k, v) => (k, Value.string v)).mapM
        (fun (kv : String × Value) => (textOf kv.2).map (kv.1, ·)) = some l := by
    intro l
    induction l with
    | nil => rfl
    | cons p rest ih =>
      rw [List.map_cons, List.mapM_cons, ih]
      rfl
  have hfold := Keyed.foldl_insert_of_sorted (show Keyed.Sorted ([] ++ a) by simpa using hs)
  simp only [aliasesOf, htexts, Option.map_some]
  simpa using hfold

theorem SerialSettings.ofTable_toTable {s : SerialSettings} {rows : List (String × Value)}
    (hs : s.Stored) (h : s.toTable = .ok rows) :
    sectionOf serialFields {} (.table rows) = some s := by
  obtain ⟨hr, hsd⟩ := SerialSettings.fits_of_toTable h
  simp only [SerialSettings.toTable, unsignedValue_of_le hr, unsignedValue_of_le hsd, bind,
    Except.bind, pure, Except.pure, Except.ok.injEq] at h
  subst h
  obtain ⟨hb, hbs, ha⟩ := hs
  cases hf : s.blacklistFile <;>
  simp [sectionOf, serialFields, List.lookup_cons, List.lookup_nil, unsignedOf_of_lt hb,
    unsignedOf_of_lt hbs, unsignedOf_of_fits hr, unsignedOf_of_fits hsd, textOf, floatOf,
    integerOf, boolOf, textsOf_strings, aliasesOf_table ha]
  all_goals
    cases s
    simp_all

theorem TerminalSettings.ofTable_toTable {t : TerminalSettings} {rows : List (String × Value)}
    (h : t.toTable = .ok rows) : sectionOf terminalFields {} (.table rows) = some t := by
  obtain ⟨hb, hi, hr, hs⟩ := TerminalSettings.fits_of_toTable h
  simp only [TerminalSettings.toTable, unsignedValue_of_le hb, unsignedValue_of_le hi,
    unsignedValue_of_le hr, unsignedValue_of_le hs, bind, Except.bind, pure, Except.pure,
    Except.ok.injEq] at h
  subst h
  simp [sectionOf, terminalFields, List.lookup_cons, List.lookup_nil, unsignedOf_of_fits hb,
    unsignedOf_of_fits hi, unsignedOf_of_fits hr, unsignedOf_of_fits hs, textOf, boolOf]

theorem LoggingConfig.ofTable_toTable (l : LoggingConfig) :
    sectionOf loggingFields {} (.table l.toTable) = some l := by
  simp [sectionOf, loggingFields, LoggingConfig.toTable, List.lookup_cons, List.lookup_nil, textOf,
    logFormatOf_name]

/-- A stored configuration reads back from the table it is written as. -/
theorem Config.ofTable?_of_toTable {c : Config} {rows : List (String × Value)} (hs : c.Stored)
    (h : c.toTable = .ok rows) : Config.ofTable? rows = some c := by
  cases hserial : c.serial.toTable with
  | error e => simp [Config.toTable, hserial, bind, Except.bind] at h
  | ok serial =>
    cases hterminal : c.terminal.toTable with
    | error e => simp [Config.toTable, hserial, hterminal, bind, Except.bind] at h
    | ok terminal =>
      simp only [Config.toTable, hserial, hterminal, bind, Except.bind, pure, Except.pure,
        Except.ok.injEq] at h
      subst h
      rw [Config.ofTable?, sectionOf]
      simp [configFields, List.lookup_cons, List.lookup_nil,
        SerialSettings.ofTable_toTable hs hserial, TerminalSettings.ofTable_toTable hterminal,
        LoggingConfig.ofTable_toTable]

/-! ## What reading leaves -/

/-- A fold whose every step keeps a property keeps it. -/
theorem foldlM_option_invariant {α σ : Type} {P : σ → Prop} {f : σ → α → Option σ}
    {l : List α} (hf : ∀ a ∈ l, ∀ s s', f s a = some s' → P s → P s') :
    ∀ {s s' : σ}, l.foldlM f s = some s' → P s → P s' := by
  induction l with
  | nil =>
    intro s s' h hs
    simp only [List.foldlM_nil, pure, Option.some.injEq] at h
    exact h ▸ hs
  | cons a rest ih =>
    intro s s' h hs
    simp only [List.foldlM_cons, bind, Option.bind_eq_some_iff] at h
    obtain ⟨s₁, h₁, hrest⟩ := h
    exact ih (fun a' ha' => hf a' (by simp [ha'])) hrest (hf a (by simp) s s₁ h₁ hs)

/-- A section read by fields that each keep a property has it, when its default has it. -/
theorem sectionOf_invariant {σ : Type} {P : σ → Prop} {fields : List (String × Field σ)}
    {d : σ} (hd : P d) (hf : ∀ p ∈ fields, ∀ v s s', p.2 v s = some s' → P s → P s')
    {v : Value} {s : σ} (h : sectionOf fields d v = some s) : P s := by
  cases v with
  | table es =>
    refine foldlM_option_invariant (fun kv _ s₁ s₂ hstep hs₁ => ?_) h hd
    cases hk : fields.lookup kv.1 with
    | none =>
      simp only [hk, Option.some.injEq] at hstep
      exact hstep ▸ hs₁
    | some f =>
      simp only [hk] at hstep
      exact hf (kv.1, f) (Keyed.mem_of_lookup hk) kv.2 s₁ s₂ hstep hs₁
  | array vs =>
    refine foldlM_option_invariant (fun fv hfv s₁ s₂ hstep hs₁ => ?_) h hd
    exact hf fv.1 (List.of_mem_zip hfv).1 fv.2 s₁ s₂ hstep hs₁
  | datetime dt =>
    simp only [sectionOf, Option.some.injEq] at h
    exact h ▸ hd
  | _ => simp [sectionOf] at h

theorem unsignedOf_lt {bits n : Nat} {v : Value} (h : unsignedOf bits v = some n) :
    n < 2 ^ bits := by
  cases v with
  | integer i =>
    simp only [unsignedOf] at h
    split_ifs at h with hrange
    cases h
    have hpow : Int.pow 2 bits = ((2 ^ bits : Nat) : Int) := by simp [Int.pow_eq]
    omega
  | _ => simp [unsignedOf] at h

theorem aliasesOf_sorted {v : Value} {a : List (String × String)} (h : aliasesOf v = some a) :
    Keyed.Sorted a := by
  cases v with
  | table es =>
    simp only [aliasesOf, Option.map_eq_some_iff] at h
    obtain ⟨kvs, -, rfl⟩ := h
    -- inserting one by one into the empty list keeps it sorted
    suffices ∀ acc : List (String × String), Keyed.Sorted acc →
        Keyed.Sorted (kvs.foldl (fun acc (k, v) => Keyed.insert k v acc) acc) from
      this [] Keyed.sorted_nil
    induction kvs with
    | nil => exact fun acc hacc => hacc
    | cons kv rest ih => exact fun acc hacc => ih _ (Keyed.sorted_insert _ _ hacc)
  | datetime dt =>
    simp only [aliasesOf, Option.some.injEq] at h
    subst h
    simp [Keyed.Sorted]
  | _ => simp [aliasesOf] at h

/-- Every setting of the serial section keeps it stored. -/
theorem serialFields_keep_stored :
    ∀ p ∈ serialFields, ∀ v (s s' : SerialSettings), p.2 v s = some s' → s.Stored →
      s'.Stored := by
  simp only [serialFields, List.mem_cons, List.not_mem_nil, or_false]
  rintro p (rfl | rfl | rfl | rfl | rfl | rfl | rfl | rfl | rfl | rfl | rfl | rfl | rfl) v s s' h hs
  all_goals
    simp only [Option.map_eq_some_iff] at h
    obtain ⟨x, hx, rfl⟩ := h
  · exact ⟨unsignedOf_lt hx, hs.2⟩
  · exact ⟨hs.1, unsignedOf_lt hx, hs.2.2⟩
  all_goals first
    | exact hs
    | exact ⟨hs.1, hs.2.1, aliasesOf_sorted hx⟩

/-- A configuration read from a table is stored. -/
theorem Config.ofTable?_stored {rows : List (String × Value)} {c : Config}
    (h : Config.ofTable? rows = some c) : c.Stored := by
  have hdefault : SerialSettings.Stored {} := ⟨by decide, by decide, Keyed.sorted_nil⟩
  refine sectionOf_invariant (P := Config.Stored) (d := {}) hdefault ?_ h
  simp only [configFields, List.mem_cons, List.not_mem_nil, or_false]
  rintro p (rfl | rfl | rfl) v c₁ c₂ hstep hc₁
  all_goals
    simp only [Option.map_eq_some_iff] at hstep
    obtain ⟨x, hx, rfl⟩ := hstep
  · exact sectionOf_invariant hdefault serialFields_keep_stored hx
  · exact hc₁
  · exact hc₁

theorem Text.readUnsigned?_lt {bits n : Nat} {s : String} (h : Text.readUnsigned? bits s = some n) :
    n < 2 ^ bits := by
  simp only [Text.readUnsigned?] at h
  split at h
  · split_ifs at h with hlt
    cases h
    simpa using hlt
  · cases h

/-- Applying an environment keeps a configuration stored: the speed it sets fits 32 bits. -/
theorem Config.Stored.overwrite {c : Config} (hs : c.Stored) (env : Environment) :
    (env.overwrite c).Stored := by
  refine ⟨?_, hs.2.1, hs.2.2⟩
  show (env.read? (Text.readUnsigned? 32) "SERIAL_BAUDRATE").getD c.serial.baudrate < 2 ^ 32
  cases hread : env.read? (Text.readUnsigned? 32) "SERIAL_BAUDRATE" with
  | none => exact hs.1
  | some n =>
    obtain ⟨raw, -, hn⟩ := Option.bind_eq_some_iff.mp hread
    exact Text.readUnsigned?_lt hn

end SerialHub.Settings
