import SerialHub.Proofs.Line.Overrides
import SerialHub.Proofs.Terminal.Lifecycle

/-!
# Reading settings by name

Parity, flow control and line endings are read from texts by mapping them to one ASCII case and
matching a table; parity and flow control are trimmed of `White_Space` blanks first. Each reader
accepts exactly the texts equal to a value's name up to ASCII case, each refusal carries the text
as given, and each value's wire name reads back as the value. Main statement:
`names_read_exactly`.
-/

namespace SerialHub

namespace Text

/-- Two texts are equal up to the case of ASCII letters: they have as many characters, and the
characters at each place agree once ASCII capitals are lowered. -/
def EqIgnoreAsciiCase (a b : String) : Prop :=
  a.toList.map Char.toLower = b.toList.map Char.toLower

instance : DecidableRel EqIgnoreAsciiCase := fun a b =>
  inferInstanceAs (Decidable (a.toList.map Char.toLower = b.toList.map Char.toLower))

theorem EqIgnoreAsciiCase.refl (a : String) : EqIgnoreAsciiCase a a := rfl

/-! ## One character -/

/-- The ASCII uppercase of a character moves `a` to `z` down to the capitals. -/
theorem toNat_toUpper (c : Char) :
    c.toUpper.toNat = if 97 ≤ c.toNat ∧ c.toNat ≤ 122 then c.toNat - 32 else c.toNat := by
  unfold Char.toUpper
  split
  case isTrue h =>
    have h1 : 97 ≤ c.toNat ∧ c.toNat ≤ 122 := by
      rw [UInt32.le_iff_toNat_le, UInt32.le_iff_toNat_le] at h
      exact h
    rw [if_pos h1]
    -- the shift is stored as `2 ^ 32 - 32` and wraps around
    have hshift : ('A'.val - 'a'.val).toNat = 2 ^ 32 - 32 := by decide
    simp only [Char.toNat, UInt32.toNat_add, hshift]
    simp only [Char.toNat] at h1
    omega
  case isFalse h =>
    have h1 : ¬ (97 ≤ c.toNat ∧ c.toNat ≤ 122) := by
      rwa [UInt32.le_iff_toNat_le, UInt32.le_iff_toNat_le] at h
    rw [if_neg h1]

/-- The ASCII lowercase of a character moves the capitals up to `a` to `z`. -/
theorem toNat_toLower (c : Char) :
    c.toLower.toNat = if 65 ≤ c.toNat ∧ c.toNat ≤ 90 then c.toNat + 32 else c.toNat := by
  unfold Char.toLower
  split
  case isTrue h =>
    have h1 : 65 ≤ c.toNat ∧ c.toNat ≤ 90 := by
      rw [ge_iff_le, UInt32.le_iff_toNat_le, UInt32.le_iff_toNat_le] at h
      exact h
    rw [if_pos h1]
    have hshift : ('a'.val - 'A'.val).toNat = 32 := by decide
    simp only [Char.toNat, UInt32.toNat_add, hshift]
    simp only [Char.toNat] at h1
    omega
  case isFalse h =>
    have h1 : ¬ (65 ≤ c.toNat ∧ c.toNat ≤ 90) := by
      rwa [ge_iff_le, UInt32.le_iff_toNat_le, UInt32.le_iff_toNat_le] at h
    rw [if_neg h1]

/-- A character's ASCII uppercase is a given capital exactly when its ASCII lowercase is that
capital lowered. -/
theorem toUpper_eq_iff {c d : Char} (hd : 65 ≤ d.toNat ∧ d.toNat ≤ 90) :
    c.toUpper = d ↔ c.toLower = d.toLower := by
  rw [← Char.toNat_inj, ← Char.toNat_inj, toNat_toUpper, toNat_toLower, toNat_toLower,
    if_pos hd]
  split <;> split <;> omega

/-! ## Whole texts -/

/-- Characters map to a word of capitals under ASCII uppercase exactly when they agree with it
under ASCII lowercase. -/
theorem map_toUpper_eq_iff {cs ds : List Char}
    (hds : ∀ d ∈ ds, 65 ≤ d.toNat ∧ d.toNat ≤ 90) :
    cs.map Char.toUpper = ds ↔ cs.map Char.toLower = ds.map Char.toLower := by
  induction cs generalizing ds with
  | nil => cases ds <;> simp
  | cons c cs ih =>
    cases ds with
    | nil => simp
    | cons d ds =>
      have hd := hds d List.mem_cons_self
      have hrest : ∀ d' ∈ ds, 65 ≤ d'.toNat ∧ d'.toNat ≤ 90 :=
        fun d' h => hds d' (List.mem_cons_of_mem d h)
      simp only [List.map_cons, List.cons.injEq, toUpper_eq_iff hd, ih hrest]

/-- The characters of a word are capitals when a check over them says so. -/
theorem capitals_of_all {w : String}
    (h : w.toList.all (fun d => decide (65 ≤ d.toNat ∧ d.toNat ≤ 90)) = true) :
    ∀ d ∈ w.toList, 65 ≤ d.toNat ∧ d.toNat ≤ 90 := by
  simpa using h

/-- The ASCII uppercase of a text is a word of capitals exactly when the text is that word up to
ASCII case. -/
theorem asciiUpper_eq_iff {s w : String}
    (hw : ∀ d ∈ w.toList, 65 ≤ d.toNat ∧ d.toNat ≤ 90) :
    asciiUpper s = w ↔ EqIgnoreAsciiCase s w := by
  rw [EqIgnoreAsciiCase, ← map_toUpper_eq_iff hw, ← String.toList_inj, asciiUpper,
    String.toList_map]

/-- The ASCII lowercase of a text is a word with no ASCII capitals exactly when the text is that
word up to ASCII case. -/
theorem asciiLower_eq_iff {s w : String} (hw : w.toList.map Char.toLower = w.toList) :
    asciiLower s = w ↔ EqIgnoreAsciiCase s w := by
  rw [EqIgnoreAsciiCase, hw, ← String.toList_inj, asciiLower, String.toList_map]

end Text

namespace Line

open Text

/-! ## Parity -/

/-- The full name of a parity, in capitals. -/
def Parity.fullName : Parity → String
  | .none => "NONE"
  | .even => "EVEN"
  | .odd => "ODD"
  | .mark => "MARK"
  | .space => "SPACE"

/-- A parity is named in capitals by exactly its letter and its full name. -/
theorem Parity.ofUpper?_eq_some_iff (s : String) (p : Parity) :
    Parity.ofUpper? s = some p ↔ s = p.letter ∨ s = p.fullName := by
  unfold Parity.ofUpper?
  split <;> cases p <;> simp_all [Parity.letter, Parity.fullName]

/-- A parity is read from a text whose trimmed form is its letter or its full name, up to ASCII
case. -/
theorem Parity.parse?_eq_some_iff (s : String) (p : Parity) :
    Parity.parse? s = some p ↔
      EqIgnoreAsciiCase (Text.trim s) p.letter ∨ EqIgnoreAsciiCase (Text.trim s) p.fullName := by
  have hletter : ∀ d ∈ p.letter.toList, 65 ≤ d.toNat ∧ d.toNat ≤ 90 :=
    capitals_of_all (by cases p <;> decide)
  have hname : ∀ d ∈ p.fullName.toList, 65 ≤ d.toNat ∧ d.toNat ≤ 90 :=
    capitals_of_all (by cases p <;> decide)
  rw [Parity.parse?, Parity.ofUpper?_eq_some_iff, asciiUpper_eq_iff hletter,
    asciiUpper_eq_iff hname]

/-- A parity is read exactly from the texts that name it. -/
theorem readParity_eq_ok_iff (s : String) (p : Parity) :
    readParity s = .ok p ↔
      EqIgnoreAsciiCase (Text.trim s) p.letter ∨ EqIgnoreAsciiCase (Text.trim s) p.fullName := by
  rw [← Parity.parse?_eq_some_iff, readParity]
  cases Parity.parse? s <;> simp

/-- A refused parity carries the text as given. -/
theorem readParity_eq_error {s : String} {e : SerialError} (h : readParity s = .error e) :
    e = .invalidParam Setting.parity.param s Setting.parity.accepted := by
  have hparity := Overrides.refusals_name_setting.2.2.1 s
  unfold readParity at h
  split at h
  · cases h
  · cases h
    exact hparity

/-- A parity's wire letter reads back as the parity. -/
theorem readParity_letter (p : Parity) : readParity p.letter = .ok p := by
  -- a wire letter has no blank to trim
  have htrim : Text.trim p.letter = p.letter := by cases p <;> decide +kernel
  rw [readParity_eq_ok_iff, htrim]
  exact .inl (EqIgnoreAsciiCase.refl _)

/-! ## Flow control -/

/-- A flow control is named in lowercase by exactly its name. -/
theorem FlowControl.ofLower?_eq_some_iff (s : String) (f : FlowControl) :
    FlowControl.ofLower? s = some f ↔ s = f.name := by
  unfold FlowControl.ofLower?
  split <;> cases f <;> simp_all [FlowControl.name]

/-- A flow control is read from a text whose trimmed form is its name, up to ASCII case. -/
theorem FlowControl.parse?_eq_some_iff (s : String) (f : FlowControl) :
    FlowControl.parse? s = some f ↔ EqIgnoreAsciiCase (Text.trim s) f.name := by
  have hname : f.name.toList.map Char.toLower = f.name.toList := by
    cases f <;> decide
  rw [FlowControl.parse?, FlowControl.ofLower?_eq_some_iff, asciiLower_eq_iff hname]

/-- A flow control is read exactly from the texts that name it. -/
theorem readFlowControl_eq_ok_iff (s : String) (f : FlowControl) :
    readFlowControl s = .ok f ↔ EqIgnoreAsciiCase (Text.trim s) f.name := by
  rw [← FlowControl.parse?_eq_some_iff, readFlowControl]
  cases FlowControl.parse? s <;> simp

/-- A refused flow control carries the text as given. -/
theorem readFlowControl_eq_error {s : String} {e : SerialError}
    (h : readFlowControl s = .error e) :
    e = .invalidParam Setting.flowControl.param s Setting.flowControl.accepted := by
  have hflow := Overrides.refusals_name_setting.2.2.2.2.1 s
  unfold readFlowControl at h
  split at h
  · cases h
  · cases h
    exact hflow

/-- A flow control's wire name reads back as the flow control. -/
theorem readFlowControl_name (f : FlowControl) : readFlowControl f.name = .ok f := by
  have htrim : Text.trim f.name = f.name := by cases f <;> decide +kernel
  rw [readFlowControl_eq_ok_iff, htrim]
  exact EqIgnoreAsciiCase.refl _

end Line

namespace Terminal.LineEnding

open Text

/-- A line ending is read exactly from the texts that are its name up to ASCII case, with
nothing trimmed. -/
theorem parse_eq_ok_iff (s : String) (e : LineEnding) :
    parse s = .ok e ↔ EqIgnoreAsciiCase s e.name := by
  have hname : ∀ d ∈ e.name.toList, 65 ≤ d.toNat ∧ d.toNat ≤ 90 :=
    capitals_of_all (by cases e <;> decide)
  rw [← asciiUpper_eq_iff hname, ← ofUpper?_eq_some_iff, parse]
  cases ofUpper? (asciiUpper s) <;> simp

/-- A refused line ending carries the text as given. -/
theorem parse_eq_error {s : String} {err : SerialError} (h : parse s = .error err) :
    err = .invalidLineEnding s := by
  unfold parse at h
  split at h
  · cases h
  · cases h
    rfl

/-- A line ending's name reads back as the line ending. -/
theorem parse_name (e : LineEnding) : parse e.name = .ok e :=
  (parse_eq_ok_iff _ _).mpr (EqIgnoreAsciiCase.refl _)

end Terminal.LineEnding

namespace Line

open Text Terminal

/-- Every reader of a setting by name accepts exactly the texts that name a value: a parity is
read from a text whose trimmed form is the parity's letter or full name, a flow control from one
whose trimmed form is its name, and a line ending from a text that is its name as given, ASCII
letters compared without regard to case and every other character exactly. A refusal carries the
text as given, untrimmed. The wire name of every value reads back as that value. -/
theorem names_read_exactly :
    (∀ s p, readParity s = .ok p ↔
      EqIgnoreAsciiCase (Text.trim s) p.letter ∨ EqIgnoreAsciiCase (Text.trim s) p.fullName) ∧
    (∀ s f, readFlowControl s = .ok f ↔ EqIgnoreAsciiCase (Text.trim s) f.name) ∧
    (∀ s e, LineEnding.parse s = .ok e ↔ EqIgnoreAsciiCase s e.name) ∧
    (∀ s e, readParity s = .error e →
      e = .invalidParam Setting.parity.param s Setting.parity.accepted) ∧
    (∀ s e, readFlowControl s = .error e →
      e = .invalidParam Setting.flowControl.param s Setting.flowControl.accepted) ∧
    (∀ s e, LineEnding.parse s = .error e → e = .invalidLineEnding s) ∧
    (∀ p, readParity p.letter = .ok p) ∧
    (∀ f, readFlowControl f.name = .ok f) ∧
    (∀ e, LineEnding.parse e.name = .ok e) :=
  ⟨readParity_eq_ok_iff, readFlowControl_eq_ok_iff, LineEnding.parse_eq_ok_iff,
    fun _ _ => readParity_eq_error, fun _ _ => readFlowControl_eq_error,
    fun _ _ => LineEnding.parse_eq_error, readParity_letter, readFlowControl_name,
    LineEnding.parse_name⟩

/-- An ideographic space around a lowercase parity name is trimmed, while fullwidth capitals do
not name a parity. -/
example : Parity.parse? "　even " = some .even ∧ Parity.parse? "ＥＶＥＮ" = none := by
  decide +kernel

end Line

end SerialHub
