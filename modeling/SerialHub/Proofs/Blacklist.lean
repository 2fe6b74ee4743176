import SerialHub.Settings.Loader
import SerialHub.Pattern.Automaton
import Mathlib.Data.List.Dedup

/-!
# What a blacklist blocks

A blacklist of entries, for any regular expression library, blocks a name exactly when an entry
spells it or an entry's compiled pattern matches somewhere in it, and holds the distinct names
and every compiled pattern; neither depends on the order of the entries or on how they are split
between a list, a file and a configuration. Main statement: `blacklist_semantics`.
-/

namespace SerialHub

namespace Blacklist

/-- The name an entry blocks exactly: its trimmed text, when that is not empty, is not a comment
and is not a pattern. -/
def exactName? (e : String) : Option String :=
  let t := Text.trim e
  if t.isEmpty || t.startsWith "#" || isPatternEntry t then none else some t

theorem isPatternEntry_iff (t : String) :
    isPatternEntry t = true ↔ ∃ c ∈ t.toList, c ∈ patternMarks := by
  simp [isPatternEntry, List.any_eq_true]

/-- An entry names a port exactly when its trimmed text is not empty, is not a comment and
holds no pattern mark; the name is that text. -/
theorem exactName?_eq_some_iff (e q : String) :
    exactName? e = some q ↔ Text.trim e ≠ "" ∧ (Text.trim e).startsWith "#" = false ∧
      (∀ c ∈ (Text.trim e).toList, c ∉ patternMarks) ∧ q = Text.trim e := by
  have hp : (∀ c ∈ (Text.trim e).toList, c ∉ patternMarks) ↔
      isPatternEntry (Text.trim e) = false := by
    rw [← Bool.not_eq_true, isPatternEntry_iff]
    simp
  rw [hp]
  unfold exactName?
  by_cases he : Text.trim e = ""
  · simp [he]
  · cases hs : (Text.trim e).startsWith "#" <;> cases hpat : isPatternEntry (Text.trim e) <;>
      simp [he, hs, hpat]
    exact eq_comm

@[simp] theorem exact_empty : empty.exact = [] := rfl

@[simp] theorem patterns_empty : empty.patterns = [] := rfl

section

variable (compile : String → Option (String → Bool))

/-- The pattern an entry adds: its trimmed text compiled, when that is not empty, is not a
comment, is a pattern and compiles. -/
def pattern? (e : String) : Option (String → Bool) :=
  let t := Text.trim e
  if t.isEmpty || t.startsWith "#" || !isPatternEntry t then none else compile t

/-- The blacklist with a list of entries added one after another. -/
def addAll (b : Blacklist) (entries : List String) : Blacklist :=
  entries.foldl (add compile) b

/-- An entry adds a pattern exactly when its trimmed text is not empty, is not a comment, holds a
pattern mark and compiles; the pattern is what it compiles to. -/
theorem pattern?_eq_some_iff (e : String) (m : String → Bool) :
    pattern? compile e = some m ↔ Text.trim e ≠ "" ∧ (Text.trim e).startsWith "#" = false ∧
      (∃ c ∈ (Text.trim e).toList, c ∈ patternMarks) ∧ compile (Text.trim e) = some m := by
  rw [← isPatternEntry_iff]
  unfold pattern?
  by_cases he : Text.trim e = ""
  · simp [he]
  · cases hs : (Text.trim e).startsWith "#" <;> cases hpat : isPatternEntry (Text.trim e) <;>
      simp [he, hs, hpat]

/-- The three things adding an entry can do: nothing, for a blank entry, a comment or a pattern
that does not compile; add the name the entry spells, unless it is there; or add its pattern. -/
theorem add_cases (b : Blacklist) (e : String) :
    (exactName? e = none ∧ pattern? compile e = none ∧ b.add compile e = b) ∨
    (∃ t, exactName? e = some t ∧ pattern? compile e = none ∧
      b.add compile e = if t ∈ b.exact then b else { b with exact := b.exact ++ [t] }) ∨
    (∃ m, exactName? e = none ∧ pattern? compile e = some m ∧
      b.add compile e = { b with patterns := b.patterns ++ [m] }) := by
  by_cases h1 : ((Text.trim e).isEmpty || (Text.trim e).startsWith "#") = true
  · -- a blank entry or a comment
    exact .inl ⟨by simp [exactName?, h1], by simp [pattern?, h1], by simp [add, h1]⟩
  · have h1' : ((Text.trim e).isEmpty || (Text.trim e).startsWith "#") = false := by simpa using h1
    by_cases h2 : isPatternEntry (Text.trim e) = true
    · have hx : exactName? e = none := by simp [exactName?, h1', h2]
      cases h3 : compile (Text.trim e) with
      | none => exact .inl ⟨hx, by simp [pattern?, h1', h2, h3], by simp [add, h1', h2, h3]⟩
      | some m =>
        exact .inr (.inr ⟨m, hx, by simp [pattern?, h1', h2, h3], by simp [add, h1', h2, h3]⟩)
    · have h2' : isPatternEntry (Text.trim e) = false := by simpa using h2
      exact .inr (.inl ⟨Text.trim e, by simp [exactName?, h1', h2'], by simp [pattern?, h1', h2'],
        by simp [add, h1', h2']⟩)

/-! ## Adding entries one after another -/

theorem ofEntries_eq_addAll (E : List String) : ofEntries compile E = addAll compile empty E := rfl

theorem addAll_cons (b : Blacklist) (e : String) (E : List String) :
    addAll compile b (e :: E) = addAll compile (b.add compile e) E :=
  -- by the fold's own equation: `rfl` would first try to evaluate the added entry
  List.foldl_cons ..

/-- The patterns are those of the entries that compile, in the order of the entries, repeats
kept. -/
theorem patterns_addAll (b : Blacklist) (E : List String) :
    (addAll compile b E).patterns = b.patterns ++ E.filterMap (pattern? compile) := by
  induction E generalizing b with
  | nil => simp [addAll]
  | cons e E ih =>
    rw [addAll_cons, ih, List.filterMap_cons]
    rcases add_cases compile b e with ⟨-, hp, hb⟩ | ⟨t, -, hp, hb⟩ | ⟨m, -, hp, hb⟩
    · simp [hb, hp]
    · rw [hb, hp]
      split <;> rfl
    · simp [hb, hp]

/-- Adding one entry keeps the exact names free of repeats and adds the name it spells. -/
theorem exact_add {b : Blacklist} (hb : b.exact.Nodup) (e : String) :
    (b.add compile e).exact.Nodup ∧
      ∀ q, q ∈ (b.add compile e).exact ↔ q ∈ b.exact ∨ exactName? e = some q := by
  rcases add_cases compile b e with ⟨hx, -, he⟩ | ⟨t, hx, -, he⟩ | ⟨m, hx, -, he⟩
  · simp [he, hx, hb]
  · rw [he, hx]
    split
    · next ht =>
      refine ⟨hb, fun q => ⟨.inl, ?_⟩⟩
      rintro (hq | hq)
      · exact hq
      · obtain rfl := Option.some.inj hq
        exact ht
    · next ht =>
      refine ⟨List.nodup_append.mpr ⟨hb, List.nodup_singleton t, ?_⟩, fun q => ?_⟩
      · simp only [List.mem_singleton]
        rintro a ha _ rfl rfl
        exact ht ha
      · simp [eq_comm]
  · simp [he, hx, hb]

/-- Adding entries keeps the exact names free of repeats and adds the names the entries spell. -/
theorem exact_addAll {b : Blacklist} (hb : b.exact.Nodup) (E : List String) :
    (addAll compile b E).exact.Nodup ∧
      ∀ q, q ∈ (addAll compile b E).exact ↔ q ∈ b.exact ∨ q ∈ E.filterMap exactName? := by
  induction E generalizing b with
  | nil => simp [addAll, hb]
  | cons e E ih =>
    rw [addAll_cons]
    obtain ⟨hn, hm⟩ := exact_add compile hb e
    obtain ⟨hn', hm'⟩ := ih hn
    refine ⟨hn', fun q => ?_⟩
    rw [hm', hm]
    simp [List.mem_filterMap, or_assoc]

/-- A blacklist of entries blocks a name exactly when an entry spells it or the pattern of an
entry matches in it. -/
theorem blocks_ofEntries (E : List String) (q : String) :
    (ofEntries compile E).blocks q = true ↔
      q ∈ E.filterMap exactName? ∨ ∃ m ∈ E.filterMap (pattern? compile), m q = true := by
  have hm := (exact_addAll compile (b := empty) List.nodup_nil E).2 q
  simp only [exact_empty, List.not_mem_nil, false_or] at hm
  rw [ofEntries_eq_addAll, blocks, Bool.or_eq_true, List.contains_iff_mem, hm, List.any_eq_true,
    patterns_addAll, patterns_empty, List.nil_append]

/-- A blacklist of entries holds the distinct names the entries spell and the pattern of every
entry that compiles. -/
theorem size_ofEntries (E : List String) :
    (ofEntries compile E).size =
      (E.filterMap exactName?).dedup.length + (E.filterMap (pattern? compile)).length := by
  obtain ⟨hn, hm⟩ := exact_addAll compile (b := empty) List.nodup_nil E
  have hperm : (addAll compile empty E).exact.Perm (E.filterMap exactName?).dedup :=
    (List.perm_ext_iff_of_nodup hn (List.nodup_dedup _)).mpr fun q => by
      simp [hm, List.mem_dedup]
  rw [size, ofEntries_eq_addAll, hperm.length_eq, patterns_addAll, patterns_empty, List.nil_append]

/-- A blacklist of entries blocks a name exactly when some entry, trimmed, is not blank, not a
comment and spells it without a pattern mark, or is not blank, not a comment, holds a pattern
mark and compiles to a pattern that matches somewhere in the name. -/
theorem blocks_ofEntries_iff (E : List String) (q : String) :
    (ofEntries compile E).blocks q = true ↔
      (∃ e ∈ E, Text.trim e ≠ "" ∧ (Text.trim e).startsWith "#" = false ∧
        (∀ c ∈ (Text.trim e).toList, c ∉ patternMarks) ∧ q = Text.trim e) ∨
      (∃ e ∈ E, ∃ m, Text.trim e ≠ "" ∧ (Text.trim e).startsWith "#" = false ∧
        (∃ c ∈ (Text.trim e).toList, c ∈ patternMarks) ∧ compile (Text.trim e) = some m ∧
        m q = true) := by
  rw [blocks_ofEntries]
  simp only [List.mem_filterMap, exactName?_eq_some_iff, pattern?_eq_some_iff]
  -- only the place of the pattern's binder differs
  refine or_congr_right ⟨?_, ?_⟩
  · rintro ⟨m, ⟨e, he, h1, h2, h3, h4⟩, hm⟩
    exact ⟨e, he, m, h1, h2, h3, h4, hm⟩
  · rintro ⟨e, he, m, h1, h2, h3, h4, hm⟩
    exact ⟨m, ⟨e, he, h1, h2, h3, h4⟩, hm⟩

/-! ## Order and split of the entries -/

/-- Two blacklists agree when they hold as many entries and block the same names. -/
def Agree (b b' : Blacklist) : Prop :=
  b.size = b'.size ∧ ∀ q, b.blocks q = b'.blocks q

/-- The order of the entries does not matter. -/
theorem agree_of_perm {E E' : List String} (h : E'.Perm E) :
    Agree (ofEntries compile E') (ofEntries compile E) := by
  have hx := h.filterMap exactName?
  have hp := h.filterMap (pattern? compile)
  refine ⟨?_, fun q => Bool.eq_iff_iff.mpr ?_⟩
  · rw [size_ofEntries, size_ofEntries, hx.dedup.length_eq, hp.length_eq]
  · simp only [blocks_ofEntries, hx.mem_iff, hp.mem_iff]

/-- The lines of a file are added after the entries given at once. -/
theorem addText_ofEntries (E : List String) (text : String) :
    (ofEntries compile E).addText compile text = ofEntries compile (E ++ Text.lines text) :=
  (List.foldl_append ..).symm

/-- The blacklist of a configuration is that of its serial section's entries followed by the lines
of its blacklist file, when that was read. -/
theorem config_blacklist (c : Settings.Config) (fileText : Option String) :
    c.blacklist compile fileText =
      ofEntries compile (c.serial.blacklist ++ (fileText.map Text.lines).getD []) := by
  cases fileText <;> simp [Settings.Config.blacklist, addText_ofEntries]

/-- Blacklist semantics, for every regular expression library. A blacklist of entries blocks a
name exactly when some trimmed entry that is not blank, not a comment and holds no pattern mark
spells it, or some trimmed entry that is not blank, not a comment and holds a pattern mark
compiles to a pattern matching somewhere in it. It holds the distinct names spelled and every
compiled pattern, repeats included. What it holds and blocks does not depend on the order of the
entries, nor on how they are split between those given at once and the lines of a file, nor, for
a configuration, between its serial section and its blacklist file. -/
theorem blacklist_semantics (E : List String) :
    (∀ q, (ofEntries compile E).blocks q = true ↔
      (∃ e ∈ E, Text.trim e ≠ "" ∧ (Text.trim e).startsWith "#" = false ∧
        (∀ c ∈ (Text.trim e).toList, c ∉ patternMarks) ∧ q = Text.trim e) ∨
      (∃ e ∈ E, ∃ m, Text.trim e ≠ "" ∧ (Text.trim e).startsWith "#" = false ∧
        (∃ c ∈ (Text.trim e).toList, c ∈ patternMarks) ∧ compile (Text.trim e) = some m ∧
        m q = true)) ∧
    (ofEntries compile E).size =
      (E.filterMap exactName?).dedup.length + (E.filterMap (pattern? compile)).length ∧
    (∀ E', E'.Perm E → Agree (ofEntries compile E') (ofEntries compile E)) ∧
    (∀ E₁ text, (E₁ ++ Text.lines text).Perm E →
      Agree ((ofEntries compile E₁).addText compile text) (ofEntries compile E)) ∧
    (∀ (c : Settings.Config) fileText,
      (c.serial.blacklist ++ (fileText.map Text.lines).getD []).Perm E →
      Agree (c.blacklist compile fileText) (ofEntries compile E)) := by
  refine ⟨blocks_ofEntries_iff compile E, size_ofEntries compile E,
    fun _ h => agree_of_perm compile h, ?_, ?_⟩
  · intro E₁ text h
    rw [addText_ofEntries]
    exact agree_of_perm compile h
  · intro c fileText h
    rw [config_blacklist]
    exact agree_of_perm compile h

end

/-- Names given twice, with different blanks around them, count once; blanks and comments count
for nothing; a name is blocked as trimmed and not with its blanks. -/
theorem blacklist_of_repeated_names :
    let E := [" COM1", "COM1\t", "# COM2", "", "COM3", "COM1"]
    let b := ofEntries Pattern.searchTest E
    b.size = 2 ∧ b.blocks "COM1" = true ∧ b.blocks " COM1" = false ∧ b.blocks "COM2" = false ∧
    (∀ q, b.blocks q = true ↔
      (∃ e ∈ E, Text.trim e ≠ "" ∧ (Text.trim e).startsWith "#" = false ∧
        (∀ c ∈ (Text.trim e).toList, c ∉ patternMarks) ∧ q = Text.trim e) ∨
      (∃ e ∈ E, ∃ m, Text.trim e ≠ "" ∧ (Text.trim e).startsWith "#" = false ∧
        (∃ c ∈ (Text.trim e).toList, c ∈ patternMarks) ∧
        Pattern.searchTest (Text.trim e) = some m ∧ m q = true)) ∧
    b.size = (E.filterMap exactName?).dedup.length +
      (E.filterMap (pattern? Pattern.searchTest)).length ∧
    (∀ E', E'.Perm E → Agree (ofEntries Pattern.searchTest E') b) ∧
    (∀ E₁ text, (E₁ ++ Text.lines text).Perm E →
      Agree ((ofEntries Pattern.searchTest E₁).addText Pattern.searchTest text) b) ∧
    (∀ (c : Settings.Config) fileText,
      (c.serial.blacklist ++ (fileText.map Text.lines).getD []).Perm E →
      Agree (c.blacklist Pattern.searchTest fileText) b) := by
  intro E b
  exact ⟨by decide +kernel, by decide +kernel, by decide +kernel, by decide +kernel,
    blacklist_semantics Pattern.searchTest E⟩

end Blacklist

end SerialHub
