import SerialHub.Port.Error
import Mathlib.Data.List.Infix

/-!
# Why an open failed

A failed open is classified by its structured cause where there is one, and otherwise by the
keywords of its message, searched in its lowercase in a fixed order; that search agrees with one
that ignores ASCII case, and a message's fixed prefix plays no part in it. Main statement:
`classifyOpenFailure_rule`.
-/

namespace SerialHub

namespace Text

/-- Whether a text contains another as a contiguous part, ASCII letters compared without regard
to case. -/
def containsIgnoringCase (hay needle : String) : Bool :=
  containsChars (hay.toList.map Char.toLower) (needle.toList.map Char.toLower)

/-! ## Contiguous parts -/

theorem containsChars_cons (c : Char) (rest needle : List Char) :
    containsChars (c :: rest) needle = (needle.isPrefixOf (c :: rest) || containsChars rest needle) :=
  rfl

/-- A list that neither is a prefix of a keyword nor has the keyword as a prefix differs from it
within both, whatever follows it. -/
theorem isPrefixOf_append_eq_false {kw t : List Char} (h1 : kw.isPrefixOf t = false)
    (h2 : t.isPrefixOf kw = false) (rest : List Char) : kw.isPrefixOf (t ++ rest) = false := by
  induction t generalizing kw with
  | nil => simp at h2
  | cons x t ih =>
    cases kw with
    | nil => simp at h1
    | cons k kw =>
      rw [List.isPrefixOf_cons_cons] at h1 h2
      rw [List.cons_append, List.isPrefixOf_cons_cons]
      cases hkx : k == x
      · rfl
      · -- the first characters agree, so the difference lies further on
        obtain rfl : k = x := beq_iff_eq.mp hkx
        simp only [beq_self_eq_true, Bool.true_and] at h1 h2 ⊢
        exact ih h1 h2

/-- A text that cannot start a keyword anywhere: no nonempty tail of it is a prefix of the
keyword, and none has the keyword as a prefix. -/
def startsNoMatch (a kw : List Char) : Bool :=
  a.tails.all (fun t => t.isEmpty || (!kw.isPrefixOf t && !t.isPrefixOf kw))

/-- Putting a text that cannot start a keyword in front changes no search for it. -/
theorem containsChars_append_of_startsNoMatch {a kw : List Char} (h : startsNoMatch a kw = true)
    (rest : List Char) : containsChars (a ++ rest) kw = containsChars rest kw := by
  induction a with
  | nil => rfl
  | cons x a ih =>
    simp only [startsNoMatch, List.tails_cons, List.all_cons, List.isEmpty_cons, Bool.false_or,
      Bool.and_eq_true, Bool.not_eq_true'] at h
    obtain ⟨⟨h1, h2⟩, ht⟩ := h
    rw [List.cons_append, containsChars_cons, ← List.cons_append,
      isPrefixOf_append_eq_false h1 h2, Bool.false_or]
    exact ih ht

/-! ## The keyword fold against ASCII lowercase -/

/-- A keyword that the keyword fold sees as ASCII lowercase does: it is made of ASCII characters
other than `k`, and it does not end in `i`. -/
def FoldSafe (kw : List Char) : Prop :=
  (∀ x ∈ kw, x.toNat < 128 ∧ x ≠ 'k') ∧ kw.getLast? ≠ some 'i'

-- Decided through the list, not through an instance that tries every character.
instance : DecidablePred FoldSafe := fun kw =>
  @instDecidableAnd _ _ (List.decidableBAll _ kw) inferInstance

theorem FoldSafe.tail {k : Char} {kw : List Char} (h : FoldSafe (k :: kw)) : FoldSafe kw := by
  refine ⟨fun x hx => h.1 x (List.mem_cons_of_mem k hx), ?_⟩
  cases kw with
  | nil => simp
  | cons y kw =>
    have := h.2
    rwa [List.getLast?_cons_cons] at this

/-- The keyword fold of one character: the ASCII lowercase, except for the two characters whose
Unicode lowercase holds an ASCII letter. -/
theorem foldChar_cases (c : Char) :
    (c.toNat = 0x212A ∧ foldChar c = ['k']) ∨ (c.toNat = 0x130 ∧ foldChar c = ['i', Char.ofNat 0x307]) ∨
      foldChar c = [c.toLower] := by
  unfold foldChar
  by_cases hk : c.toNat = 0x212A
  · exact .inl ⟨hk, by simp [hk]⟩
  · by_cases hi : c.toNat = 0x130
    · exact .inr (.inl ⟨hi, by simp [hi]⟩)
    · exact .inr (.inr (by simp [hk, hi]))

/-- A character outside ASCII is its own ASCII lowercase. -/
theorem toLower_of_not_ascii {c : Char} (h : 128 ≤ c.toNat) : c.toLower = c := by
  unfold Char.toLower
  rw [dif_neg]
  intro ⟨_, hZ⟩
  rw [UInt32.le_iff_toNat_le, Char.toNat_val] at hZ
  have hz : ('Z'.val).toNat = 90 := rfl
  omega

/-- An ASCII character is not one outside ASCII. -/
theorem ne_of_ascii {k c : Char} (hk : k.toNat < 128) (hc : 128 ≤ c.toNat) : (k == c) = false := by
  have : k ≠ c := fun h => by rw [h] at hk; omega
  simpa using this

/-- The combining dot that follows the `i` of a dotted capital I lies outside ASCII. -/
theorem combiningDot_not_ascii : 128 ≤ (Char.ofNat 0x307).toNat := by decide

section Fold

variable {kw : List Char}

/-- A fold-safe keyword starts the keyword fold of a text exactly where it starts the ASCII
lowercase of the text. -/
theorem isPrefixOf_fold (cs : List Char) (hkw : FoldSafe kw) :
    kw.isPrefixOf (cs.flatMap foldChar) = kw.isPrefixOf (cs.map Char.toLower) := by
  induction cs generalizing kw with
  | nil => rfl
  | cons c cs ih =>
    cases kw with
    | nil => rfl
    | cons k kw =>
      obtain ⟨hkA, hkk⟩ := hkw.1 k List.mem_cons_self
      rw [List.flatMap_cons, List.map_cons]
      rcases foldChar_cases c with ⟨hc, hf⟩ | ⟨hc, hf⟩ | hf
      · -- the Kelvin sign gives `k`, which no keyword holds
        rw [hf, toLower_of_not_ascii (by omega), List.singleton_append, List.isPrefixOf_cons_cons,
          List.isPrefixOf_cons_cons, ne_of_ascii (c := c) hkA (by omega)]
        simp [hkk]
      · -- the dotted capital I gives `i` and a combining dot, which no keyword holds after an `i`
        rw [hf, toLower_of_not_ascii (by omega), List.cons_append, List.isPrefixOf_cons_cons,
          List.isPrefixOf_cons_cons, ne_of_ascii (c := c) hkA (by omega), Bool.false_and]
        cases kw with
        | nil =>
          have hki : k ≠ 'i' := by simpa using hkw.2
          simp [hki]
        | cons k' kw =>
          have hk'A := (hkw.1 k' (List.mem_cons_of_mem k List.mem_cons_self)).1
          simp [List.isPrefixOf_cons_cons, ne_of_ascii hk'A combiningDot_not_ascii]
      · rw [hf, List.singleton_append, List.isPrefixOf_cons_cons, List.isPrefixOf_cons_cons,
          ih hkw.tail]

/-- Searching the keyword fold of a text after one character: the keyword starts at the
character, or somewhere after it. -/
theorem containsChars_foldChar_append (c : Char) (rest : List Char) (hkw : FoldSafe kw) :
    containsChars (foldChar c ++ rest) kw = (kw.isPrefixOf (foldChar c ++ rest) || containsChars rest kw) := by
  rcases foldChar_cases c with ⟨-, hf⟩ | ⟨-, hf⟩ | hf
  · rw [hf]
    rfl
  · -- a keyword cannot start at the combining dot
    rw [hf, List.cons_append, containsChars_cons, List.cons_append, containsChars_cons]
    cases kw with
    | nil => rfl
    | cons k kw =>
      have hkA := (hkw.1 k List.mem_cons_self).1
      simp [List.isPrefixOf_cons_cons, ne_of_ascii hkA combiningDot_not_ascii]
  · rw [hf]
    rfl

/-- A fold-safe keyword occurs in the keyword fold of a text exactly when it occurs in the ASCII
lowercase of the text. -/
theorem containsChars_fold (cs : List Char) (hkw : FoldSafe kw) :
    containsChars (cs.flatMap foldChar) kw = containsChars (cs.map Char.toLower) kw := by
  induction cs with
  | nil => rfl
  | cons c cs ih =>
    calc containsChars ((c :: cs).flatMap foldChar) kw
        = (kw.isPrefixOf ((c :: cs).flatMap foldChar) || containsChars (cs.flatMap foldChar) kw) := by
          rw [List.flatMap_cons, containsChars_foldChar_append c _ hkw]
      _ = (kw.isPrefixOf ((c :: cs).map Char.toLower) || containsChars (cs.map Char.toLower) kw) := by
          rw [isPrefixOf_fold _ hkw, ih]
      _ = containsChars ((c :: cs).map Char.toLower) kw := rfl

end Fold

/-- Searching the lowercase of a text for a fold-safe lowercase keyword is searching it with ASCII
letters compared without regard to case. -/
theorem mentions_eq_containsIgnoringCase (s : String) {kw : String} (hkw : FoldSafe kw.toList)
    (hlow : kw.toList.map Char.toLower = kw.toList) :
    mentions s kw = containsIgnoringCase s kw := by
  rw [mentions, containsIgnoringCase, keywordFold, containsChars_fold _ hkw, hlow]

end Text

namespace Port

open SerialHub.Text

/-- The keywords a failed open's message is searched for, in the order they are tried. -/
def openFailureKeywords : List String :=
  ["no such file", "not found", "permission", "access", "busy", "in use"]

/-- The fixed starts of the messages of failures that have no structured cause. -/
def failurePrefixes : List String := ["I/O error: ", "Device disconnected: ", "Serial port error: "]

/-- Classifying a text by keywords, ASCII letters compared without regard to case, the first
that applies: a missing device, a refused permission, a busy device, and else a failed open
with the given reason. -/
def keywordClass (port text reason : String) : SerialError :=
  if containsIgnoringCase text "no such file" || containsIgnoringCase text "not found" then
    .portNotFound port
  else if containsIgnoringCase text "permission" || containsIgnoringCase text "access" then
    .permissionDenied port
  else if containsIgnoringCase text "busy" || containsIgnoringCase text "in use" then
    .portBusy port
  else .portOpenFailed port reason

/-- The keywords are written in ASCII lowercase, hold no `k` and end in no `i`. -/
theorem openFailureKeywords_foldSafe :
    ∀ kw ∈ openFailureKeywords, FoldSafe kw.toList ∧ kw.toList.map Char.toLower = kw.toList := by
  decide +kernel

/-- No keyword can start inside one of the fixed starts of a message. -/
theorem failurePrefixes_startNoMatch : ∀ pre ∈ failurePrefixes, ∀ kw ∈ openFailureKeywords,
    startsNoMatch (pre.toList.map Char.toLower) kw.toList = true := by
  decide +kernel

/-- The search of the lowercase of a message for a keyword is the ASCII search. -/
theorem mentions_keyword {kw : String} (hkw : kw ∈ openFailureKeywords) (d : String) :
    mentions d kw = containsIgnoringCase d kw :=
  mentions_eq_containsIgnoringCase d (openFailureKeywords_foldSafe kw hkw).1
    (openFailureKeywords_foldSafe kw hkw).2

/-- A fixed start in front of a message changes no search for a keyword. -/
theorem containsIgnoringCase_prefix {pre kw : String} (hpre : pre ∈ failurePrefixes)
    (hkw : kw ∈ openFailureKeywords) (m : String) :
    containsIgnoringCase (pre ++ m) kw = containsIgnoringCase m kw := by
  rw [containsIgnoringCase, containsIgnoringCase, String.toList_append, List.map_append,
    (openFailureKeywords_foldSafe kw hkw).2]
  exact containsChars_append_of_startsNoMatch (failurePrefixes_startNoMatch pre hpre kw hkw) _

/-- Classification by the text of a message is the ASCII keyword rule. -/
theorem classifyText_eq_keywordClass (port d : String) :
    classifyText port d = keywordClass port d d := by
  -- each of the six keyword searches is the ASCII one
  simp (disch := decide) only [classifyText, keywordClass, mentions_keyword]

/-- A message with a fixed start is classified by what follows it, and a failed open carries the
whole message. -/
theorem classifyText_prefix {pre : String} (hpre : pre ∈ failurePrefixes) (port m : String) :
    classifyText port (pre ++ m) = keywordClass port m (pre ++ m) := by
  rw [classifyText_eq_keywordClass]
  simp (disch := decide) only [keywordClass, containsIgnoringCase_prefix hpre]

/-- A failure without a structured cause is classified by its message. -/
theorem classifyOpenFailure_of_unstructured {port : String} {e : PortError}
    (h1 : ∀ name, e ≠ .notFound name) (h2 : ∀ m, e ≠ .io .notFound m)
    (h3 : ∀ m, e ≠ .io .permissionDenied m) (h4 : ∀ m, e ≠ .config m) :
    classifyOpenFailure port e = classifyText port e.message := by
  cases e with
  | notFound name => exact absurd rfl (h1 name)
  | io kind m =>
    cases kind with
    | notFound => exact absurd rfl (h2 m)
    | permissionDenied => exact absurd rfl (h3 m)
    | _ => rfl
  | config m => exact absurd rfl (h4 m)
  | _ => rfl

/-- Open-failure classification, for every port. A missing device and an I/O error of kind "not
found" are a missing port, an I/O error of kind "permission denied" a refused permission, and a
refused configuration a failed open with its message; any other failure is classified by its
message. A message is classified by the first that applies of: it contains `no such file` or
`not found`, a missing port; `permission` or `access`, a refused permission; `busy` or `in use`,
a busy port; and else a failed open carrying the message unchanged, where "contains" compares
ASCII letters without regard to case, which is what searching the lowercase of the message
amounts to. The fixed starts of the messages of I/O, disconnection and driver errors take no part
in it: such a message is classified by what follows its start. -/
theorem classifyOpenFailure_rule (port : String) :
    (∀ name, classifyOpenFailure port (.notFound name) = .portNotFound port) ∧
    (∀ m, classifyOpenFailure port (.io .notFound m) = .portNotFound port) ∧
    (∀ m, classifyOpenFailure port (.io .permissionDenied m) = .permissionDenied port) ∧
    (∀ m, classifyOpenFailure port (.config m) = .portOpenFailed port m) ∧
    (∀ e : PortError, (∀ name, e ≠ .notFound name) → (∀ m, e ≠ .io .notFound m) →
      (∀ m, e ≠ .io .permissionDenied m) → (∀ m, e ≠ .config m) →
      classifyOpenFailure port e = classifyText port e.message) ∧
    (∀ d, classifyText port d = keywordClass port d d) ∧
    (∀ pre ∈ failurePrefixes, ∀ m, classifyText port (pre ++ m) = keywordClass port m (pre ++ m)) :=
  ⟨fun _ => rfl, fun _ => rfl, fun _ => rfl, fun _ => rfl,
    fun _ h1 h2 h3 h4 => classifyOpenFailure_of_unstructured h1 h2 h3 h4,
    classifyText_eq_keywordClass port, fun _ hpre m => classifyText_prefix hpre port m⟩

/-- An I/O error that is neither "not found" nor "permission denied" and says the device is
`BUSY` is a busy port. -/
theorem busy_io_error_is_busy :
    classifyOpenFailure "COM4" (.io .other "Device or resource BUSY") = .portBusy "COM4" := by
  obtain ⟨-, -, -, -, hother, -, hpre⟩ := classifyOpenFailure_rule "COM4"
  rw [hother (.io .other _) (by simp) (by simp) (by simp) (by simp)]
  show classifyText "COM4" ("I/O error: " ++ "Device or resource BUSY") = _
  rw [hpre _ (by simp [failurePrefixes])]
  decide +kernel

end Port

end SerialHub
