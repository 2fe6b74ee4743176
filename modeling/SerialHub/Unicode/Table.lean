/-!
# Tables of code point ranges

The character property tables are kept as text, read when a table is used: lines of ranges
separated by single spaces, each range a lowercase hexadecimal code point or two of them joined by
a hyphen-minus, so `["41-5a 61-7a", "aa"]` is the ASCII letters and the feminine ordinal indicator.
A property with many values lists, per value, its names in loose form and its ranges.
-/

namespace SerialHub.Unicode

/-- The value of a lowercase hexadecimal digit. -/
def hexDigit? (c : Char) : Option Nat :=
  if '0' ≤ c ∧ c ≤ '9' then some (c.toNat - '0'.toNat)
  else if 'a' ≤ c ∧ c ≤ 'f' then some (c.toNat - 'a'.toNat + 10)
  else none

/-- The number written by lowercase hexadecimal digits; no digits are no number. -/
def hexNumber? : List Char → Option Nat
  | [] => none
  | ds => ds.foldlM (fun acc d => (hexDigit? d).map (16 * acc + ·)) 0

/-- The pieces of a list of characters between the occurrences of a separator, so that joining
them with the separator gives the list back. -/
def pieces (sep : Char) : List Char → List (List Char)
  | [] => [[]]
  | c :: rest =>
    match pieces sep rest with
    | [] => [[c]]
    | p :: ps => if c == sep then [] :: p :: ps else (c :: p) :: ps

/-- Reads one range of a table text: `lo` or `lo-hi`. -/
def readRange? (token : List Char) : Option (Nat × Nat) :=
  match pieces '-' token with
  | [a] => (hexNumber? a).map (fun n => (n, n))
  | [a, b] => do
    let lo ← hexNumber? a
    let hi ← hexNumber? b
    pure (lo, hi)
  | _ => none

/-- The ranges of a table text, in the order written. -/
def readRanges (text : List String) : List (Nat × Nat) :=
  text.flatMap (fun line => (pieces ' ' line.toList).filterMap readRange?)

/-- Whether a code point lies in one of a list of closed ranges. -/
def inRanges (ranges : List (Nat × Nat)) (n : Nat) : Bool :=
  ranges.any (fun r => r.1 ≤ n && n ≤ r.2)

/-- One value of a property: its names in loose form and the text of its ranges. -/
structure Entry where
  names : List String
  text : List String
  deriving Repr, Inhabited

/-- The ranges of the first entry known by a loose name. -/
def lookup? (entries : List Entry) (key : String) : Option (List (Nat × Nat)) :=
  (entries.find? (fun e => e.names.contains key)).map (fun e => readRanges e.text)

/-- Joining the pieces with the separator gives the list back. -/
theorem intercalate_pieces (sep : Char) (cs : List Char) :
    [sep].intercalate (pieces sep cs) = cs := by
  induction cs with
  | nil => rfl
  | cons c rest ih =>
    unfold pieces
    split
    · -- the pieces of a list are never none
      rename_i h
      rw [h] at ih
      simp only [List.intercalate_nil] at ih
      subst ih
      simp [pieces] at h
    · rename_i p ps h
      rw [h] at ih
      split
      · rename_i hc
        simp only [beq_iff_eq] at hc
        subst hc
        cases ps <;> simp_all [List.intercalate_cons_cons]
      · cases ps <;> simp_all [List.intercalate_cons_cons]

example : pieces ' ' "41-5a 61-7a".toList = ["41-5a".toList, "61-7a".toList] := by decide

end SerialHub.Unicode
