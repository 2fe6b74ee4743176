import SerialHub.Pattern.Syntax

/-!
# The normal form of a pattern

Before a pattern is turned into automata it is brought to a normal form built from literal
strings, classes, anchors, capturing groups, sequences, alternatives and repetitions: nested
sequences and alternatives are opened, adjacent literals joined, common prefixes of alternatives
taken out, and trivial repetitions and non-capturing groups removed. The form also gives the
lengths of its matches in bytes and whether they are anchored.
-/

namespace SerialHub.Pattern

/-- A pattern in normal form. -/
inductive Shape where
  /-- Matches the empty text. -/
  | empty
  /-- Matches a string of characters, given by their code points. -/
  | literal (chars : List Nat)
  /-- Matches one character of sorted, disjoint code point ranges without surrogates. -/
  | cls (ranges : List (Nat × Nat))
  /-- Matches the empty text where an assertion holds. -/
  | look (assertion : Assertion)
  /-- Matches the body and records where. -/
  | capture (body : Shape)
  /-- Matches the parts one after another. -/
  | concat (parts : List Shape)
  /-- Matches one of the parts. -/
  | alt (parts : List Shape)
  /-- Matches the body from `min` to `max` times, without bound when `max` is absent, preferring
  more times when `greedy`. -/
  | rep (body : Shape) (min : Nat) (max : Option Nat) (greedy : Bool)
  deriving Repr, Inhabited

/-- The number of bytes of a code point in UTF-8. -/
def utf8Width (c : Nat) : Nat :=
  if c < 0x80 then 1 else if c < 0x800 then 2 else if c < 0x10000 then 3 else 4

/-- The number of bytes of a string of code points in UTF-8. -/
def utf8Length (cs : List Nat) : Nat :=
  cs.foldl (fun n c => n + utf8Width c) 0

/-- The ranges of a set as a class of the normal form: sorted, joined where they overlap or
touch, and without the surrogates, which are not characters. -/
def canonicalRanges (s : CharSet) : List (Nat × Nat) :=
  (CharSet.diff s (CharSet.range 0xD800 0xDFFF)).normalize.ranges

mutual

/-- Structural equality of normal forms. -/
def Shape.same : Shape → Shape → Bool
  | .empty, .empty => true
  | .literal a, .literal b => a == b
  | .cls a, .cls b => a == b
  | .look a, .look b => a == b
  | .capture _, .capture _ => false
  | .concat as, .concat bs => Shape.sameAll as bs
  | .alt as, .alt bs => Shape.sameAll as bs
  | .rep a lo hi g, .rep b lo' hi' g' => Shape.same a b && lo == lo' && hi == hi' && g == g'
  | _, _ => false

/-- Structural equality of lists of normal forms. -/
def Shape.sameAll : List Shape → List Shape → Bool
  | [], [] => true
  | a :: as, b :: bs => Shape.same a b && Shape.sameAll as bs
  | _, _ => false

end

mutual

/-- The fewest bytes a match can have; nothing when it cannot match. -/
def Shape.minLen : Shape → Option Nat
  | .empty => some 0
  | .literal cs => some (utf8Length cs)
  | .cls [] => none
  | .cls (r :: _) => some (utf8Width r.1)
  | .look _ => some 0
  | .capture b => b.minLen
  | .concat ps => Shape.minLenSum ps
  | .alt ps => Shape.minLenLeast ps
  | .rep b lo _ _ => b.minLen.map (· * lo)

/-- The fewest bytes of a match of parts in sequence. -/
def Shape.minLenSum : List Shape → Option Nat
  | [] => some 0
  | p :: ps => do
    let a ← p.minLen
    let b ← Shape.minLenSum ps
    pure (a + b)

/-- The fewest bytes of a match of one of several parts; nothing as soon as one cannot match. -/
def Shape.minLenLeast : List Shape → Option Nat
  | [] => none
  | [p] => p.minLen
  | p :: ps => do
    let a ← p.minLen
    let b ← Shape.minLenLeast ps
    pure (min a b)

end

mutual

/-- The most bytes a match can have; nothing when there is no bound or no match. -/
def Shape.maxLen : Shape → Option Nat
  | .empty => some 0
  | .literal cs => some (utf8Length cs)
  | .cls rs =>
    match rs.getLast? with
    | some r => some (utf8Width r.2)
    | none => none
  | .look _ => some 0
  | .capture b => b.maxLen
  | .concat ps => Shape.maxLenSum ps
  | .alt ps => Shape.maxLenMost ps
  | .rep b _ hi _ => do
    let h ← hi
    let m ← b.maxLen
    pure (m * h)

/-- The most bytes of a match of parts in sequence. -/
def Shape.maxLenSum : List Shape → Option Nat
  | [] => some 0
  | p :: ps => do
    let a ← p.maxLen
    let b ← Shape.maxLenSum ps
    pure (a + b)

/-- The most bytes of a match of one of several parts; nothing as soon as one has no bound. -/
def Shape.maxLenMost : List Shape → Option Nat
  | [] => none
  | [p] => p.maxLen
  | p :: ps => do
    let a ← p.maxLen
    let b ← Shape.maxLenMost ps
    pure (max a b)

end

/-- Whether a form matches only the empty text. -/
def Shape.onlyEmpty (s : Shape) : Bool := s.maxLen == some 0

mutual

/-- Whether every match must begin at the start of the text. -/
def Shape.startAnchored : Shape → Bool
  | .look a => a == .textStart
  | .capture b => b.startAnchored
  | .concat ps => Shape.startAnchoredSeq ps
  | .alt ps => Shape.allStartAnchored ps
  | .rep b lo _ _ => lo > 0 && b.startAnchored
  | _ => false

/-- Whether a sequence must match at the start of the text: one of its leading parts that match
only the empty text, or the first part after them, must. -/
def Shape.startAnchoredSeq : List Shape → Bool
  | [] => false
  | p :: ps => p.startAnchored || (p.onlyEmpty && Shape.startAnchoredSeq ps)

/-- Whether every one of several parts must match at the start of the text. -/
def Shape.allStartAnchored : List Shape → Bool
  | [] => true
  | p :: ps => p.startAnchored && Shape.allStartAnchored ps

end

mutual

/-- Whether every match must end at the end of the text. -/
def Shape.endAnchored : Shape → Bool
  | .look a => a == .textEnd
  | .capture b => b.endAnchored
  | .concat ps => Shape.endAnchoredSeq ps
  | .alt ps => Shape.allEndAnchored ps
  | .rep b lo _ _ => lo > 0 && b.endAnchored
  | _ => false

/-- Whether a sequence must match at the end of the text: one of its trailing parts that match
only the empty text, or the last part before them, must. -/
def Shape.endAnchoredSeq : List Shape → Bool
  | [] => false
  | p :: ps => Shape.endAnchoredSeq ps || (p.endAnchored && ps.all Shape.onlyEmpty)

/-- Whether every one of several parts must match at the end of the text. -/
def Shape.allEndAnchored : List Shape → Bool
  | [] => true
  | p :: ps => p.endAnchored && Shape.allEndAnchored ps

end

/-- The form of a class with canonical ranges: a literal when it holds one character. -/
def Shape.ofRanges : List (Nat × Nat) → Shape
  | [(a, b)] => if a == b then .literal [a] else .cls [(a, b)]
  | rs => .cls rs

/-- The parts of a sequence with its nested sequences opened and its empty parts dropped. -/
def openSequence (parts : List Shape) : List Shape :=
  parts.flatMap (fun p =>
    match p with
    | .concat ps => ps
    | .empty => []
    | p => [p])

/-- Joins adjacent literals of a list of parts into one. -/
def joinLiterals : List Shape → List Shape
  | [] => []
  | .literal a :: rest =>
    match joinLiterals rest with
    | .literal b :: more => .literal (a ++ b) :: more
    | more => .literal a :: more
  | p :: rest => p :: joinLiterals rest

/-- The normal form of parts in sequence. -/
def Shape.sequence (parts : List Shape) : Shape :=
  match joinLiterals (openSequence parts) with
  | [] => .empty
  | [p] => p
  | ps => .concat ps

/-- The parts of an alternative with its nested alternatives opened. -/
def openAlternative (parts : List Shape) : List Shape :=
  parts.flatMap (fun p =>
    match p with
    | .alt ps => ps
    | p => [p])

/-- The character of a literal of one character. -/
def Shape.singleChar? : Shape → Option Nat
  | .literal [c] => some c
  | _ => none

/-- The ranges of a class. -/
def Shape.classRanges? : Shape → Option (List (Nat × Nat))
  | .cls rs => some rs
  | _ => none

/-- The parts of a sequence. -/
def Shape.sequenceParts? : Shape → Option (List Shape)
  | .concat ps => some ps
  | _ => none

/-- The longest common start of two lists of parts. -/
def commonStart : List Shape → List Shape → List Shape
  | a :: as, b :: bs => if Shape.same a b then a :: commonStart as bs else []
  | _, _ => []

/-- The class of a list of code point ranges, brought to canonical form. -/
def Shape.ofAnyRanges (rs : List (Nat × Nat)) : Shape :=
  Shape.ofRanges (CharSet.normalize ⟨rs⟩).ranges

/-- The normal form of an alternative of normal forms. Taking out a common start is tried at
most `depth` times in a row; once is enough, as the parts left after a common start begin
differently. -/
def Shape.alternative : Nat → List Shape → Shape
  | depth, parts =>
    match openAlternative parts with
    | [] => .cls []
    | [p] => p
    | ps =>
      match ps.mapM Shape.singleChar? with
      | some cs => Shape.ofAnyRanges (cs.map (fun c => (c, c)))
      | none =>
        match ps.mapM Shape.classRanges? with
        | some rss => Shape.ofAnyRanges rss.flatten
        | none =>
          match depth, ps.mapM Shape.sequenceParts? with
          | d + 1, some (first :: rest) =>
            let start := rest.foldl commonStart first
            if start.isEmpty then .alt ps
            else
              let tails := (first :: rest).map (fun xs => Shape.sequence (xs.drop start.length))
              Shape.sequence (start ++ [Shape.alternative d tails])
          | _, _ => .alt ps

/-- The normal form of a repetition. -/
def Shape.repetition (body : Shape) (lo : Nat) (hi : Option Nat) (greedy : Bool) : Shape :=
  let (lo, hi) :=
    if body.onlyEmpty then (min lo 1, some (match hi with | some h => min h 1 | none => 1))
    else (lo, hi)
  if lo == 0 && hi == some 0 then .empty
  else if lo == 1 && hi == some 1 then body
  else .rep body lo hi greedy

mutual

/-- The normal form of a pattern. -/
def Node.shape : Node → Shape
  | .empty => .empty
  | .set s => Shape.ofRanges (canonicalRanges s)
  | .assert a => .look a
  | .seq a b => Shape.sequence [a.shape, b.shape]
  | .alt a b => Shape.alternative 1 (a.shape :: Node.alternativeShapes b)
  | .rep b lo hi greedy => Shape.repetition b.shape lo hi greedy
  | .group true b => .capture b.shape
  | .group false b => b.shape

/-- The normal forms of the parts of a chain of alternatives. -/
def Node.alternativeShapes : Node → List Shape
  | .alt a b => a.shape :: Node.alternativeShapes b
  | n => [n.shape]

end

/-- Literals in sequence join into the one literal of all their characters. -/
theorem joinLiterals_literals (cs : List Nat) (css : List (List Nat)) :
    joinLiterals ((cs :: css).map Shape.literal) = [.literal (cs :: css).flatten] := by
  induction css generalizing cs with
  | nil => simp [joinLiterals]
  | cons cs' css ih =>
    rw [List.map_cons, joinLiterals, ih cs']
    simp

/-- Literals are parts that a sequence keeps as they are. -/
theorem openSequence_literals (css : List (List Nat)) :
    openSequence (css.map Shape.literal) = css.map Shape.literal := by
  induction css with
  | nil => rfl
  | cons cs css ih =>
    simp only [openSequence, List.map_cons, List.flatMap_cons] at ih ⊢
    rw [ih]
    rfl

/-- A sequence of literals is the literal of all their characters. -/
theorem Shape.sequence_literals (cs : List Nat) (css : List (List Nat)) :
    Shape.sequence ((cs :: css).map .literal) = .literal (cs :: css).flatten := by
  rw [Shape.sequence, openSequence_literals, joinLiterals_literals]

example : Shape.sequence [.literal [97], .literal [98]] = .literal [97, 98] := rfl

end SerialHub.Pattern
