/-!
# Sets of characters

A set of code points is a list of inclusive ranges. Membership reads the list as it is; the set
operations that need order first bring the list to its normal form, sorted and with no two
ranges touching, and the complement is taken within the code points `0` to `0x10FFFF`.
-/

namespace SerialHub.Pattern

/-- The greatest code point. -/
def maxCodePoint : Nat := 0x10FFFF

/-- A set of code points, as inclusive ranges. -/
structure CharSet where
  ranges : List (Nat × Nat)
  deriving Repr, DecidableEq, Inhabited

namespace CharSet

/-- The empty set. -/
def empty : CharSet := ⟨[]⟩

/-- All code points. -/
def full : CharSet := ⟨[(0, maxCodePoint)]⟩

/-- One code point. -/
def single (n : Nat) : CharSet := ⟨[(n, n)]⟩

/-- The code points from `lo` to `hi`. -/
def range (lo hi : Nat) : CharSet := ⟨[(lo, hi)]⟩

/-- Whether a code point is in the set. -/
def memNat (s : CharSet) (n : Nat) : Bool :=
  s.ranges.any (fun r => r.1 ≤ n && n ≤ r.2)

/-- Whether a character is in the set. -/
def mem (s : CharSet) (c : Char) : Bool :=
  s.memNat c.toNat

/-- Whether every code point of the set is ASCII. -/
def isAscii (s : CharSet) : Bool :=
  s.ranges.all (fun r => r.2 < 0x80 || r.2 < r.1)

/-- The code points in either set. -/
def union (a b : CharSet) : CharSet := ⟨a.ranges ++ b.ranges⟩

/-- Joins sorted ranges that overlap or touch. -/
def mergeSorted : List (Nat × Nat) → List (Nat × Nat)
  | [] => []
  | [r] => [r]
  | r :: s :: rest =>
    if s.1 ≤ r.2 + 1 then mergeSorted ((r.1, max r.2 s.2) :: rest)
    else r :: mergeSorted (s :: rest)
termination_by rs => rs.length

/-- The normal form: sorted, with no two ranges touching, empty ranges dropped. -/
def normalize (s : CharSet) : CharSet :=
  ⟨mergeSorted ((s.ranges.filter (fun r => r.1 ≤ r.2)).mergeSort (fun a b => a.1 ≤ b.1))⟩

/-- The gaps of sorted disjoint ranges, from a starting code point up to the greatest one. -/
def gaps : Nat → List (Nat × Nat) → List (Nat × Nat)
  | start, [] => if start ≤ maxCodePoint then [(start, maxCodePoint)] else []
  | start, r :: rest =>
    (if start < r.1 then [(start, r.1 - 1)] else []) ++ gaps (r.2 + 1) rest

/-- The code points not in the set. -/
def complement (s : CharSet) : CharSet :=
  ⟨gaps 0 (normalize s).ranges⟩

/-- The code points in both sets. -/
def inter (a b : CharSet) : CharSet :=
  complement (union (complement a) (complement b))

/-- The code points of the first set that are not in the second. -/
def diff (a b : CharSet) : CharSet :=
  inter a (complement b)

/-- The code points in exactly one of the sets. -/
def symmDiff (a b : CharSet) : CharSet :=
  union (diff a b) (diff b a)

/-- The set with both members of every listed pair whose one member it holds. -/
def closeUnder (pairs : List (Nat × Nat)) (s : CharSet) : CharSet :=
  let extra := pairs.foldl (fun acc p =>
    if s.memNat p.1 then (p.2, p.2) :: acc
    else if s.memNat p.2 then (p.1, p.1) :: acc
    else acc) []
  ⟨s.ranges ++ extra⟩

end CharSet

end SerialHub.Pattern
