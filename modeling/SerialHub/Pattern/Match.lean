import SerialHub.Pattern.Syntax
import SerialHub.Pattern.Classes

/-!
# Where a pattern matches

A pattern is run on a text by sets of positions: each node takes a set of start positions to the
set where a match of it can end. Positions run from `0` to the text's length, so after `n + 2`
applications of a body nothing new appears and repetition counts are cut there without changing
the result. A pattern matches somewhere when some start position has an end position.
-/

namespace SerialHub.Pattern

/-- Joins two sorted position lists without repeats. -/
def joinPositions : List Nat → List Nat → List Nat
  | [], bs => bs
  | as, [] => as
  | a :: as, b :: bs =>
    if a < b then a :: joinPositions as (b :: bs)
    else if b < a then b :: joinPositions (a :: as) bs
    else a :: joinPositions as bs

/-- Whether the character at a position of the text exists and is a word character. -/
def wordAt (text : Array Char) (unicode : Bool) (p : Nat) : Bool :=
  match text[p]? with
  | some c => if unicode then Classes.isWordChar c else Classes.isAsciiWordChar c
  | none => false

/-- Whether the character before a position exists and is a word character. -/
def wordBefore (text : Array Char) (unicode : Bool) (p : Nat) : Bool :=
  p > 0 && wordAt text unicode (p - 1)

/-- Whether an assertion holds at a position of a text. -/
def Assertion.holds (text : Array Char) : Assertion → Nat → Bool
  | .textStart, p => p == 0
  | .textEnd, p => p == text.size
  | .lineStart, p => p == 0 || text[p - 1]? == some '\n'
  | .lineEnd, p => p == text.size || text[p]? == some '\n'
  | .lineStartCrlf, p =>
    p == 0 || text[p - 1]? == some '\n' || (text[p - 1]? == some '\r' && text[p]? != some '\n')
  | .lineEndCrlf, p =>
    p == text.size || text[p]? == some '\r' ||
      (text[p]? == some '\n' && (p == 0 || text[p - 1]? != some '\r'))
  | .wordBoundary u, p => wordBefore text u p != wordAt text u p
  | .notWordBoundary u, p => wordBefore text u p == wordAt text u p
  | .wordStart u, p => !wordBefore text u p && wordAt text u p
  | .wordEnd u, p => wordBefore text u p && !wordAt text u p
  | .wordStartHalf u, p => !wordBefore text u p
  | .wordEndHalf u, p => !wordAt text u p

/-- The positions after one character of a set, from sorted start positions. -/
def stepOver (text : Array Char) (s : CharSet) (ps : List Nat) : List Nat :=
  ps.filterMap (fun p =>
    match text[p]? with
    | some c => if s.mem c then some (p + 1) else none
    | none => none)

/-- Applies a step function `k` times. -/
def applyTimes (f : List Nat → List Nat) : Nat → List Nat → List Nat
  | 0, ps => ps
  | k + 1, ps => applyTimes f k (f ps)

/-- The positions reached by zero to `k` applications of a step function. -/
def joinUpTo (f : List Nat → List Nat) : Nat → List Nat → List Nat → List Nat
  | 0, _, acc => acc
  | k + 1, cur, acc =>
    let next := f cur
    joinUpTo f k next (joinPositions acc next)

/-- The end positions of matches of a pattern from sorted start positions. -/
def Node.ends (text : Array Char) : Node → List Nat → List Nat
  | .empty, ps => ps
  | .set s, ps => stepOver text s ps
  | .assert a, ps => ps.filter (a.holds text)
  | .seq first second, ps => second.ends text (first.ends text ps)
  | .alt left right, ps => joinPositions (left.ends text ps) (right.ends text ps)
  | .rep body lo hi _, ps =>
    let f := body.ends text
    let cap := text.size + 2
    let start := applyTimes f (min lo cap) ps
    match hi with
    | some h => joinUpTo f (min (h - lo) cap) start start
    | none => joinUpTo f cap start start
  | .group _ body, ps => body.ends text ps

/-- Whether a pattern matches somewhere in a text. -/
def Node.matchesIn (node : Node) (s : String) : Bool :=
  let text := s.toList.toArray
  !(node.ends text (List.range (text.size + 1))).isEmpty

end SerialHub.Pattern
