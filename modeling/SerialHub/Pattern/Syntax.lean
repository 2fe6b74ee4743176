import SerialHub.Pattern.CharSet

/-!
# Pattern trees

A pattern is a tree over one-character classes and zero-width assertions: sequence,
alternative and bounded or unbounded repetition. Case-insensitivity, negation and the Perl and
POSIX classes are resolved when the pattern is read, so every leaf that reads a character is a
plain set of code points. Which match a repetition prefers does not change whether a pattern
matches somewhere, so repetitions carry no greed. Groups are kept, with whether they capture,
because the automata built from a pattern depend on them.
-/

namespace SerialHub.Pattern

/-- A condition on a position of the text that reads no character. -/
inductive Assertion where
  /-- The start of the text. -/
  | textStart
  /-- The end of the text. -/
  | textEnd
  /-- The start of the text or just after a line feed. -/
  | lineStart
  /-- The end of the text or just before a line feed. -/
  | lineEnd
  /-- The start of the text, just after a line feed, or just after a carriage return that no line
  feed follows. -/
  | lineStartCrlf
  /-- The end of the text, just before a carriage return, or just before a line feed that no
  carriage return precedes. -/
  | lineEndCrlf
  /-- A word character on exactly one side; Unicode or ASCII word characters. -/
  | wordBoundary (unicode : Bool)
  /-- No word boundary. -/
  | notWordBoundary (unicode : Bool)
  /-- A word character after and none before. -/
  | wordStart (unicode : Bool)
  /-- A word character before and none after. -/
  | wordEnd (unicode : Bool)
  /-- No word character before. -/
  | wordStartHalf (unicode : Bool)
  /-- No word character after. -/
  | wordEndHalf (unicode : Bool)
  deriving Repr, DecidableEq, Inhabited

/-- A pattern. -/
inductive Node where
  /-- Matches the empty text. -/
  | empty
  /-- Matches one character of the set. -/
  | set (s : CharSet)
  /-- Matches the empty text where the assertion holds. -/
  | assert (a : Assertion)
  /-- Matches the first pattern, then the second. -/
  | seq (first second : Node)
  /-- Matches either pattern. -/
  | alt (left right : Node)
  /-- Matches the body at least `min` times and at most `max` times, without bound when `max`
  is absent; a `greedy` repetition prefers more times, any other fewer. -/
  | rep (body : Node) (min : Nat) (max : Option Nat) (greedy : Bool)
  /-- Matches the body; a group of the pattern, which records where its match starts and ends
  when it is `capturing`. -/
  | group (capturing : Bool) (body : Node)
  deriving Repr, DecidableEq, Inhabited

/-- The sequence of a list of patterns. -/
def Node.seqOf : List Node → Node
  | [] => .empty
  | [n] => n
  | n :: rest => .seq n (Node.seqOf rest)

/-- The alternative of a list of patterns. -/
def Node.altOf : List Node → Node
  | [] => .empty
  | [n] => n
  | n :: rest => .alt n (Node.altOf rest)

end SerialHub.Pattern
