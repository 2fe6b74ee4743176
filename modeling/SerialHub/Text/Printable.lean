import SerialHub.Unicode.Character

/-!
# Printable characters

When a text is shown quoted, a character is written as it is only if it is printable, and else as
its code point. The unprintable ones are the controls, format characters, surrogates, private use
and unassigned code points, separators but the space, default ignorable code points, and the marks
that extend the character before them, from the 17.0 tables of the character predicates.
-/

namespace SerialHub.Text

open SerialHub.Unicode

/-- The unprintable code points, as closed ranges. -/
def unprintableRanges : List (Nat × Nat) := readRanges unprintableText

/-- The marks that extend the character before them, as closed ranges. -/
def extenderRanges : List (Nat × Nat) := readRanges extendingMarkText

/-- Whether a character is shown as it is inside a quoted text: the space, or a character of
none of the unprintable categories that is not default ignorable. -/
def isPrintable (c : Char) : Bool :=
  c == ' ' || !inRanges unprintableRanges c.toNat

/-- Whether a character is a mark that extends the character before it. -/
def isExtender (c : Char) : Bool := inRanges extenderRanges c.toNat

end SerialHub.Text
