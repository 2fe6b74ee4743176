import SerialHub.Text.Blank
import SerialHub.Text.Lines

/-!
# Port blacklists

A blacklist names ports that may not be opened or listed. Each entry is trimmed; empty entries
and entries starting with `#` are comments, an entry holding one of `[]{}()*+?|^$\.` is a
pattern that blocks every name it matches somewhere, and any other entry blocks the name it
spells. Patterns are compiled by a regular expression library, given as a parameter: a pattern
it refuses is left out.
-/

namespace SerialHub

/-- The characters that make an entry a pattern. -/
def patternMarks : List Char :=
  ['[', ']', '{', '}', '(', ')', '*', '+', '?', '|', '^', '$', '\\', '.']

/-- Whether an entry is read as a pattern. -/
def isPatternEntry (s : String) : Bool :=
  s.toList.any (fun c => patternMarks.contains c)

/-- Port names blocked exactly, and patterns, each kept as the test of whether it matches
somewhere in a name. -/
structure Blacklist where
  exact : List String := []
  patterns : List (String → Bool) := []
  deriving Inhabited

namespace Blacklist

/-- The blacklist of no entries. -/
def empty : Blacklist := {}

section

/- `compile` is the regular expression library: a pattern's test, or nothing when the library
refuses the pattern. -/
variable (compile : String → Option (String → Bool))

/-- Adds one entry. -/
def add (b : Blacklist) (entry : String) : Blacklist :=
  let t := Text.trim entry
  if t.isEmpty || t.startsWith "#" then b
  else if isPatternEntry t then
    match compile t with
    | some m => { b with patterns := b.patterns ++ [m] }
    | none => b
  else if b.exact.contains t then b
  else { b with exact := b.exact ++ [t] }

/-- The blacklist of a list of entries. -/
def ofEntries (entries : List String) : Blacklist :=
  entries.foldl (add compile) empty

/-- Adds the lines of a file's text as entries. -/
def addText (b : Blacklist) (content : String) : Blacklist :=
  (Text.lines content).foldl (add compile) b

end

/-- The number of exact names and patterns held. -/
def size (b : Blacklist) : Nat :=
  b.exact.length + b.patterns.length

/-- Whether a port name is blocked. -/
def blocks (b : Blacklist) (port : String) : Bool :=
  b.exact.contains port || b.patterns.any (fun m => m port)

end Blacklist

end SerialHub
