import SerialHub.Pattern.CharSet
import SerialHub.Unicode.Category
import SerialHub.Unicode.Property
import SerialHub.Unicode.Script
import SerialHub.Unicode.CaseFold
import SerialHub.Unicode.Age
import SerialHub.Unicode.Break

/-!
# Character classes of patterns

The named classes a pattern can use: digits, word characters and blanks in a Unicode and an ASCII
form, the POSIX bracket classes, and the Unicode properties written `\p{…}`, named loosely by a
property, a general category, a script, or a property and a value. Two characters are the same
letter in another case when simple case folding maps them to the same character.
-/

namespace SerialHub.Pattern.Classes

open SerialHub.Unicode

/-- The decimal digits of all scripts, category `Nd`. -/
def unicodeDigit : CharSet := ⟨Category.decimalNumber.ranges⟩

/-- The ASCII digits. -/
def asciiDigit : CharSet := CharSet.range 0x30 0x39

/-- The Unicode `White_Space` characters. -/
def unicodeSpace : CharSet := ⟨readRanges whiteSpaceText⟩

/-- The ASCII blanks: tab, line feed, vertical tab, form feed, carriage return and space. -/
def asciiSpace : CharSet := ⟨[(0x09, 0x0D), (0x20, 0x20)]⟩

/-- The Unicode word characters. -/
def unicodeWord : CharSet := ⟨readRanges wordText⟩

/-- The ASCII word characters: letters, digits and the underscore. -/
def asciiWord : CharSet := ⟨[(0x30, 0x39), (0x41, 0x5A), (0x5F, 0x5F), (0x61, 0x7A)]⟩

/-- Whether a character is a Unicode word character. -/
def isWordChar (c : Char) : Bool := unicodeWord.mem c

/-- Whether a character is an ASCII word character. -/
def isAsciiWordChar (c : Char) : Bool := asciiWord.mem c

/-- Pairs of characters that are one letter in two cases, under simple case folding. -/
def casePairs : List (Nat × Nat) := foldPairs

/-- Pairs of ASCII letters that are one letter in two cases. -/
def asciiCasePairs : List (Nat × Nat) :=
  (List.range 26).map (fun i => (0x41 + i, 0x61 + i))

/-- The set with the other cases of its letters added, Unicode ones or only ASCII ones. -/
def withCases (unicode : Bool) (s : CharSet) : CharSet :=
  CharSet.closeUnder (if unicode then casePairs else asciiCasePairs) s

/-- The ASCII class of a POSIX bracket name, such as `digit` in `[[:digit:]]`. -/
def posix? : String → Option CharSet
  | "alnum" => some ⟨[(0x30, 0x39), (0x41, 0x5A), (0x61, 0x7A)]⟩
  | "alpha" => some ⟨[(0x41, 0x5A), (0x61, 0x7A)]⟩
  | "ascii" => some ⟨[(0x0, 0x7F)]⟩
  | "blank" => some ⟨[(0x9, 0x9), (0x20, 0x20)]⟩
  | "cntrl" => some ⟨[(0x0, 0x1F), (0x7F, 0x7F)]⟩
  | "digit" => some ⟨[(0x30, 0x39)]⟩
  | "graph" => some ⟨[(0x21, 0x7E)]⟩
  | "lower" => some ⟨[(0x61, 0x7A)]⟩
  | "print" => some ⟨[(0x20, 0x7E)]⟩
  | "punct" => some ⟨[(0x21, 0x2F), (0x3A, 0x40), (0x5B, 0x60), (0x7B, 0x7E)]⟩
  | "space" => some ⟨[(0x9, 0xD), (0x20, 0x20)]⟩
  | "upper" => some ⟨[(0x41, 0x5A)]⟩
  | "word" => some asciiWord
  | "xdigit" => some ⟨[(0x30, 0x39), (0x41, 0x46), (0x61, 0x66)]⟩
  | _ => none

/-- Whether two characters begin a name with `is` in any case. -/
def isPair (a b : Char) : Bool :=
  (a == 'i' || a == 'I') && (b == 's' || b == 'S')

/-- The loose form of a property name or value: without a leading `is`, spaces, underscores,
hyphens and non-ASCII characters, with ASCII letters lowered. The one name whose `is` stays is
`isc`, the short name of the ISO comment property, which would otherwise be `c`. -/
def looseKey (s : String) : String :=
  let (dropped, body) := match s.toList with
    | a :: b :: rest => if isPair a b then (true, rest) else (false, a :: b :: rest)
    | cs => (false, cs)
  let kept := (body.filter (fun c => c != ' ' && c != '_' && c != '-' && c.toNat < 128)).map
    Char.toLower
  if dropped && kept == ['c'] then "isc" else String.ofList kept

/-- The class of a value of the general category, by its loose name, with `any`, `assigned` and
`ascii` besides the values of the property. -/
def categoryClass? (key : String) : Option CharSet :=
  match key with
  | "any" => some CharSet.full
  | "assigned" => some (CharSet.complement ⟨Category.unassigned.ranges⟩)
  | "ascii" => some ⟨[(0x0, 0x7F)]⟩
  | _ => (Category.ofName? key).map (fun ks => ⟨ks.flatMap Category.ranges⟩)

/-- The class of a lone property name: a binary property, else a value of the general category,
else a script. -/
def namedClass? (name : String) : Option CharSet :=
  let key := looseKey name
  let property := if key == "cf" || key == "sc" || key == "lc" then none else propertyRanges? key
  match property with
  | some rs => some ⟨rs⟩
  | none =>
    match categoryClass? key with
    | some s => some s
    | none => (scriptRanges? key).map CharSet.mk

/-- The class of a property and one of its values: the general category, the script, the
script extensions, the age, or one of the break properties. -/
def valueClass? (name value : String) : Option CharSet :=
  let v := looseKey value
  match looseKey name with
  | "gc" | "generalcategory" => categoryClass? v
  | "sc" | "script" => (scriptRanges? v).map CharSet.mk
  | "scx" | "scriptextensions" => (scriptExtensionRanges? v).map CharSet.mk
  | "age" => (ageRanges? v).map CharSet.mk
  | "gcb" | "graphemeclusterbreak" => (lookup? graphemeBreaks v).map CharSet.mk
  | "wb" | "wordbreak" => (lookup? wordBreaks v).map CharSet.mk
  | "sb" | "sentencebreak" => (lookup? sentenceBreaks v).map CharSet.mk
  | _ => none

end SerialHub.Pattern.Classes
