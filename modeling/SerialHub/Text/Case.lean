/-!
# Letter case

The ASCII case maps change the 26 Latin letters only, so setting names compared through them are
never matched by a fullwidth or accented letter. The keyword fold is the Unicode lowercase as far
as ASCII keywords can see: besides the ASCII capitals, only the Kelvin sign and the capital I with
dot above lowercase to something holding an ASCII letter.
-/

namespace SerialHub.Text

/-- The ASCII uppercase of a text: `a` to `z` become `A` to `Z`, all else stays. -/
def asciiUpper (s : String) : String :=
  s.map Char.toUpper

/-- The ASCII lowercase of a text: `A` to `Z` become `a` to `z`, all else stays. -/
def asciiLower (s : String) : String :=
  s.map Char.toLower

/-- The Unicode lowercase of one character, restricted to what an ASCII keyword can see. -/
def foldChar (c : Char) : List Char :=
  if c.toNat == 0x212A then ['k']
  else if c.toNat == 0x130 then ['i', Char.ofNat 0x307]
  else [c.toLower]

/-- The keyword fold of a text, character by character. -/
def keywordFold (s : String) : List Char :=
  s.toList.flatMap foldChar

/-- Whether a character list contains another one as a contiguous part. -/
def containsChars (hay needle : List Char) : Bool :=
  match hay with
  | [] => needle.isEmpty
  | c :: rest => needle.isPrefixOf (c :: rest) || containsChars rest needle

/-- Whether the lowercase of a text contains a given keyword written in lowercase ASCII. -/
def mentions (s : String) (keyword : String) : Bool :=
  containsChars (keywordFold s) keyword.toList

end SerialHub.Text
