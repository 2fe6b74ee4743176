/-!
# Blank characters and trimming

The characters of the Unicode `White_Space` property, and the trim that removes them from both
ends of a text. Line settings such as a parity name are read after this trim, so a tab or an
ideographic space around a value is harmless, while a zero-width space, which is not
`White_Space`, keeps the value from being read.
-/

namespace SerialHub.Text

/-- The 25 code points of the Unicode `White_Space` property: the ASCII controls tab to carriage
return, space, next line, no-break space, ogham space, the spaces from en quad to hair space,
the line and paragraph separators, the narrow no-break space, the medium mathematical space and
the ideographic space. -/
def isBlank (c : Char) : Bool :=
  let n := c.toNat
  (0x09 ≤ n && n ≤ 0x0D) || n == 0x20 || n == 0x85 || n == 0xA0 || n == 0x1680 ||
    (0x2000 ≤ n && n ≤ 0x200A) || n == 0x2028 || n == 0x2029 || n == 0x202F ||
    n == 0x205F || n == 0x3000

/-- The characters of a text without its leading and trailing blanks. -/
def trimChars (cs : List Char) : List Char :=
  ((cs.dropWhile isBlank).reverse.dropWhile isBlank).reverse

/-- A text without its leading and trailing blanks. -/
def trim (s : String) : String :=
  String.ofList (trimChars s.toList)

end SerialHub.Text
