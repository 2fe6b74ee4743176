import SerialHub.Text.Printable

/-!
# Quoted texts

A text is shown quoted when a message repeats a value exactly as it was given, so that blanks,
controls and quotes in it stay visible. Inside the double quotes, the null, tab, carriage return
and line feed characters are written as backslash escapes, a backslash or a double quote gets a
backslash before it, and a character that is unprintable or extends the character before it is
written as its code point in hexadecimal between braces. Every other character, letters of any
script included, stands as it is.
-/

namespace SerialHub.Text

/-- A character written as its code point: a backslash, `u`, and lowercase hexadecimal digits in
braces, without leading zeros. -/
def codePointEscape (c : Char) : String :=
  "\\u\x7b" ++ String.ofList (Nat.toDigits 16 c.toNat) ++ "\x7d"

/-- How one character is written inside a quoted text. -/
def escapeInQuote (c : Char) : String :=
  if c = '\x00' then "\\0"
  else if c = '\t' then "\\t"
  else if c = '\r' then "\\r"
  else if c = '\n' then "\\n"
  else if c = '\\' then "\\\\"
  else if c = '"' then "\\\""
  else if isExtender c then codePointEscape c
  else if isPrintable c then c.toString
  else codePointEscape c

/-- A text between double quotes, each character written as `escapeInQuote` writes it. -/
def quoted (s : String) : String :=
  "\"" ++ String.join (s.toList.map escapeInQuote) ++ "\""

end SerialHub.Text
