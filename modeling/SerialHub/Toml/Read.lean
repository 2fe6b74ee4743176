import SerialHub.Toml.Document
import SerialHub.Decimal.Nearest

/-!
# Reading a configuration file

The reader takes the text of a configuration file to the table it describes, or fails, following
the format's grammar line by line: blanks, comments, `[table]` and `[[array]]` headers, and
`key = value` pairs whose values are texts, integers, floats, booleans, dates, arrays and inline
tables. Readers that call each other through nested values take a fuel argument bounding their
depth, of which the text's length is always enough.
-/

namespace SerialHub.Toml

/-! ## Characters -/

/-- A blank inside a line: space or tab. -/
def isSpace (c : Char) : Bool := c == ' ' || c == '\t'

/-- The characters after the leading blanks. -/
def skipSpaces (cs : List Char) : List Char := cs.dropWhile isSpace

/-- A character that may stand in a comment: tab, printable ASCII, or any non-ASCII. -/
def isCommentChar (c : Char) : Bool :=
  c == '\t' || (0x20 ≤ c.toNat && c.toNat ≤ 0x7E) || 0x80 ≤ c.toNat

/-- A character that may stand unescaped in a basic text. -/
def isBasicChar (c : Char) : Bool :=
  c == ' ' || c == '\t' || c == '!' || (0x23 ≤ c.toNat && c.toNat ≤ 0x5B) ||
    (0x5D ≤ c.toNat && c.toNat ≤ 0x7E) || 0x80 ≤ c.toNat

/-- A character that may stand in a literal text. -/
def isLiteralChar (c : Char) : Bool :=
  c == '\t' || (0x20 ≤ c.toNat && c.toNat ≤ 0x26) || (0x28 ≤ c.toNat && c.toNat ≤ 0x7E) ||
    0x80 ≤ c.toNat

/-- A character of a bare key. -/
def isBareKeyChar (c : Char) : Bool := c.isAlphanum || c == '-' || c == '_'

/-- The value of a hexadecimal digit of either case. -/
def hexDigitValue? (c : Char) : Option Nat :=
  if c.isDigit then some (c.toNat - '0'.toNat)
  else if 'a' ≤ c && c ≤ 'f' then some (c.toNat - 'a'.toNat + 10)
  else if 'A' ≤ c && c ≤ 'F' then some (c.toNat - 'A'.toNat + 10)
  else none

/-- The characters after one expected character. -/
def expectChar (c : Char) : List Char → Option (List Char)
  | d :: rest => if d == c then some rest else none
  | [] => none

/-- The characters after a line break: a line feed, or a carriage return and a line feed. -/
def dropNewline : List Char → Option (List Char)
  | '\n' :: rest => some rest
  | '\r' :: '\n' :: rest => some rest
  | _ => none

/-- The characters after any blanks and line breaks. -/
def skipBlankLines : List Char → List Char
  | ' ' :: rest => skipBlankLines rest
  | '\t' :: rest => skipBlankLines rest
  | '\n' :: rest => skipBlankLines rest
  | '\r' :: '\n' :: rest => skipBlankLines rest
  | cs => cs

/-- The characters after a line break directly at the start, if there is one. -/
def dropLeadingNewline (cs : List Char) : List Char :=
  (dropNewline cs).getD cs

/-! ## Texts -/

/-- The character of a code point given in hexadecimal, if it is a Unicode scalar value. -/
def scalarOfHex (digits : List Char) : Option Char := do
  let v ← digits.foldlM (fun acc c => (hexDigitValue? c).map (16 * acc + ·)) 0
  if v < 0xD800 || (0xE000 ≤ v && v ≤ 0x10FFFF) then some (Char.ofNat v) else none

/-- A code point escape of exactly `n` hexadecimal digits. -/
def readCodePoint (n : Nat) (cs : List Char) : Option (Char × List Char) :=
  if (cs.take n).length == n then (scalarOfHex (cs.take n)).map (·, cs.drop n) else none

/-- Reads the escape after a backslash in a basic text. -/
def readEscape : List Char → Option (Char × List Char)
  | 'b' :: rest => some ('\x08', rest)
  | 't' :: rest => some ('\t', rest)
  | 'n' :: rest => some ('\n', rest)
  | 'f' :: rest => some ('\x0c', rest)
  | 'r' :: rest => some ('\r', rest)
  | '"' :: rest => some ('"', rest)
  | '\\' :: rest => some ('\\', rest)
  | 'u' :: rest => readCodePoint 4 rest
  | 'U' :: rest => readCodePoint 8 rest
  | _ => none

/-- Reads the rest of a basic text after its opening quote; `acc` holds what was read, last
character first. -/
def basicBody : Nat → List Char → List Char → Option (String × List Char)
  | 0, _, _ => none
  | fuel + 1, acc, cs =>
    match cs with
    | '"' :: rest => some (String.ofList acc.reverse, rest)
    | '\\' :: rest =>
      match readEscape rest with
      | some (c, rest') => basicBody fuel (c :: acc) rest'
      | none => none
    | c :: rest => if isBasicChar c then basicBody fuel (c :: acc) rest else none
    | [] => none

/-- Reads the rest of a literal text after its opening apostrophe. -/
def literalBody (acc : List Char) : List Char → Option (String × List Char)
  | '\'' :: rest => some (String.ofList acc.reverse, rest)
  | c :: rest => if isLiteralChar c then literalBody (c :: acc) rest else none
  | [] => none

/-- Reads the rest of a multi-line basic text. A run of three to five quotes closes it, the
quotes beyond three belonging to the text; a run of six or more is refused. -/
def mlBasicBody : Nat → List Char → List Char → Option (String × List Char)
  | 0, _, _ => none
  | fuel + 1, acc, cs =>
    match cs with
    | '"' :: '"' :: '"' :: rest =>
      match rest with
      | '"' :: '"' :: '"' :: _ => none
      | '"' :: '"' :: rest' => some (String.ofList acc.reverse ++ "\"\"", rest')
      | '"' :: rest' => some (String.ofList acc.reverse ++ "\"", rest')
      | _ => some (String.ofList acc.reverse, rest)
    | '\\' :: rest =>
      match dropNewline (skipSpaces rest) with
      | some after => mlBasicBody fuel acc (skipBlankLines after)
      | none =>
        match readEscape rest with
        | some (c, rest') => mlBasicBody fuel (c :: acc) rest'
        | none => none
    | '\n' :: rest => mlBasicBody fuel ('\n' :: acc) rest
    | '\r' :: '\n' :: rest => mlBasicBody fuel ('\n' :: acc) rest
    | c :: rest => if c == '"' || isBasicChar c then mlBasicBody fuel (c :: acc) rest else none
    | [] => none

/-- Reads the rest of a multi-line literal text, closed like a multi-line basic one. -/
def mlLiteralBody (acc : List Char) : List Char → Option (String × List Char)
  | '\'' :: '\'' :: '\'' :: rest =>
    match rest with
    | '\'' :: '\'' :: '\'' :: _ => none
    | '\'' :: '\'' :: rest' => some (String.ofList acc.reverse ++ "''", rest')
    | '\'' :: rest' => some (String.ofList acc.reverse ++ "'", rest')
    | _ => some (String.ofList acc.reverse, rest)
  | '\n' :: rest => mlLiteralBody ('\n' :: acc) rest
  | '\r' :: '\n' :: rest => mlLiteralBody ('\n' :: acc) rest
  | c :: rest => if c == '\'' || isLiteralChar c then mlLiteralBody (c :: acc) rest else none
  | [] => none

/-- Reads a text of any of the four forms. -/
def readString (cs : List Char) : Option (String × List Char) :=
  match cs with
  | '"' :: '"' :: '"' :: rest =>
    let body := dropLeadingNewline rest
    mlBasicBody (body.length + 1) [] body
  | '"' :: rest => basicBody (rest.length + 1) [] rest
  | '\'' :: '\'' :: '\'' :: rest => mlLiteralBody [] (dropLeadingNewline rest)
  | '\'' :: rest => literalBody [] rest
  | _ => none

/-! ## Keys -/

/-- Reads one part of a key: bare, or a basic or literal text on one line. -/
def readSimpleKey (cs : List Char) : Option (String × List Char) :=
  match cs with
  | '"' :: rest => basicBody (rest.length + 1) [] rest
  | '\'' :: rest => literalBody [] rest
  | _ =>
    let key := cs.takeWhile isBareKeyChar
    if key.isEmpty then none else some (String.ofList key, cs.drop key.length)

/-- Reads the parts of a dotted key, with blanks around each part. -/
def readKeyParts : Nat → List Char → Option (List String × List Char)
  | 0, _ => none
  | fuel + 1, cs => do
    let (k, rest) ← readSimpleKey (skipSpaces cs)
    match skipSpaces rest with
    | '.' :: more =>
      let (ks, r) ← readKeyParts fuel more
      pure (k :: ks, r)
    | r => pure ([k], r)

/-- The deepest nesting of tables a key or value may reach. -/
def nestingLimit : Nat := 80

/-- Reads a key of fewer than `nestingLimit` parts. -/
def readKey (cs : List Char) : Option (List String × List Char) := do
  let (ks, r) ← readKeyParts (cs.length + 1) cs
  if ks.length < nestingLimit then some (ks, r) else none

/-- A key's parts before the last one, and the last one. -/
def splitKey (ks : List String) : Option (List String × String) :=
  ks.getLast?.map (ks.dropLast, ·)

/-! ## Numbers -/

/-- Reads more digits accepted by `ok` after a first one, a single underscore being allowed
between two digits; gives the digits read, first one first. -/
def digitTail (ok : Char → Bool) (acc : List Char) : List Char → Option (List Char × List Char)
  | c :: rest =>
    if ok c then digitTail ok (c :: acc) rest
    else if c == '_' then
      match rest with
      | d :: rest' => if ok d then digitTail ok (d :: acc) rest' else none
      | [] => none
    else some (acc.reverse, c :: rest)
  | [] => some (acc.reverse, [])

/-- Reads digits accepted by `ok`, at least one, with single underscores between them. -/
def digitRun (ok : Char → Bool) : List Char → Option (List Char × List Char)
  | c :: rest => if ok c then digitTail ok [c] rest else none
  | [] => none

/-- The value of digits in a base. -/
def digitsValue (base : Nat) (ds : List Char) : Nat :=
  ds.foldl (fun n c => base * n + ((hexDigitValue? c).getD 0)) 0

/-- Reads an unsigned decimal integer: `0` alone, or digits not starting with `0`. -/
def readUnsignedDecimal : List Char → Option (List Char × List Char)
  | '0' :: rest => some (['0'], rest)
  | cs => digitRun Char.isDigit cs

/-- Reads a decimal integer with an optional sign: whether it is negative, and its digits. -/
def readDecimal (cs : List Char) : Option (Bool × List Char × List Char) :=
  match cs with
  | '+' :: rest => (readUnsignedDecimal rest).map fun (ds, r) => (false, ds, r)
  | '-' :: rest => (readUnsignedDecimal rest).map fun (ds, r) => (true, ds, r)
  | _ => (readUnsignedDecimal cs).map fun (ds, r) => (false, ds, r)

/-- Reads an integer in a base after its prefix; it must not exceed the largest integer. -/
def readRadix (base : Nat) (ok : Char → Bool) (cs : List Char) : Option (Int × List Char) := do
  let (ds, r) ← digitRun ok cs
  let n := digitsValue base ds
  if (n : Int) ≤ maxInteger then some (n, r) else none

/-- Reads an integer value. -/
def readInteger (cs : List Char) : Option (Int × List Char) :=
  match cs with
  | '0' :: 'x' :: rest => readRadix 16 (fun c => (hexDigitValue? c).isSome) rest
  | '0' :: 'o' :: rest => readRadix 8 (fun c => '0' ≤ c && c ≤ '7') rest
  | '0' :: 'b' :: rest => readRadix 2 (fun c => c == '0' || c == '1') rest
  | _ => do
    let (negative, ds, r) ← readDecimal cs
    let n : Int := if negative then -(digitsValue 10 ds : Int) else digitsValue 10 ds
    if isInteger n then some (n, r) else none

/-- A float with every bit given. -/
def floatOfBits (bits : Nat) : Float := Float.ofBits (UInt64.ofNat bits)

/-- Reads `inf` or `nan` with an optional sign. -/
def readSpecialFloat (cs : List Char) : Option (Float × List Char) :=
  let (negative, rest) := match cs with
    | '+' :: r => (false, r)
    | '-' :: r => (true, r)
    | _ => (false, cs)
  let sign := if negative then Nat.pow 2 63 else 0
  match rest with
  | 'i' :: 'n' :: 'f' :: r => some (floatOfBits (sign + 0x7FF0000000000000), r)
  | 'n' :: 'a' :: 'n' :: r => some (floatOfBits (sign + 0x7FF8000000000000), r)
  | _ => none

/-- Reads an exponent after `e` or `E`: an optional sign and digits. -/
def readExponent (cs : List Char) : Option (Int × List Char) :=
  let (negative, rest) := match cs with
    | '+' :: r => (false, r)
    | '-' :: r => (true, r)
    | _ => (false, cs)
  (digitRun Char.isDigit rest).map fun (ds, r) =>
    let n := digitsValue 10 ds
    (if negative then -(n : Int) else n, r)

/-- Reads a float with a fraction, an exponent or both. -/
def readDecimalFloat (cs : List Char) : Option (Float × List Char) := do
  let (negative, whole, rest) ← readDecimal cs
  let (fraction, rest) ← match rest with
    | '.' :: more => digitRun Char.isDigit more
    | _ => some ([], rest)
  let (exponent, rest, hasExponent) ← match rest with
    | 'e' :: more | 'E' :: more => (readExponent more).map fun (e, r) => (e, r, true)
    | _ => some (0, rest, false)
  if fraction.isEmpty && !hasExponent then none
  else
    let x := Decimal.nearest negative (digitsValue 10 (whole ++ fraction))
      (exponent - fraction.length)
    if !negative && x.isInf then none else some (x, rest)

/-- Reads a float value. -/
def readFloat (cs : List Char) : Option (Float × List Char) :=
  readDecimalFloat cs <|> readSpecialFloat cs

/-! ## Dates and times -/

/-- Reads exactly `n` decimal digits. -/
def readFixedDigits (n : Nat) (cs : List Char) : Option (Nat × List Char) :=
  let ds := cs.take n
  if ds.length == n && ds.all Char.isDigit then some (digitsValue 10 ds, cs.drop n) else none

/-- Reads a date `YYYY-MM-DD` that exists. -/
def readDate (cs : List Char) : Option (Date × List Char) := do
  let (year, r) ← readFixedDigits 4 cs
  let r ← expectChar '-' r
  let (month, r) ← readFixedDigits 2 r
  let r ← expectChar '-' r
  let (day, r) ← readFixedDigits 2 r
  if 1 ≤ month && month ≤ 12 && 1 ≤ day && day ≤ daysInMonth year month then
    some (⟨year, month, day⟩, r)
  else none

/-- Nanoseconds from the digits of a fraction of a second; digits past the ninth are dropped. -/
def nanosecondsOf (ds : List Char) : Nat :=
  let kept := ds.take 9
  digitsValue 10 kept * Nat.pow 10 (9 - kept.length)

/-- Reads a time `HH:MM:SS` with an optional fraction. -/
def readTime (cs : List Char) : Option (Time × List Char) := do
  let (hour, r) ← readFixedDigits 2 cs
  let r ← expectChar ':' r
  let (minute, r) ← readFixedDigits 2 r
  let r ← expectChar ':' r
  let (second, r) ← readFixedDigits 2 r
  if hour ≤ 23 && minute ≤ 59 && second ≤ 60 then
    match r with
    | '.' :: more =>
      let ds := more.takeWhile Char.isDigit
      if ds.isEmpty then some (⟨hour, minute, second, 0⟩, r)
      else some (⟨hour, minute, second, nanosecondsOf ds⟩, more.drop ds.length)
    | _ => some (⟨hour, minute, second, 0⟩, r)
  else none

/-- Reads an offset: `Z` in either case, or a signed `HH:MM`. -/
def readOffset (cs : List Char) : Option (Offset × List Char) :=
  match cs with
  | 'Z' :: r => some (.utc, r)
  | 'z' :: r => some (.utc, r)
  | c :: r =>
    if c == '+' || c == '-' then do
      let (hour, r) ← readFixedDigits 2 r
      let r ← expectChar ':' r
      let (minute, r) ← readFixedDigits 2 r
      if hour ≤ 23 && minute ≤ 59 then
        let m : Int := hour * 60 + minute
        some (.minutes (if c == '-' then -m else m), r)
      else none
    else none
  | [] => none

/-- Reads a date with an optional time and offset, or a time alone. The time may follow the
date after `T`, `t` or a space. -/
def readDatetime (cs : List Char) : Option (Datetime × List Char) :=
  match readDate cs with
  | some (d, rest) =>
    let dateOnly := some (⟨some d, none, none⟩, rest)
    match rest with
    | c :: more =>
      if c == 'T' || c == 't' || c == ' ' then
        match readTime more with
        | some (t, r) =>
          match readOffset r with
          | some (o, r') => some (⟨some d, some t, some o⟩, r')
          | none => some (⟨some d, some t, none⟩, r)
        | none => dateOnly
      else dateOnly
    | [] => dateOnly
  | none => (readTime cs).map fun (t, r) => (⟨none, some t, none⟩, r)

/-! ## Values -/

/-- Skips blanks, line breaks and comments inside an array; a comment must end its line. -/
def skipArraySpace (inComment : Bool) : List Char → Option (List Char)
  | '\n' :: rest => skipArraySpace false rest
  | '\r' :: '\n' :: rest => skipArraySpace false rest
  | c :: rest =>
    if inComment then (if isCommentChar c then skipArraySpace true rest else none)
    else if isSpace c then skipArraySpace false rest
    else if c == '#' then skipArraySpace true rest
    else some (c :: rest)
  | [] => if inComment then none else some []

mutual

/-- Reads a value nested `depth` deep. -/
def readValue (depth : Nat) : Nat → List Char → Option (Value × List Char)
  | 0, _ => none
  | fuel + 1, cs =>
    match cs with
    | '"' :: _ => (readString cs).map fun (s, r) => (.string s, r)
    | '\'' :: _ => (readString cs).map fun (s, r) => (.string s, r)
    | '[' :: rest => if depth + 1 ≥ nestingLimit then none else readArray (depth + 1) fuel rest
    | '{' :: rest =>
      if depth + 1 ≥ nestingLimit then none else readInlineTable (depth + 1) fuel rest
    | 't' :: 'r' :: 'u' :: 'e' :: rest => some (.boolean true, rest)
    | 'f' :: 'a' :: 'l' :: 's' :: 'e' :: rest => some (.boolean false, rest)
    | c :: _ =>
      if c == '+' || c == '-' || c.isDigit then
        ((readDatetime cs).map fun (d, r) => (.datetime d, r)) <|>
        ((readFloat cs).map fun (x, r) => (.float x, r)) <|>
        ((readInteger cs).map fun (n, r) => (.integer n, r))
      else if c == 'i' || c == 'n' then (readSpecialFloat cs).map fun (x, r) => (.float x, r)
      else none
    | [] => none

/-- Reads the rest of an array after its opening bracket. -/
def readArray (depth : Nat) : Nat → List Char → Option (Value × List Char)
  | 0, _ => none
  | fuel + 1, cs =>
    match skipArraySpace false cs with
    | some (']' :: rest) => some (.array [], rest)
    | some cs' => readArrayItems depth fuel [] cs'
    | none => none

/-- Reads the items of an array from one that starts here; `acc` holds the items before. -/
def readArrayItems (depth : Nat) : Nat → List Value → List Char → Option (Value × List Char)
  | 0, _, _ => none
  | fuel + 1, acc, cs => do
    let (v, rest) ← readValue depth fuel cs
    let rest ← skipArraySpace false rest
    match rest with
    | ',' :: more =>
      match skipArraySpace false more with
      | some (']' :: r) => some (.array (acc ++ [v]), r)
      | some more' => readArrayItems depth fuel (acc ++ [v]) more'
      | none => none
    | ']' :: r => some (.array (acc ++ [v]), r)
    | _ => none

/-- Reads the rest of an inline table after its opening brace. -/
def readInlineTable (depth : Nat) : Nat → List Char → Option (Value × List Char)
  | 0, _ => none
  | fuel + 1, cs =>
    match skipSpaces cs with
    | '}' :: rest => some (.table [], rest)
    | cs' => readInlineItems depth fuel [] cs'

/-- Reads the pairs of an inline table from one that starts here; `es` holds the pairs before. -/
def readInlineItems (depth : Nat) : Nat → Entries → List Char → Option (Value × List Char)
  | 0, _, _ => none
  | fuel + 1, es, cs => do
    let (path, rest) ← readKey cs
    let rest ← expectChar '=' rest
    let (v, rest) ← readValue depth fuel (skipSpaces rest)
    let (pre, key) ← splitKey path
    let (_, es) ← addKeyval pre key v .header es
    match skipSpaces rest with
    | ',' :: more => readInlineItems depth fuel es more
    | '}' :: r => some (.table (entriesToValue es), r)
    | _ => none

end

/-! ## Documents -/

/-- The state of reading a document: the tree so far, and the path of the table being filled. -/
structure Reading where
  root : Entries := []
  current : List String := []
  deriving Inhabited

/-- Reads what may end a line after an item: blanks, a comment, and a line break or the end. -/
def readLineEnd (cs : List Char) : Option (List Char) :=
  let cs := match skipSpaces cs with
    | '#' :: rest => rest.dropWhile isCommentChar
    | cs' => cs'
  match cs with
  | [] => some []
  | _ => dropNewline cs

/-- Reads the lines of a document from here on. -/
def readLines : Nat → Reading → List Char → Option Reading
  | 0, _, _ => none
  | fuel + 1, st, cs =>
    match skipSpaces cs with
    | [] => some st
    | '\n' :: rest => readLines fuel st rest
    | '\r' :: '\n' :: rest => readLines fuel st rest
    | '#' :: rest => do
      let rest ← readLineEnd ('#' :: rest)
      readLines fuel st rest
    | '[' :: '[' :: rest => do
      let (path, rest) ← readKey rest
      let rest ← expectChar ']' rest
      let rest ← expectChar ']' rest
      let rest ← readLineEnd rest
      let (pre, key) ← splitKey path
      let root ← openArrayTable pre key st.root
      readLines fuel ⟨root, path⟩ rest
    | '[' :: rest => do
      let (path, rest) ← readKey rest
      let rest ← expectChar ']' rest
      let rest ← readLineEnd rest
      let (pre, key) ← splitKey path
      let root ← openTable pre key st.root
      readLines fuel ⟨root, path⟩ rest
    | line => do
      let (path, rest) ← readKey line
      let rest ← expectChar '=' rest
      let rest := skipSpaces rest
      let (v, rest) ← readValue 0 (4 * rest.length + 4) rest
      let rest ← readLineEnd rest
      let (pre, key) ← splitKey path
      let (_, root) ← atPath false (addKeyval pre key v) st.current .header st.root
      readLines fuel { st with root } rest

/-- The table a configuration file's text describes, or nothing when the text is not a valid
file. A byte order mark at the start is skipped. -/
def readDocument (text : String) : Option (List (String × Value)) :=
  let cs := match text.toList with
    | '\uFEFF' :: rest => rest
    | cs => cs
  (readLines (cs.length + 1) {} cs).map fun st => entriesToValue st.root

end SerialHub.Toml
