import SerialHub.Toml.Read
import SerialHub.Decimal.Shortest

/-!
# Writing a configuration file

A table is written as a document that reads back as the same table: the plain values of a table
first, one `key = value` line each, then every table below it as a `[header]` section, tables in
arrays inline. Keys are bare when they can be, texts are basic texts with escapes, and floats are
written with their shortest digits and always a fraction, or as `inf` or `nan` with a sign.
-/

namespace SerialHub.Toml

/-- Four uppercase hexadecimal digits of a code point below `0x10000`. -/
def hex4 (n : Nat) : String :=
  let digits := (Nat.toDigits 16 n).map Char.toUpper
  String.ofList (List.replicate (4 - digits.length) '0' ++ digits)

/-- How a character is written inside a basic text. -/
def escapeChar (c : Char) : String :=
  if c == '"' then "\\\""
  else if c == '\\' then "\\\\"
  else if c == '\x08' then "\\b"
  else if c == '\t' then "\\t"
  else if c == '\n' then "\\n"
  else if c == '\x0c' then "\\f"
  else if c == '\r' then "\\r"
  else if c.toNat < 0x20 || c.toNat == 0x7F then "\\u" ++ hex4 c.toNat
  else c.toString

/-- A text written as a basic text. -/
def basicText (s : String) : String :=
  "\"" ++ String.join (s.toList.map escapeChar) ++ "\""

/-- A key as written: bare when it can be. -/
def keyText (k : String) : String :=
  if !k.isEmpty && k.toList.all isBareKeyChar then k else basicText k

/-- A float as written. -/
def floatText (x : Float) : String :=
  let negative := x.toBits.toNat ≥ Nat.pow 2 63
  if x.isNaN then (if negative then "-nan" else "nan")
  else if x == 0 then (if negative then "-0.0" else "0.0")
  else
    let d := Decimal.display x
    if x.isInf || d.toList.contains '.' then d else d ++ ".0"

mutual

/-- A value as written after a key. -/
def valueText : Value → String
  | .string s => basicText s
  | .integer n => toString n
  | .float x => floatText x
  | .boolean b => if b then "true" else "false"
  | .datetime d => d.text
  | .array vs => "[" ++ ", ".intercalate (valuesText vs) ++ "]"
  | .table es =>
    if es.isEmpty then "\x7b\x7d" else "\x7b " ++ ", ".intercalate (pairsText es) ++ " \x7d"

/-- Values as written, in order. -/
def valuesText : List Value → List String
  | [] => []
  | v :: rest => valueText v :: valuesText rest

/-- Key and value pairs as written, in order. -/
def pairsText : List (String × Value) → List String
  | [] => []
  | (k, v) :: rest => (keyText k ++ " = " ++ valueText v) :: pairsText rest

end

/-- Whether a value is a table. -/
def Value.isTable : Value → Bool
  | .table _ => true
  | _ => false

/-- A header naming the table at a path. -/
def headerText (path : List String) : String :=
  "[" ++ ".".intercalate (path.map keyText) ++ "]\n"

/-- The `key = value` lines of the plain values of a table, in order. -/
def plainLines (es : List (String × Value)) : String :=
  String.join ((es.filter (fun (_, v) => !v.isTable)).map fun (k, v) =>
    keyText k ++ " = " ++ valueText v ++ "\n")

mutual

/-- The sections of the tables held by a table at a path, in order. -/
def subsections (path : List String) : List (String × Value) → List String
  | [] => []
  | (k, v) :: rest => subsection path k v ++ subsections path rest

/-- The section of a key's value when it is a table: a blank line, its header, its lines, and
the sections of the tables below it. -/
def subsection (path : List String) (k : String) : Value → List String
  | .table sub =>
    ["\n" ++ headerText (path ++ [k]) ++ plainLines sub ++
      String.join (subsections (path ++ [k]) sub)]
  | _ => []

end

/-- The lines of a table at a path, and the sections of the tables below it. -/
def sectionText (path : List String) (es : List (String × Value)) : String :=
  plainLines es ++ String.join (subsections path es)

/-- A table written as a document. -/
def documentText (root : List (String × Value)) : String :=
  sectionText [] root

/-- Documents read by `readDocument` and written by `documentText`. -/
def codec : Codec := ⟨readDocument, documentText⟩

end SerialHub.Toml
