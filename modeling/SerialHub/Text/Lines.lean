/-!
# Lines of a text

A file of entries is cut into lines at each line feed. A line that ends in a carriage return
before its line feed loses that one character, and the text after the last line feed is a line,
kept as it is, only when it is not empty. So `"a\r\nb\r\n"` has the lines `a` and `b`, and
`"a\n\nb\r"` has `a`, the empty line and `b\r`.
-/

namespace SerialHub.Text

/-- A line without one trailing carriage return. -/
def dropCarriageReturn (line : List Char) : List Char :=
  match line.getLast? with
  | some '\r' => line.dropLast
  | _ => line

/-- The lines of a character list, with the current line collected in reverse. -/
def linesAux : List Char → List Char → List (List Char)
  | [], current => if current.isEmpty then [] else [current.reverse]
  | '\n' :: rest, current => dropCarriageReturn current.reverse :: linesAux rest []
  | c :: rest, current => linesAux rest (c :: current)

/-- The lines of a text. -/
def lines (s : String) : List String :=
  (linesAux s.toList []).map String.ofList

end SerialHub.Text
