import SerialHub.Error
import SerialHub.Text.Case

/-!
# Line endings

A terminal ends each command with a carriage return, a line feed, or both. The ending is named
`CR`, `LF` or `CRLF`, read with ASCII letters compared without regard to case and without
trimming, so ` CR` is refused, and the refusal carries the text as given.
-/

namespace SerialHub.Terminal

/-- The bytes a terminal puts after a command. -/
inductive LineEnding where
  | cr
  | lf
  | crlf
  deriving Repr, DecidableEq, Inhabited

namespace LineEnding

/-- The name of a line ending. -/
def name : LineEnding → String
  | .cr => "CR"
  | .lf => "LF"
  | .crlf => "CRLF"

/-- The bytes of a line ending. -/
def bytes : LineEnding → List UInt8
  | .cr => [13]
  | .lf => [10]
  | .crlf => [13, 10]

/-- The line ending of an uppercase name. -/
def ofUpper? : String → Option LineEnding
  | "CR" => some .cr
  | "LF" => some .lf
  | "CRLF" => some .crlf
  | _ => none

/-- Reads a line ending by name. -/
def parse (s : String) : Except SerialError LineEnding :=
  match ofUpper? (Text.asciiUpper s) with
  | some e => .ok e
  | none => .error (.invalidLineEnding s)

end LineEnding

end SerialHub.Terminal
