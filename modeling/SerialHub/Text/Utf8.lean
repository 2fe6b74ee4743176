/-!
# UTF-8 text from bytes

Bytes read from a device are shown as text by lossy UTF-8 decoding: every well-formed sequence
of RFC 3629 becomes its character, and every maximal part of a sequence that cannot be
completed becomes one replacement character `U+FFFD`. A maximal part is a lead byte followed by
the continuation bytes that still fit the lead, so `E2 82` followed by `41` gives one
replacement character and then `A`, and a stray continuation byte gives one replacement
character of its own.
-/

namespace SerialHub.Text

/-- The UTF-8 encoding of a text, as a byte list. -/
def utf8 (s : String) : List UInt8 :=
  s.toUTF8.toList

/-- The replacement character `U+FFFD`. -/
def replacement : Char := Char.ofNat 0xFFFD

/-- What a lead byte asks for: the number of continuation bytes, the least and the greatest
value of the first of them, and the payload bits of the lead itself. Bytes that cannot lead a
sequence ask for nothing. -/
def leadShape (b : Nat) : Option (Nat × Nat × Nat × Nat) :=
  if 0xC2 ≤ b ∧ b ≤ 0xDF then some (1, 0x80, 0xBF, b % 32)
  else if b = 0xE0 then some (2, 0xA0, 0xBF, b % 16)
  else if 0xE1 ≤ b ∧ b ≤ 0xEC then some (2, 0x80, 0xBF, b % 16)
  else if b = 0xED then some (2, 0x80, 0x9F, b % 16)
  else if 0xEE ≤ b ∧ b ≤ 0xEF then some (2, 0x80, 0xBF, b % 16)
  else if b = 0xF0 then some (3, 0x90, 0xBF, b % 8)
  else if 0xF1 ≤ b ∧ b ≤ 0xF3 then some (3, 0x80, 0xBF, b % 8)
  else if b = 0xF4 then some (3, 0x80, 0x8F, b % 8)
  else none

/-- Reads `count` continuation bytes, the first between `lo` and `hi`, the others between
`0x80` and `0xBF`. Returns the code point when all of them are there, and how many fitting
bytes were taken. -/
def continuation : Nat → Nat → Nat → Nat → List UInt8 → Option Nat × Nat
  | 0, _, _, acc, _ => (some acc, 0)
  | _ + 1, _, _, _, [] => (none, 0)
  | k + 1, lo, hi, acc, b :: rest =>
    if lo ≤ b.toNat ∧ b.toNat ≤ hi then
      let (value, used) := continuation k 0x80 0xBF (acc * 64 + b.toNat % 64) rest
      (value, used + 1)
    else (none, 0)

/-- The character at the head of a byte list, or the replacement character for a maximal part
that cannot be completed, with the number of bytes taken less one. -/
def scalarAt (b : UInt8) (rest : List UInt8) : Char × Nat :=
  if b.toNat < 0x80 then (Char.ofNat b.toNat, 0)
  else
    match leadShape b.toNat with
    | none => (replacement, 0)
    | some (count, lo, hi, payload) =>
      let (value, used) := continuation count lo hi payload rest
      ((value.map Char.ofNat).getD replacement, used)

/-- Lossy UTF-8 decoding of a byte list. -/
def decodeLossy : List UInt8 → List Char
  | [] => []
  | b :: rest =>
    let (c, used) := scalarAt b rest
    c :: decodeLossy (rest.drop used)
termination_by bs => bs.length
decreasing_by
  simp only [List.length_drop, List.length_cons]
  omega

/-- Lossy UTF-8 text of a byte list. -/
def textOfBytes (bs : List UInt8) : String :=
  String.ofList (decodeLossy bs)

end SerialHub.Text
