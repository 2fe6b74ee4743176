/-!
# Hexadecimal bytes

Bytes written as two lowercase hexadecimal digits each, with no separator, and read back from
digits of either case. Reading refuses an odd number of digits and any other character.
-/

namespace SerialHub.Text

/-- The hexadecimal digit of a value below sixteen, lowercase. -/
def hexDigit (n : Nat) : Char :=
  if n < 10 then Char.ofNat (48 + n) else Char.ofNat (87 + n)

/-- The two digits of one byte. -/
def hexByte (b : UInt8) : List Char :=
  [hexDigit (b.toNat / 16), hexDigit (b.toNat % 16)]

/-- The hexadecimal text of a byte list. -/
def hexOf (bs : List UInt8) : String :=
  String.ofList (bs.flatMap hexByte)

/-- The value of one hexadecimal digit of either case. -/
def hexValue? (c : Char) : Option Nat :=
  if '0' ≤ c ∧ c ≤ '9' then some (c.toNat - 48)
  else if 'a' ≤ c ∧ c ≤ 'f' then some (c.toNat - 87)
  else if 'A' ≤ c ∧ c ≤ 'F' then some (c.toNat - 55)
  else none

/-- The bytes of a digit list, two digits a byte. -/
def bytesOfHexChars : List Char → Option (List UInt8)
  | [] => some []
  | [_] => none
  | hi :: lo :: rest => do
    let h ← hexValue? hi
    let l ← hexValue? lo
    let tail ← bytesOfHexChars rest
    pure ((16 * h + l).toUInt8 :: tail)

/-- The bytes of a hexadecimal text. -/
def bytesOfHex? (s : String) : Option (List UInt8) :=
  bytesOfHexChars s.toList

end SerialHub.Text
