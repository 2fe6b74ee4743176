/-!
# Reading integers

An integer is read from a text that is nothing but an optional sign and a run of decimal
digits: no blanks, no separators, no base prefix. A plus sign is always allowed, a minus sign
only where the type is signed, and a sign alone is no number. The value must fit the type: below
`2 ^ bits` when unsigned, and within the two's-complement range of `bits` bits when signed.
-/

namespace SerialHub.Text

/-- The value of a nonempty run of decimal digits. -/
def digitsValue? (cs : List Char) : Option Nat :=
  if cs.isEmpty || !cs.all Char.isDigit then none
  else some (cs.foldl (fun n c => 10 * n + (c.toNat - '0'.toNat)) 0)

/-- Reads an unsigned integer of `bits` bits. -/
def readUnsigned? (bits : Nat) (s : String) : Option Nat :=
  let digits := match s.toList with
    | '+' :: rest => rest
    | cs => cs
  match digitsValue? digits with
  | some n => if n < Nat.pow 2 bits then some n else none
  | none => none

/-- Reads a signed integer of `bits` bits. -/
def readSigned? (bits : Nat) (s : String) : Option Int :=
  match s.toList with
  | '-' :: rest =>
    match digitsValue? rest with
    | some n => if n ≤ Nat.pow 2 (bits - 1) then some (-(n : Int)) else none
    | none => none
  | cs =>
    let digits := match cs with
      | '+' :: rest => rest
      | cs => cs
    match digitsValue? digits with
    | some n => if n < Nat.pow 2 (bits - 1) then some (n : Int) else none
    | none => none

end SerialHub.Text
