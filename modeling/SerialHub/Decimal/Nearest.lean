/-!
# The float nearest to a decimal

Reading a decimal `m · 10 ^ e` gives the 64-bit float nearest to it, ties to the even significand,
with infinity and zero beyond the range. The float is found with exact arithmetic on natural
numbers, the decimal as a fraction rounded once at the power of two its magnitude fixes, and then
assembled bit by bit.
-/

namespace SerialHub.Decimal

/-- The number of decimal digits of a natural number; zero has one. -/
def digitCount (n : Nat) : Nat := (Nat.toDigits 10 n).length

/-- `num / den` rounded to the nearest natural number, ties to the even one. -/
def roundHalfEven (num den : Nat) : Nat :=
  let q := num / den
  let r := num % den
  if 2 * r > den || (2 * r == den && q % 2 == 1) then q + 1 else q

/-- Whether `N / D ≥ 2 ^ j`. -/
def atLeastTwoPow (N D : Nat) (j : Int) : Bool :=
  if 0 ≤ j then D * Nat.pow 2 j.toNat ≤ N else D ≤ N * Nat.pow 2 (-j).toNat

/-- The binary order of magnitude of a positive fraction `N / D`: the `j` with
`2 ^ j ≤ N / D < 2 ^ (j + 1)`. The base-two logarithms of `N` and `D` fix it up to one. -/
def binaryOrder (N D : Nat) : Int :=
  let t : Int := (N.log2 : Int) - (D.log2 : Int)
  if atLeastTwoPow N D t then t else t - 1

/-- The bits of the float nearest to a positive fraction `N / D`, sign bit clear. -/
def nearestFractionBits (N D : Nat) : Nat :=
  let k := max (binaryOrder N D - 52) (-1074)
  let s := if 0 ≤ k then roundHalfEven N (D * Nat.pow 2 k.toNat)
    else roundHalfEven (N * Nat.pow 2 (-k).toNat) D
  let (s, k) := if s == Nat.pow 2 53 then (Nat.pow 2 52, k + 1) else (s, k)
  if k > 971 then 2047 * Nat.pow 2 52
  else if s < Nat.pow 2 52 then s
  else (k + 1075).toNat * Nat.pow 2 52 + (s - Nat.pow 2 52)

/-- The bits of the float nearest to `m · 10 ^ e`, sign bit clear. Decimals far outside the
range of floats are settled by their number of digits alone. -/
def nearestBits (m : Nat) (e : Int) : Nat :=
  if m == 0 then 0
  else if (digitCount m : Int) + e > 310 then 2047 * Nat.pow 2 52
  else if (digitCount m : Int) + e < -330 then 0
  else if 0 ≤ e then nearestFractionBits (m * Nat.pow 10 e.toNat) 1
  else nearestFractionBits m (Nat.pow 10 (-e).toNat)

/-- The float nearest to `± m · 10 ^ e`. -/
def nearest (negative : Bool) (m : Nat) (e : Int) : Float :=
  Float.ofBits (UInt64.ofNat (nearestBits m e + if negative then Nat.pow 2 63 else 0))

end SerialHub.Decimal
