import SerialHub.Decimal.Nearest

/-!
# Reading a decimal numeral in steps of float arithmetic

A numeral is read by keeping its significand in a 64-bit word, dropping the digits that do not
fit (each dropped digit of the whole part raising the power of ten), rounding the significand to
a float and multiplying or dividing by the float nearest to the power of ten, dividing by
`10 ^ 308` step by step beyond the table. Every step is exact arithmetic on naturals and float
bits, and the result is not always the float nearest to the numeral.
-/

namespace SerialHub.Decimal

/-- The largest value of a 64-bit word. -/
def wordMax : Nat := Nat.pow 2 64 - 1

/-- The significand kept when digits are appended to `s`, with how many of them were kept:
digits are appended while the significand fits in a word, and the first one that does not fit
ends the appending. -/
def keepDigits (s : Nat) : List Nat → Nat × Nat
  | [] => (s, 0)
  | d :: ds =>
    if s * 10 + d > wordMax then (s, 0)
    else
      let (t, n) := keepDigits (s * 10 + d) ds
      (t, n + 1)

/-- A decimal numeral as written: its sign, the digits before the point, the digits after it, and
the power of ten written after them. Its value is the digits read as one number times ten to the
power less the number of fraction digits. -/
structure Numeral where
  negative : Bool
  whole : List Nat
  fraction : List Nat
  exponent : Int
  deriving Repr, DecidableEq

/-- The significand kept from a numeral and the power of ten it is scaled by. -/
def Numeral.parts (n : Numeral) : Nat × Int :=
  let (s, a) := keepDigits 0 n.whole
  let (t, b) := keepDigits s n.fraction
  (t, (n.whole.length : Int) - a - b + n.exponent)

/-- The exact value `m · 2 ^ q` of the bits of a finite non-negative float. -/
def bitsValue (bits : Nat) : Nat × Int :=
  let field : Nat := bits / Nat.pow 2 52
  let fraction : Nat := bits % Nat.pow 2 52
  if field == 0 then (fraction, -1074) else (fraction + Nat.pow 2 52, (field : Int) - 1075)

/-- The bits of the float nearest to the fraction `m · 2 ^ q / d`, for `d > 0`. -/
def nearestQuotientBits (m : Nat) (q : Int) (d : Nat) : Nat :=
  if m == 0 then 0
  else if 0 ≤ q then nearestFractionBits (m * Nat.pow 2 q.toNat) d
  else nearestFractionBits m (d * Nat.pow 2 (-q).toNat)

/-- The bits of the rounded product of two finite non-negative floats, given by their bits. -/
def mulBits (a b : Nat) : Nat :=
  let (ma, qa) := bitsValue a
  let (mb, qb) := bitsValue b
  nearestQuotientBits (ma * mb) (qa + qb) 1

/-- The bits of the rounded quotient of two finite non-negative floats, given by their bits; the
divisor is not zero. -/
def divBits (a b : Nat) : Nat :=
  let (ma, qa) := bitsValue a
  let (mb, qb) := bitsValue b
  nearestQuotientBits ma (qa - qb) mb

/-- The bits of infinity. -/
def infinityBits : Nat := 2047 * Nat.pow 2 52

/-- The bits of the float nearest to `10 ^ k`. -/
def powTenBits (k : Nat) : Nat := nearestBits 1 k

/-- The bits of a float divided by `10 ^ k` in steps: by `10 ^ k` at once when it is at most
`10 ^ 308`, else by `10 ^ 308` and then by the rest, stopping at zero. -/
def divPowTen (bits : Nat) (k : Nat) : Nat :=
  if k ≤ 308 then divBits bits (powTenBits k)
  else if bits == 0 then 0
  else divPowTen (divBits bits (powTenBits 308)) (k - 308)
termination_by k
decreasing_by omega

/-- The bits of a float multiplied by `10 ^ k`, or nothing when the product is out of range. -/
def mulPowTen (bits : Nat) (k : Nat) : Option Nat :=
  if k ≤ 308 then
    let r := mulBits bits (powTenBits k)
    if r == infinityBits then none else some r
  else if bits == 0 then some 0
  else none

/-- The float a numeral is read as, or nothing when it is out of range. -/
def Numeral.readStepwise (n : Numeral) : Option Float :=
  let (s, k) := n.parts
  let start := nearestBits s 0
  let magnitude := if 0 ≤ k then mulPowTen start k.toNat else some (divPowTen start (-k).toNat)
  magnitude.map (fun bits =>
    Float.ofBits (UInt64.ofNat (bits + if n.negative then Nat.pow 2 63 else 0)))

/-- Appending digits never lowers a significand. -/
theorem start_le_foldl_digits (s : Nat) (ds : List Nat) :
    s ≤ ds.foldl (fun n d => n * 10 + d) s := by
  induction ds generalizing s with
  | nil => exact Nat.le_refl s
  | cons d ds ih =>
    have hstep : s ≤ s * 10 + d := by omega
    exact Nat.le_trans hstep (ih (s * 10 + d))

/-- Digits whose value fits in a word are all kept, and the significand is their value. -/
theorem keepDigits_of_fits {s : Nat} {ds : List Nat}
    (h : ds.foldl (fun n d => n * 10 + d) s ≤ wordMax) :
    keepDigits s ds = (ds.foldl (fun n d => n * 10 + d) s, ds.length) := by
  induction ds generalizing s with
  | nil => rfl
  | cons d ds ih =>
    -- the value of the digits so far is at most the value of them all
    have hfits : s * 10 + d ≤ wordMax :=
      Nat.le_trans (start_le_foldl_digits (s * 10 + d) ds) h
    rw [keepDigits, if_neg (Nat.not_lt.mpr hfits), ih h]
    rfl

example : keepDigits 0 [1, 2, 3] = (123, 3) := by decide

/-- The significand kept from a significand that fits in a word fits in a word. -/
theorem keepDigits_fst_le {s : Nat} (hs : s ≤ wordMax) (ds : List Nat) :
    (keepDigits s ds).1 ≤ wordMax := by
  induction ds generalizing s with
  | nil => exact hs
  | cons d ds ih =>
    unfold keepDigits
    split
    · exact hs
    · rename_i hfits
      exact ih (Nat.not_lt.mp hfits)

/-- The significand of a numeral fits in a word, however many digits it is written with. -/
theorem Numeral.parts_fst_le (n : Numeral) : n.parts.1 ≤ wordMax :=
  keepDigits_fst_le (keepDigits_fst_le (Nat.zero_le _) n.whole) n.fraction

/-- A whole part of 21 digits keeps 20 of them and raises the power of ten by one. -/
example : (Numeral.parts ⟨false, List.replicate 21 1, [], 0⟩) = (11111111111111111111, 1) := by
  decide

end SerialHub.Decimal
