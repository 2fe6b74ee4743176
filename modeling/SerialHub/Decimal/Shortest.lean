/-!
# Shortest decimal digits of a binary float

The shortest decimal of a finite float is the one with the fewest significant digits among those
that read back as the float, the nearest of them, and of two equally near the larger in magnitude.
It is found by trying 1 to 17 digits, where only the float's two neighbours on each decimal grid
need checking; all arithmetic is exact, on natural numbers.
-/

namespace SerialHub.Decimal

/-- A finite nonzero magnitude `significand · 2 ^ exponent`, with what its interval needs: the
gap to the next lower float is half the usual one at the bottom of a binade. -/
structure Binary where
  significand : Nat
  exponent : Int
  narrowBelow : Bool
  deriving Repr, DecidableEq

/-- What a 64-bit pattern stands for. -/
inductive Shape where
  | nan
  | infinite (negative : Bool)
  | zero (negative : Bool)
  | finite (negative : Bool) (value : Binary)
  deriving Repr, DecidableEq

/-- Reads the sign, the biased exponent and the fraction of a 64-bit pattern. -/
def shapeOfBits (bits : UInt64) : Shape :=
  let n := bits.toNat
  let negative := n / Nat.pow 2 63 % 2 == 1
  let biased : Nat := n / Nat.pow 2 52 % 2048
  let fraction := n % Nat.pow 2 52
  if biased == 2047 then
    if fraction == 0 then .infinite negative else .nan
  else if biased == 0 then
    if fraction == 0 then .zero negative else .finite negative ⟨fraction, -1074, false⟩
  else
    .finite negative ⟨fraction + Nat.pow 2 52, (biased : Int) - 1075, fraction == 0 && biased > 1⟩

/-- What a float stands for. -/
def shapeOf (x : Float) : Shape :=
  shapeOfBits x.toBits

/-- Compares `a · 2 ^ x · 10 ^ y` with `b · 2 ^ x' · 10 ^ y'` exactly. -/
def compareScaled (a : Nat) (x y : Int) (b : Nat) (x' y' : Int) : Ordering :=
  let x0 := min x x'
  let y0 := min y y'
  compare (a * Nat.pow 2 (x - x0).toNat * Nat.pow 10 (y - y0).toNat)
    (b * Nat.pow 2 (x' - x0).toNat * Nat.pow 10 (y' - y0).toNat)

/-- Whether `10 ^ k ≤ m · 2 ^ e`. -/
def powTenLe (k : Int) (m : Nat) (e : Int) : Bool :=
  compareScaled 1 0 k m e 0 != .gt

/-- Moves an estimate of the decimal exponent to the greatest `k` with `10 ^ k ≤ m · 2 ^ e`;
an estimate off by a few places is corrected within the fuel. -/
def settleExponent (m : Nat) (e : Int) : Nat → Int → Int
  | 0, k => k
  | fuel + 1, k =>
    if !powTenLe k m e then settleExponent m e fuel (k - 1)
    else if powTenLe (k + 1) m e then settleExponent m e fuel (k + 1)
    else k

/-- The decimal exponent of `m · 2 ^ e` for `m > 0`: the greatest `k` with `10 ^ k` at most
the value. The first estimate uses `log10 2 ≈ 0.30103`. -/
def decimalExponent (m : Nat) (e : Int) : Int :=
  let estimate := ((Nat.log2 m : Int) + e) * 30103 / 100000
  settleExponent m e 8 estimate

/-- The interval of reals that read back as the float, as its two ends `a · 2 ^ x`, and whether
the ends themselves read back. -/
structure Interval where
  low : Nat
  lowExp : Int
  high : Nat
  highExp : Int
  closed : Bool

/-- The rounding interval of a finite magnitude. -/
def Binary.interval (b : Binary) : Interval :=
  if b.narrowBelow then
    ⟨4 * b.significand - 1, b.exponent - 2, 2 * b.significand + 1, b.exponent - 1,
      b.significand % 2 == 0⟩
  else
    ⟨2 * b.significand - 1, b.exponent - 1, 2 * b.significand + 1, b.exponent - 1,
      b.significand % 2 == 0⟩

/-- Whether `d · 10 ^ g` lies in the interval. -/
def Interval.holds (i : Interval) (d : Nat) (g : Int) : Bool :=
  let aboveLow := compareScaled d 0 g i.low i.lowExp 0
  let belowHigh := compareScaled d 0 g i.high i.highExp 0
  (aboveLow == .gt || (i.closed && aboveLow == .eq)) &&
    (belowHigh == .lt || (i.closed && belowHigh == .eq))

/-- The greatest `d` with `d · 10 ^ g` at most `m · 2 ^ e`. -/
def floorOnGrid (m : Nat) (e g : Int) : Nat :=
  (m * Nat.pow 2 e.toNat * Nat.pow 10 (-g).toNat) / (Nat.pow 2 (-e).toNat * Nat.pow 10 g.toNat)

/-- The decimal with `n` significant digits chosen for a magnitude, if one lies in its interval:
of the two grid neighbours, the one inside, or the nearer when both are, the upper one on a tie. -/
def candidate (b : Binary) (top : Int) (n : Nat) : Option (Nat × Int) :=
  let g := top - n + 1
  let lo := floorOnGrid b.significand b.exponent g
  let hi := lo + 1
  let i := b.interval
  match i.holds lo g, i.holds hi g with
  | true, true =>
    match compareScaled (2 * b.significand) b.exponent 0 (2 * lo + 1) 0 g with
    | .lt => some (lo, g)
    | .gt => some (hi, g)
    | .eq => some (hi, g)
  | true, false => some (lo, g)
  | false, true => some (hi, g)
  | false, false => none

/-- Moves trailing zeros of the digits into the exponent. -/
def stripZeros : Nat → Nat → Int → Nat × Int
  | 0, d, g => (d, g)
  | fuel + 1, d, g => if d != 0 && d % 10 == 0 then stripZeros fuel (d / 10) (g + 1) else (d, g)

/-- The shortest decimal `d · 10 ^ g` of a finite magnitude, found among 1 to 17 digits. -/
def Binary.shortest (b : Binary) : Nat × Int :=
  let top := decimalExponent b.significand b.exponent
  let found := (List.range 17).findSome? (fun k => candidate b top (k + 1))
  let (d, g) := found.getD (floorOnGrid b.significand b.exponent (top - 16), top - 16)
  stripZeros 20 d g

/-- The digits of a decimal `d · 10 ^ g` written out without an exponent. -/
def positional (d : Nat) (g : Int) : String :=
  let digits := (Nat.repr d).toList
  if g ≥ 0 then
    String.ofList (digits ++ List.replicate g.toNat '0')
  else
    let k := (-g).toNat
    if digits.length > k then
      String.ofList (digits.take (digits.length - k) ++ '.' :: digits.drop (digits.length - k))
    else
      String.ofList ('0' :: '.' :: List.replicate (k - digits.length) '0' ++ digits)

/-- A float written with the fewest digits that read back, never with an exponent, and without
a fractional part when it is a whole number: `3`, `0.5`, `-0`, `1e-7` as `0.0000001`, and the
texts `NaN`, `inf` and `-inf`. -/
def display (x : Float) : String :=
  match shapeOf x with
  | .nan => "NaN"
  | .infinite negative => if negative then "-inf" else "inf"
  | .zero negative => if negative then "-0" else "0"
  | .finite negative b =>
    let (d, g) := b.shortest
    (if negative then "-" else "") ++ positional d g

/-- The shortest decimal of a finite float as sign, digits and power of ten; zero has the digits
`0`, and a float that is not finite has none. -/
def decimalOf? (x : Float) : Option (Bool × Nat × Int) :=
  match shapeOf x with
  | .nan => none
  | .infinite _ => none
  | .zero negative => some (negative, 0, 0)
  | .finite negative b =>
    let (d, g) := b.shortest
    some (negative, d, g)

end SerialHub.Decimal
