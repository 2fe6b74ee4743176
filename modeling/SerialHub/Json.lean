import SerialHub.Decimal.Nearest

/-!
# JSON values

A JSON value as a serializer builds it: null, a boolean, a number kept in the kind it was made as
(an unsigned or a negative 64-bit integer, or a finite float), a text, an array or an object with
distinct keys. Typed values are read back by the deserializer's rules, such as an unsigned integer
only from an integer in its range and a float from any number.
-/

namespace SerialHub

/-- A JSON number, in the kind it was made as. -/
inductive JsonNumber where
  | posInt (n : Nat)
  | negInt (n : Int)
  | float (x : Float)
  deriving Repr, DecidableEq, Inhabited

/-- A JSON value. -/
inductive Json where
  | null
  | bool (b : Bool)
  | number (n : JsonNumber)
  | string (s : String)
  | array (items : List Json)
  | object (fields : List (String × Json))
  deriving Inhabited

namespace Json

/-- A float as a JSON value: a number when it is finite, and null otherwise. -/
def ofFloat (x : Float) : Json :=
  if x.isFinite then .number (.float x) else .null

/-- The value of a key of an object. -/
def field? (fields : List (String × Json)) (k : String) : Option Json :=
  fields.lookup k

/-- An unsigned integer of `bits` bits: an integer number from 0 to `2 ^ bits - 1`. -/
def unsigned? (bits : Nat) : Json → Option Nat
  | .number (.posInt n) => if n < Nat.pow 2 bits then some n else none
  | _ => none

/-- A float: any number, an integer being taken as the float nearest to it. -/
def float? : Json → Option Float
  | .number (.posInt n) => some (Decimal.nearest false n 0)
  | .number (.negInt n) => some (Decimal.nearest true n.natAbs 0)
  | .number (.float x) => some x
  | _ => none

/-- A text. -/
def text? : Json → Option String
  | .string s => some s
  | _ => none

/-- The name of a variant of an enumeration that carries nothing. -/
def variant? : Json → Option String
  | .string s => some s
  | .object [(k, .null)] => some k
  | _ => none

end Json

end SerialHub
