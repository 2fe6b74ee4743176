import SerialHub.Toml.Datetime

/-!
# Configuration values

A configuration file is a table: keys, each with a value. A value is a text, a 64-bit integer,
a float, a boolean, a date-time, an array of values, or a table in turn. A table keeps its keys
in the order they were first given; a key occurs in it at most once.
-/

namespace SerialHub.Toml

/-- A value of a configuration file. -/
inductive Value where
  | string (s : String)
  | integer (n : Int)
  | float (x : Float)
  | boolean (b : Bool)
  | datetime (d : Datetime)
  | array (items : List Value)
  | table (entries : List (String × Value))
  deriving Inhabited

namespace Value

mutual

/-- Whether two values are equal: of the same kind, with equal contents, tables holding the same
keys in the same order. -/
def beq : Value → Value → Bool
  | .string a, .string b => a == b
  | .integer a, .integer b => a == b
  | .float a, .float b => decide (a = b)
  | .boolean a, .boolean b => a == b
  | .datetime a, .datetime b => decide (a = b)
  | .array as, .array bs => beqItems as bs
  | .table es, .table fs => beqEntries es fs
  | _, _ => false

/-- Whether two lists of values are equal, item by item. -/
def beqItems : List Value → List Value → Bool
  | [], [] => true
  | a :: as, b :: bs => beq a b && beqItems as bs
  | _, _ => false

/-- Whether two lists of entries are equal, entry by entry. -/
def beqEntries : List (String × Value) → List (String × Value) → Bool
  | [], [] => true
  | (k, a) :: es, (k', b) :: fs => k == k' && beq a b && beqEntries es fs
  | _, _ => false

end

mutual

theorem eq_of_beq : ∀ {a b : Value}, beq a b = true → a = b
  | .string _, .string _, h
  | .integer _, .integer _, h
  | .float _, .float _, h
  | .boolean _, .boolean _, h
  | .datetime _, .datetime _, h => by simp_all [beq]
  | .array _, .array _, h => by rw [eq_of_beqItems h]
  | .table _, .table _, h => by rw [eq_of_beqEntries h]
  | .string _, .integer _, h | .string _, .float _, h | .string _, .boolean _, h
  | .string _, .datetime _, h | .string _, .array _, h | .string _, .table _, h
  | .integer _, .string _, h | .integer _, .float _, h | .integer _, .boolean _, h
  | .integer _, .datetime _, h | .integer _, .array _, h | .integer _, .table _, h
  | .float _, .string _, h | .float _, .integer _, h | .float _, .boolean _, h
  | .float _, .datetime _, h | .float _, .array _, h | .float _, .table _, h
  | .boolean _, .string _, h | .boolean _, .integer _, h | .boolean _, .float _, h
  | .boolean _, .datetime _, h | .boolean _, .array _, h | .boolean _, .table _, h
  | .datetime _, .string _, h | .datetime _, .integer _, h | .datetime _, .float _, h
  | .datetime _, .boolean _, h | .datetime _, .array _, h | .datetime _, .table _, h
  | .array _, .string _, h | .array _, .integer _, h | .array _, .float _, h
  | .array _, .boolean _, h | .array _, .datetime _, h | .array _, .table _, h
  | .table _, .string _, h | .table _, .integer _, h | .table _, .float _, h
  | .table _, .boolean _, h | .table _, .datetime _, h | .table _, .array _, h => by
    simp [beq] at h

theorem eq_of_beqItems : ∀ {as bs : List Value}, beqItems as bs = true → as = bs
  | [], [], _ => rfl
  | a :: as, b :: bs, h => by
    simp only [beqItems, Bool.and_eq_true] at h
    rw [eq_of_beq h.1, eq_of_beqItems h.2]
  | [], _ :: _, h | _ :: _, [], h => by simp [beqItems] at h

theorem eq_of_beqEntries : ∀ {es fs : List (String × Value)}, beqEntries es fs = true → es = fs
  | [], [], _ => rfl
  | (k, a) :: es, (k', b) :: fs, h => by
    simp only [beqEntries, Bool.and_eq_true, beq_iff_eq] at h
    rw [h.1.1, eq_of_beq h.1.2, eq_of_beqEntries h.2]
  | [], _ :: _, h | _ :: _, [], h => by simp [beqEntries] at h

end

mutual

theorem beq_self : ∀ a : Value, beq a a = true
  | .string _ | .integer _ | .float _ | .boolean _ | .datetime _ => by simp [beq]
  | .array as => beqItems_self as
  | .table es => beqEntries_self es

theorem beqItems_self : ∀ as : List Value, beqItems as as = true
  | [] => rfl
  | a :: as => by simp [beqItems, beq_self a, beqItems_self as]

theorem beqEntries_self : ∀ es : List (String × Value), beqEntries es es = true
  | [] => rfl
  | (_, a) :: es => by simp [beqEntries, beq_self a, beqEntries_self es]

end

instance : DecidableEq Value := fun a b =>
  decidable_of_iff (beq a b) ⟨eq_of_beq, fun h => h ▸ beq_self a⟩

end Value

/-- The smallest 64-bit integer. -/
def minInteger : Int := -(Int.pow 2 63)

/-- The largest 64-bit integer. -/
def maxInteger : Int := Int.pow 2 63 - 1

/-- Whether an integer is a 64-bit integer. -/
def isInteger (n : Int) : Bool := minInteger ≤ n && n ≤ maxInteger

/-- What reading and saving configuration files use of a TOML library: reading a document's text
as its table, which fails on a text that is no document, and writing a table as a document. -/
structure Codec where
  read : String → Option (List (String × Value))
  write : List (String × Value) → String

end SerialHub.Toml
