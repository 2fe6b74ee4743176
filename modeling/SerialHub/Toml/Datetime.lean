/-!
# Dates and times in configuration files

A configuration value may be a date, a time of day or both, with or without an offset from
universal time; dates must exist, seconds go up to a leap second, and fractions are kept to the
nanosecond. Written out, they read `YYYY-MM-DDTHH:MM:SS`, with the fraction without trailing
zeros and the offset as `Z` or `+HH:MM`.
-/

namespace SerialHub.Toml

/-- A calendar date. -/
structure Date where
  year : Nat
  month : Nat
  day : Nat
  deriving Repr, DecidableEq, Inhabited

/-- A time of day. -/
structure Time where
  hour : Nat
  minute : Nat
  second : Nat
  nanosecond : Nat
  deriving Repr, DecidableEq, Inhabited

/-- An offset from universal time. -/
inductive Offset where
  | utc
  | minutes (m : Int)
  deriving Repr, DecidableEq, Inhabited

/-- A date, a time, or both, with an optional offset. -/
structure Datetime where
  date : Option Date
  time : Option Time
  offset : Option Offset
  deriving Repr, DecidableEq, Inhabited

/-- Whether a year has a 29th of February. -/
def isLeapYear (year : Nat) : Bool :=
  (year % 4 == 0 && year % 100 != 0) || year % 400 == 0

/-- The number of days of a month of a year. -/
def daysInMonth (year month : Nat) : Nat :=
  if month == 2 then (if isLeapYear year then 29 else 28)
  else if month == 4 || month == 6 || month == 9 || month == 11 then 30
  else 31

/-- A number written with at least `width` digits, padded with leading zeros. -/
def padded (width n : Nat) : String :=
  let s := toString n
  String.ofList (List.replicate (width - s.length) '0') ++ s

/-- A date as `YYYY-MM-DD`. -/
def Date.text (d : Date) : String :=
  padded 4 d.year ++ "-" ++ padded 2 d.month ++ "-" ++ padded 2 d.day

/-- The digits of a fraction of a second in nanoseconds, without trailing zeros. -/
def fractionDigits (nanosecond : Nat) : String :=
  String.ofList ((padded 9 nanosecond).toList.reverse.dropWhile (· == '0')).reverse

/-- A time as `HH:MM:SS`, with its fraction when it has one. -/
def Time.text (t : Time) : String :=
  padded 2 t.hour ++ ":" ++ padded 2 t.minute ++ ":" ++ padded 2 t.second ++
    (if t.nanosecond == 0 then "" else "." ++ fractionDigits t.nanosecond)

/-- An offset as `Z` or as a signed `HH:MM`. -/
def Offset.text : Offset → String
  | .utc => "Z"
  | .minutes m =>
    (if m < 0 then "-" else "+") ++ padded 2 (m.natAbs / 60) ++ ":" ++ padded 2 (m.natAbs % 60)

/-- A date-time as written out. -/
def Datetime.text (d : Datetime) : String :=
  (match d.date with
    | some date => date.text
    | none => "") ++
  (match d.time with
    | some time => (if d.date.isSome then "T" else "") ++ time.text
    | none => "") ++
  (match d.offset with
    | some o => o.text
    | none => "")

end SerialHub.Toml
