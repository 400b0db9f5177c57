import ScriptGate.Text.Basic

/-!
# `ScriptGate.Calendar`: instants and calendar dates

An `Instant` is a number of nanoseconds since 1970-01-01T00:00:00Z, so
instants are ordered like integers. `DateTime.ofInstant` reads an
instant in the proleptic Gregorian calendar.

Days are counted from the first day of the year 1. A day number splits
into whole cycles of 400, 100, 4 and 1 years; the last century of a
400-year cycle and the last year of a 4-year cycle are one day longer
than the others, which is why their counts stop at 3.
-/

set_option autoImplicit false

namespace ScriptGate

/-- A point in time. -/
structure Instant where
  /-- Nanoseconds since 1970-01-01T00:00:00Z. -/
  nanoseconds : Int
  deriving DecidableEq, Repr

namespace Instant

/-- The instant of a whole number of seconds since 1970. -/
def ofSeconds (seconds : Int) : Instant := ⟨seconds * 1000000000⟩

/-- Whole seconds since 1970, rounded down. -/
def seconds (t : Instant) : Int := t.nanoseconds / 1000000000

/-- The nanoseconds after the last whole second. -/
def subsecond (t : Instant) : Nat := (t.nanoseconds % 1000000000).toNat

/-- `a` is no later than `b`. -/
def le (a b : Instant) : Bool := a.nanoseconds ≤ b.nanoseconds

/-- Instants are ordered like their numbers. -/
theorem le_iff (a b : Instant) : a.le b = true ↔ a.nanoseconds ≤ b.nanoseconds :=
  decide_eq_true_iff

/-- Nothing is later than itself. -/
theorem le_refl (a : Instant) : a.le a = true := (le_iff a a).mpr (Int.le_refl _)

/-- The order of instants can be chained. -/
theorem le_trans {a b c : Instant} (hab : a.le b = true) (hbc : b.le c = true) :
    a.le c = true := by
  rw [le_iff] at hab hbc ⊢
  exact Int.le_trans hab hbc

end Instant

namespace Calendar

/-- Whether a year has a leap day. -/
def isLeapYear (year : Int) : Bool :=
  year % 4 == 0 && (year % 100 != 0 || year % 400 == 0)

/-- The lengths of the months of a year, from January on. -/
def monthLengths (leap : Bool) : List Nat :=
  [31, if leap then 29 else 28, 31, 30, 31, 30, 31, 31, 30, 31, 30, 31]

/-- A date in the proleptic Gregorian calendar. -/
structure Date where
  /-- The year, where 0 is the year before the year 1. -/
  year : Int
  /-- The month, from 1 to 12. -/
  month : Nat
  /-- The day of the month, from 1. -/
  day : Nat
  deriving DecidableEq, Repr

/-- The month and the day of the day `n` (from 0) of the months with
the given lengths, the first of which has number `month`. -/
def monthAndDay (month n : Nat) : List Nat → Nat × Nat
  | [] => (month, n + 1)
  | [_] => (month, n + 1)
  | length :: rest =>
    if n < length then (month, n + 1) else monthAndDay (month + 1) (n - length) rest

/-- The year of a day number and the day (from 0) inside that year.
Day 0 is the first day of the year 1. -/
def yearAndDay (days : Int) : Int × Nat :=
  let n400 := days / 146097
  let d400 := (days % 146097).toNat
  let n100 := min (d400 / 36524) 3
  let d100 := d400 - 36524 * n100
  let n4 := d100 / 1461
  let d4 := d100 % 1461
  let n1 := min (d4 / 365) 3
  (400 * n400 + 100 * n100 + 4 * n4 + n1 + 1, d4 - 365 * n1)

/-- The date with a day number. -/
def Date.ofDays (days : Int) : Date :=
  let (year, n) := yearAndDay days
  let (month, day) := monthAndDay 1 n (monthLengths (isLeapYear year))
  { year, month, day }

/-- The day number of 1970-01-01. -/
def epochDay : Int := 719162

/-- A date with a time of day, in UTC. -/
structure DateTime extends Date where
  /-- The hour, from 0 to 23. -/
  hour : Nat
  /-- The minute, from 0 to 59. -/
  minute : Nat
  /-- The second, from 0 to 59. -/
  second : Nat
  /-- The nanosecond inside the second. -/
  nanosecond : Nat
  deriving DecidableEq, Repr

/-- What calendar and clock show at an instant. -/
def DateTime.ofInstant (t : Instant) : DateTime :=
  let secondOfDay := (t.seconds % 86400).toNat
  { toDate := Date.ofDays (epochDay + t.seconds / 86400)
    hour := secondOfDay / 3600
    minute := secondOfDay / 60 % 60
    second := secondOfDay % 60
    nanosecond := t.subsecond }

/-- A year in at least four digits. Years outside 0 to 9999 carry their
sign. -/
def yearText (year : Int) : Text :=
  if 0 ≤ year ∧ year ≤ 9999 then Text.decimalPadded 4 year.toNat
  else (if year < 0 then '-' else '+') :: Text.decimalPadded 4 year.natAbs

/-- The two digits of a calendar field. -/
def twoDigits (n : Nat) : Text := Text.decimalPadded 2 n

/-- The fraction of a second in as few groups of three digits as hold
it, with its point; nothing for a whole second. -/
def fractionText (nanosecond : Nat) : Text :=
  if nanosecond = 0 then []
  else if nanosecond % 1000000 = 0 then '.' :: Text.decimalPadded 3 (nanosecond / 1000000)
  else if nanosecond % 1000 = 0 then '.' :: Text.decimalPadded 6 (nanosecond / 1000)
  else '.' :: Text.decimalPadded 9 nanosecond

/-- The instant in the notation `1970-01-01T00:00:00Z`. -/
def timestamp (t : Instant) : Text :=
  let d := DateTime.ofInstant t
  yearText d.year ++ '-' :: twoDigits d.month ++ '-' :: twoDigits d.day ++
    'T' :: twoDigits d.hour ++ ':' :: twoDigits d.minute ++ ':' :: twoDigits d.second ++
    fractionText d.nanosecond ++ ['Z']

/-- The years that dates may have. -/
def minYear : Int := -262143

/-- The last year that dates may have. -/
def maxYear : Int := 262142

/-- The instant `seconds` after 1970, when its year is in range. -/
def instantOfSeconds? (seconds : Int) : Option Instant :=
  let year := (Date.ofDays (epochDay + seconds / 86400)).year
  if minYear ≤ year ∧ year ≤ maxYear then some (Instant.ofSeconds seconds) else none

end Calendar
end ScriptGate
