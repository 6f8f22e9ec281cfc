/-!
# The Gregorian calendar

Dates of the calendar extended to all years from 1 on. A date's `ordinal` is the number of days
from January 1 of year 1 to it, by the leap year rule; `ofOrdinal` finds the date of an ordinal
by dividing out the periods of 400, 100, 4 and 1 years.
-/

namespace TxnLog.Calendar

/-- Every fourth year is a leap year, of full centuries only every fourth. -/
def isLeap (year : Nat) : Bool :=
  year % 4 == 0 && (year % 100 != 0 || year % 400 == 0)

/-- The lengths of the twelve months. -/
def monthLengths (leap : Bool) : List Nat :=
  [31, if leap then 29 else 28, 31, 30, 31, 30, 31, 31, 30, 31, 30, 31]

/-- A day of the calendar; months and days count from 1. -/
structure Date where
  year : Nat
  month : Nat
  day : Nat
  deriving DecidableEq, Repr

namespace Date

/-- The date exists. -/
def Valid (d : Date) : Prop :=
  1 ≤ d.year ∧ 1 ≤ d.month ∧ d.month ≤ 12 ∧ 1 ≤ d.day ∧
    d.day ≤ (monthLengths (isLeap d.year)).getD (d.month - 1) 0

instance (d : Date) : Decidable d.Valid := inferInstanceAs (Decidable (_ ∧ _))

/-- The number of days before January 1 of a year. -/
def daysBeforeYear (year : Nat) : Nat :=
  let y := year - 1
  y * 365 + y / 4 - y / 100 + y / 400

/-- The number of days of a year before the first of a month. -/
def daysBeforeMonth (leap : Bool) (month : Nat) : Nat :=
  ((monthLengths leap).take (month - 1)).foldl (· + ·) 0

/-- The number of days from January 1 of year 1 to the date. -/
def ordinal (d : Date) : Nat :=
  daysBeforeYear d.year + daysBeforeMonth (isLeap d.year) d.month + (d.day - 1)

/-- Month and day of the `n`-th day, counted from 0, after the first of month `month`, whose
length and the following ones are given. -/
def monthAndDay (month : Nat) : List Nat → Nat → Nat × Nat
  | [], n => (month, n + 1)
  | length :: more, n =>
    if n < length then (month, n + 1) else monthAndDay (month + 1) more (n - length)

/-- The date `n` days after January 1 of year 1. The last year of a century and of a period of
four years may be a day longer than the others, hence the bounds on the quotients. -/
def ofOrdinal (n : Nat) : Date :=
  let n400 := n / 146097
  let r400 := n % 146097
  let n100 := min 3 (r400 / 36524)
  let r100 := r400 - n100 * 36524
  let n4 := r100 / 1461
  let r4 := r100 % 1461
  let n1 := min 3 (r4 / 365)
  let r1 := r4 - n1 * 365
  let year := n400 * 400 + n100 * 100 + n4 * 4 + n1 + 1
  let (month, day) := monthAndDay 1 (monthLengths (isLeap year)) r1
  { year, month, day }

end Date

/-- The ordinal of January 1, 1970. -/
def epoch : Nat := 719162

/-- The number of days in the years 1 to 9999. -/
def dayLimit : Nat := 3652059

end TxnLog.Calendar
