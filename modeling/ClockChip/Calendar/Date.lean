/-!
# Proleptic Gregorian dates

Days are numbered from 1 January 1970, which is day 0, in both directions and without a bound.
A date names a day by year, month and day of the month; the Gregorian leap rule holds for all
years, those before its introduction and those before year 1 included.

## Main definitions

* `isLeapYear`, `monthLengths`, `daysBeforeYear`, `daysBeforeMonth`: the calendar's counts.
* `Date`, `Date.dayNumber`, `Date.ofDayNumber`: dates and day numbers.
* `weekdayOf`: days since Sunday.

## Main results

* `daysBeforeYear_yearOf`, `lt_daysBeforeYear_yearOf`: the year found for a day contains it.
-/

namespace ClockChip

/-- Every fourth year is a leap year, except the centuries that four hundred does not divide. -/
def isLeapYear (year : Int) : Bool :=
  year % 4 == 0 && (year % 100 != 0 || year % 400 == 0)

/-- The lengths of the twelve months. -/
def monthLengths (leap : Bool) : List Nat :=
  [31, if leap then 29 else 28, 31, 30, 31, 30, 31, 31, 30, 31, 30, 31]

/-- Days from 1 January of year 1 to 1 January of the given year. -/
def daysBeforeYear (year : Int) : Int :=
  365 * (year - 1) + (year - 1) / 4 - (year - 1) / 100 + (year - 1) / 400

/-- Days from 1 January to the first of the given month. -/
def daysBeforeMonth (leap : Bool) (month : Nat) : Nat :=
  ((monthLengths leap).take (month - 1)).foldr (· + ·) 0

/-- Days from 1 January of year 1 to 1 January 1970. -/
def epochDay : Int := 719162

/-- A civil date.  Months and days of the month count from one. -/
structure Date where
  /-- The year; the year before year 1 is year 0. -/
  year : Int
  /-- The month, 1 to 12. -/
  month : Nat
  /-- The day of the month. -/
  day : Nat
  deriving DecidableEq, Repr

/-- The number of a date's day. -/
def Date.dayNumber (d : Date) : Int :=
  daysBeforeYear d.year + daysBeforeMonth (isLeapYear d.year) d.month + (d.day - 1) - epochDay

/-- The year that contains the day `n` days after 1 January of year 1.  The mean length of a year
gives a guess that is at most one year off. -/
def yearOf (n : Int) : Int :=
  let guess := 400 * n / 146097 + 1
  if n < daysBeforeYear guess then guess - 1
  else if daysBeforeYear (guess + 1) ≤ n then guess + 1
  else guess

theorem daysBeforeYear_yearOf (n : Int) : daysBeforeYear (yearOf n) ≤ n := by
  unfold yearOf daysBeforeYear
  dsimp only
  split
  · omega
  · split <;> omega

theorem lt_daysBeforeYear_yearOf (n : Int) : n < daysBeforeYear (yearOf n + 1) := by
  unfold yearOf daysBeforeYear
  dsimp only
  split
  · omega
  · split <;> omega

/-- Counts `days` off against a list of month lengths: how many months have passed, and how many
days of the month that is reached. -/
def passMonths : List Nat → (days : Nat) → Nat × Nat
  | [], days => (0, days)
  | len :: lens, days =>
    if days < len then (0, days)
    else
      let (months, rest) := passMonths lens (days - len)
      (months + 1, rest)

/-- The date of a day. -/
def Date.ofDayNumber (n : Int) : Date :=
  let day := n + epochDay
  let year := yearOf day
  let (months, days) :=
    passMonths (monthLengths (isLeapYear year)) (day - daysBeforeYear year).toNat
  ⟨year, months + 1, days + 1⟩

/-- Days since Sunday.  Day 0 was a Thursday. -/
def weekdayOf (n : Int) : Nat := ((n + 4) % 7).toNat

end ClockChip
