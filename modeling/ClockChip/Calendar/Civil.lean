import ClockChip.Calendar.Date

/-!
# Seconds as civil dates and times

An instant is a number of seconds since the start of 1 January 1970, read as a date and a time of
day without a time zone.  The calendar covers the years from `firstYear` to `lastYear`; an instant
outside it shows the calendar's very first second.

## Main definitions

* `Civil`, `Civil.ofSeconds`, `Civil.toSeconds`: an instant taken apart and put together.
* `InCalendar`: the instants whose year the calendar covers.
* `Civil.shown`: the date and time that an instant shows, inside the calendar or outside.
-/

namespace ClockChip

/-- Seconds in a minute. -/
def minuteSeconds : Int := 60

/-- Seconds in an hour. -/
def hourSeconds : Int := 3600

/-- Seconds in a day. -/
def daySeconds : Int := 86400

/-- The first year of the calendar. -/
def firstYear : Int := -262143

/-- The last year of the calendar. -/
def lastYear : Int := 262142

/-- The first second of the calendar. -/
def firstSecond : Int := Date.dayNumber ⟨firstYear, 1, 1⟩ * daySeconds

/-- The last second of the calendar. -/
def lastSecond : Int := Date.dayNumber ⟨lastYear, 12, 31⟩ * daySeconds + (daySeconds - 1)

/-- The year of the instant `t` belongs to the calendar. -/
def InCalendar (t : Int) : Prop := firstSecond ≤ t ∧ t ≤ lastSecond

instance (t : Int) : Decidable (InCalendar t) := inferInstanceAs (Decidable (_ ∧ _))

/-- A date and a time of day. -/
structure Civil where
  /-- The date. -/
  date : Date
  /-- The hour, 0 to 23. -/
  hour : Nat
  /-- The minute, 0 to 59. -/
  minute : Nat
  /-- The second, 0 to 59. -/
  second : Nat
  deriving DecidableEq, Repr

namespace Civil

/-- The date and time of an instant, by the calendar without its limits. -/
def ofSeconds (t : Int) : Civil :=
  let s := (t % daySeconds).toNat
  ⟨Date.ofDayNumber (t / daySeconds), s / 3600, s / 60 % 60, s % 60⟩

/-- Seconds since midnight. -/
def timeOfDay (c : Civil) : Int :=
  c.hour * hourSeconds + c.minute * minuteSeconds + c.second

/-- The instant of a date and time. -/
def toSeconds (c : Civil) : Int := c.date.dayNumber * daySeconds + c.timeOfDay

/-- Days since Sunday. -/
def weekday (c : Civil) : Nat := weekdayOf c.date.dayNumber

/-- The date and time that an instant shows: its own inside the calendar, the calendar's first
second outside. -/
def shown (t : Int) : Civil := ofSeconds (if InCalendar t then t else firstSecond)

end Civil

end ClockChip
