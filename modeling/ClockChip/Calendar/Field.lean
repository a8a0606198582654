import ClockChip.Byte.PackedDecimal
import ClockChip.Calendar.Civil
import ClockChip.Calendar.Instant

/-!
# The fields of a calendar clock

A clock is read and set one field at a time.  Setting a field to a value out of its range is no
error: the surplus carries into the neighbouring fields, so that day 31 of a month with thirty
days is the first of the next month, and month 13 is January of the following year.

## Main definitions

* `Field`: what can be read or set.
* `Field.get`: the byte that a field shows at an instant.
* `Field.replace`: the instant at which one field has another value.
* `onMonth`: the same day count and time of day in another month.
-/

namespace ClockChip

/-- A part of a date and time that can be read or set by itself. -/
inductive Field where
  /-- Seconds of the minute. -/
  | second
  /-- Minutes of the hour. -/
  | minute
  /-- Hours of the day, 0 to 23. -/
  | hour
  /-- Hours 1 to 12, with the afternoon flag. -/
  | hourAmPm
  /-- Day of the month. -/
  | dayOfMonth
  /-- Month of the year. -/
  | month
  /-- Year of the century. -/
  | year
  /-- Days since Sunday, always in binary. -/
  | weekday
  deriving DecidableEq, Repr

/-- The flag that marks the afternoon beside an hour from 1 to 12. -/
def afternoonFlag : UInt8 := 0x20

/-- The hour that a twelve-hour dial shows: midnight and noon are 12. -/
def dialHour (hour : Nat) : Nat := if hour % 12 = 0 then 12 else hour % 12

namespace Field

/-- The byte that a field shows at the instant `t`. -/
def get (f : Field) (t : Int) (coding : Coding) : UInt8 :=
  let c := Civil.shown t
  match f with
  | second => coding.encode (UInt8.ofNat c.second)
  | minute => coding.encode (UInt8.ofNat c.minute)
  | hour => coding.encode (UInt8.ofNat c.hour)
  | hourAmPm =>
    coding.encode (UInt8.ofNat (dialHour c.hour)) ||| (if 12 ≤ c.hour then afternoonFlag else 0)
  | dayOfMonth => coding.encode (UInt8.ofNat c.date.day)
  | month => coding.encode (UInt8.ofNat c.date.month)
  | year => coding.encode (UInt8.ofInt (c.date.year % 100))
  | weekday => UInt8.ofNat c.weekday

end Field

/-- The instant with the day count and time of day of `c`, counted from the first of another month.
Months are numbered from zero here and carry into the year; `none` if the year that is reached
lies outside the calendar. -/
def onMonth (c : Civil) (year monthIndex : Int) : Option Int :=
  let year := year + monthIndex / 12
  let month := (monthIndex % 12).toNat + 1
  if firstYear ≤ year ∧ year ≤ lastYear then
    some (Civil.toSeconds ⟨⟨year, month, 1⟩, c.hour, c.minute, c.second⟩
      + ((c.date.day : Int) - 1) * daySeconds)
  else none

namespace Field

/-- The hour of the day that a twelve-hour byte means: 12 is the hour before 1, and the afternoon
flag adds half a day. -/
def dayHour (val : UInt8) (coding : Coding) : Int :=
  ((coding.decode (val &&& 0x1f) % 12).toNat : Int) + (if val &&& afternoonFlag = 0 then 0 else 12)

/-- The instant that differs from `t` in one field, which takes the value `value`.

Only the low eight bits of a value count, except for the weekday.  A month or year outside the
calendar leaves the instant alone; every other sum stops at the ends of the 64-bit range. -/
def replace (f : Field) (value : Int) (t : Int) (coding : Coding) : Int :=
  let c := Civil.shown t
  let val := UInt8.ofInt value
  let raw : Int := (coding.decode val).toNat
  match f with
  | second => clamp (t + (raw - c.second))
  | minute => clamp (t + (raw - c.minute) * minuteSeconds)
  | hour => clamp (t + (raw - c.hour) * hourSeconds)
  | hourAmPm => clamp (t + (dayHour val coding - c.hour) * hourSeconds)
  | dayOfMonth => clamp (t + (raw - c.date.day) * daySeconds)
  | weekday => clamp (t + (value - c.weekday) * daySeconds)
  | month => (onMonth c c.date.year (raw - 1)).getD t
  | year =>
    let century := c.date.year - c.date.year % 100
    (onMonth c (century + raw) ((c.date.month : Int) - 1)).getD t

end Field

end ClockChip
