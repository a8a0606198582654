import ClockChip.Byte.Bits
import ClockChip.Calendar.Field

/-!
# Numbers packed into time registers

Three registers hold more than one number.  The hours register has a mode flag and an afternoon
flag above the hour; the fifth register has two bits of the year above the day; the sixth has
three bits of the weekday above the month.

## Main definitions

* `Hours.pack`, `Hours.unpack`: mode and hour.
* `YearDay.pack`, `YearDay.unpack`: year and day of the month.
* `WeekdayMonth.pack`, `WeekdayMonth.unpack`: weekday and month.
-/

namespace ClockChip

namespace Hours

/-- The bit that selects the twelve-hour mode. -/
def modeBit : Nat := 7

/-- The flag of the afternoon in twelve-hour mode. -/
def afternoon : UInt8 := 0x40

/-- The register of an hour byte.  In twelve-hour mode the calendar's afternoon flag moves up to
where the register has it. -/
def pack (raw : UInt8) (twelveHour : Bool) : UInt8 :=
  if twelveHour then
    let val := 0x80 ||| raw
    if val &&& afternoonFlag = 0 then val else (val &&& ~~~afternoonFlag) ||| afternoon
  else raw

/-- The mode, and the six bits that are handed to the calendar. -/
def unpack (val : UInt8) : Bool × UInt8 := (Byte.bit val modeBit, val &&& 0x3f)

end Hours

namespace YearDay

/-- The low two bits of the year above the day. -/
def pack (year day : UInt8) : UInt8 := ((year &&& 0x03) <<< 6) ||| day

/-- Year and day. -/
def unpack (val : UInt8) : UInt8 × UInt8 := ((val &&& 0xc0) >>> 6, val &&& 0x3f)

end YearDay

namespace WeekdayMonth

/-- The weekday, counted from one, above the month. -/
def pack (weekday month : UInt8) : UInt8 := (((weekday + 1) &&& 0x07) <<< 5) ||| month

/-- Days since Sunday, and the month.  A stored weekday of zero is the day before Sunday. -/
def unpack (val : UInt8) : Int × UInt8 :=
  ((((val &&& 0xe0) >>> 5).toNat : Int) - 1, val &&& 0x1f)

end WeekdayMonth

end ClockChip
