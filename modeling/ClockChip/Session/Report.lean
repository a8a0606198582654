import ClockChip.Byte.Hex
import ClockChip.Byte.PackedDecimal
import ClockChip.Register.Bank

/-!
# What is printed of a chip

The time line is made from the bytes of the first seven registers.  A dump adds the control
register and a table of the whole address space, sixteen bytes in a row behind the row's address.

## Main definitions

* `twoDigits`: a number with at least two decimal digits.
* `Report.time`, `Report.time?`: the time line.
* `Report.control`, `Report.row`, `Report.table`, `Report.dump`: the lines of a dump.
-/

namespace ClockChip

/-- A number in decimal, with a leading zero if it has only one digit. -/
def twoDigits (n : Nat) : String := (if n < 10 then "0" else "") ++ toString n

namespace Report

/-- The names of the days of the week. -/
def weekdayNames : List String := ["Sun", "Mon", "Tue", "Wed", "Thu", "Fri", "Sat"]

/-- The name of a day of the week, given as days since Sunday. -/
def weekdayName (weekday : Int) : String :=
  if weekday < 0 then "???" else weekdayNames.getD weekday.toNat "???"

/-- The number in a packed decimal register, with two digits at least. -/
def packed (b : UInt8) : String := twoDigits (PackedDecimal.toBinary b).toNat

/-- The hour in the hours register: below the two flags in twelve-hour mode, below the mode
otherwise. -/
def hour (hours : UInt8) : UInt8 :=
  let (twelveHour, raw) := Hours.unpack hours
  if twelveHour then raw &&& 0x1f else raw

/-- What follows the time of day in twelve-hour mode. -/
def halfDay (hours : UInt8) : String :=
  if (Hours.unpack hours).1 then
    if hours &&& Hours.afternoon = 0 then " AM" else " PM"
  else ""

/-- The time line of the registers from the hundredths to the month. -/
def time (hundredths seconds minutes hours yearDay weekdayMonth : UInt8) : String :=
  let (year, day) := YearDay.unpack yearDay
  let (weekday, month) := WeekdayMonth.unpack weekdayMonth
  weekdayName weekday ++ " " ++ packed day ++ "/" ++ packed month
    ++ " year+" ++ toString year.toNat
    ++ " " ++ packed (hour hours) ++ ":" ++ packed minutes ++ ":" ++ packed seconds
    ++ "." ++ packed hundredths ++ halfDay hours

/-- The time line of the registers from address zero on; `none` if there are not enough. -/
def time? : List UInt8 → Option String
  | _ :: hundredths :: seconds :: minutes :: hours :: yearDay :: weekdayMonth :: _ =>
    some (time hundredths seconds minutes hours yearDay weekdayMonth)
  | _ => none

/-- The line of the control register. -/
def control (b : UInt8) : String :=
  "control 0x" ++ String.ofList (Hex.byte b)
    ++ (if Byte.bit b haltBit then " (halted)" else "")

/-- One row of the table: the address of its first byte, and its bytes. -/
def row (address : Nat) (bytes : List UInt8) : String :=
  String.ofList (Hex.byte (UInt8.ofNat address)) ++ ": "
    ++ String.intercalate " " (bytes.map fun b => String.ofList (Hex.byte b))

/-- Sixteen rows of sixteen bytes. -/
def table (bytes : List UInt8) : List String :=
  (List.range 16).map fun i => row (16 * i) ((bytes.drop (16 * i)).take 16)

/-- The lines of a dump of an address space; `none` if the time line has not enough registers. -/
def dump (bytes : List UInt8) : Option (List String) :=
  (time? bytes).map fun line => line :: control (bytes.headD 0) :: table bytes

end Report

end ClockChip
