import ClockChip.Session.Report
import ClockChip.Proofs.Register.Latched

/-!
# The time line

The line that is printed of the clock is made from the seven registers at the front of a snapshot,
which were packed from the fields of the virtual time.  What was packed on one side is taken out on
the other, so the line says the weekday, day, month and time of day of the virtual time, the hour as
the mode has it, and the hundredths of the host.  Of the year it says only what the register holds.

## Main definitions

* `Civil.line`: the line of a date and time.

## Main results

* `Report.time_dated`: the line of registers that show a date and time.
* `Report.time?_latched`: **the line of what is read behind a START is that of the virtual time.**
-/

namespace ClockChip

namespace Civil

/-- The name of the day of the week. -/
def weekdayName (c : Civil) : String :=
  match c.weekday with
  | 0 => "Sun"
  | 1 => "Mon"
  | 2 => "Tue"
  | 3 => "Wed"
  | 4 => "Thu"
  | 5 => "Fri"
  | _ => "Sat"

/-- The hour on a clock of twelve or of twenty-four hours. -/
def hourOn (c : Civil) (twelveHour : Bool) : Nat := if twelveHour then dialHour c.hour else c.hour

/-- The half of the day, which only a clock of twelve hours has to say. -/
def halfDay (c : Civil) (twelveHour : Bool) : String :=
  if twelveHour then if c.hour < 12 then " AM" else " PM" else ""

/-- The line of a date and time, with the bits that stand for the year and the hundredths of the
second, of which there are no more than 99. -/
def line (c : Civil) (twelveHour : Bool) (yearBits hundredths : Nat) : String :=
  c.weekdayName ++ " " ++ twoDigits c.date.day ++ "/" ++ twoDigits c.date.month
    ++ " year+" ++ toString yearBits
    ++ " " ++ twoDigits (c.hourOn twelveHour) ++ ":" ++ twoDigits c.minute
    ++ ":" ++ twoDigits c.second ++ "." ++ twoDigits (min hundredths 99) ++ c.halfDay twelveHour

end Civil

namespace Report

variable {b : Bank} {c : Civil}

/-- A number in packed decimal is printed with two digits. -/
theorem packed_ofBinary {n : Nat} (h : n < 100) :
    packed (PackedDecimal.ofBinary (UInt8.ofNat n)) = twoDigits n := by
  have hread : (PackedDecimal.toBinary (PackedDecimal.ofBinary (UInt8.ofNat n))).toNat = n :=
    Coding.packed.toNat_decode_encode h
  rw [packed, hread]

theorem weekdayName_weekday (c : Civil) : weekdayName c.weekday = c.weekdayName := by
  have hlt := c.weekday_lt
  unfold Civil.weekdayName
  generalize c.weekday = n at hlt ⊢
  match n, hlt with
  | 0, _ | 1, _ | 2, _ | 3, _ | 4, _ | 5, _ | 6, _ => rfl

/-- The hour is printed as the mode has it. -/
theorem packed_hour (h : b.Dated c) (hc : c.Proper) :
    packed (hour (b.read 4)) = twoDigits (c.hourOn b.twelveHour) := by
  have hlt := hc.hour
  unfold hour
  rw [h.unpack_hours hc]
  cases b.twelveHour with
  | false => exact packed_ofBinary (by omega)
  | true =>
    obtain ⟨-, hdial⟩ := dialHour_bounds c.hour
    obtain ⟨hread, -⟩ := Coding.packed.decode_dial hdial false
    exact congrArg twoDigits hread

/-- The flag of the afternoon is set behind noon. -/
theorem halfDay_hours (h : b.Dated c) (hc : c.Proper) :
    halfDay (b.read 4) = c.halfDay b.twelveHour := by
  unfold halfDay Civil.halfDay
  rw [h.unpack_hours hc, h.hours]
  cases b.twelveHour with
  | false => rfl
  | true =>
    have hall : ∀ n < 13, ∀ afternoon,
        Hours.pack ((Setting.dial n afternoon).byte .packed) true &&& Hours.afternoon = 0
          ↔ afternoon = false := by decide +kernel
    obtain ⟨-, hdial⟩ := dialHour_bounds c.hour
    have hflag := hall (dialHour c.hour) (by omega) (decide (12 ≤ c.hour))
    simp only [if_true, Civil.setting, hflag, decide_eq_false_iff_not, Nat.not_le]

/-- The line of registers that show a date and time. -/
theorem time_dated (h : b.Dated c) (hc : c.Proper) {hundredths : Nat}
    (hfirst : packed (b.read 1) = twoDigits (min hundredths 99)) :
    time (b.read 1) (b.read 2) (b.read 3) (b.read 4) (b.read 5) (b.read 6)
      = c.line b.twelveHour ((b.read 5).toNat / 64) hundredths := by
  have hday := hc.date.day_le_31
  have hmonth := hc.date.month_le
  have hminute := hc.minute
  have hsecond := hc.second
  have hdayText : packed ((c.setting .dayOfMonth).byte .packed) = twoDigits c.date.day :=
    packed_ofBinary (by omega)
  have hmonthText : packed ((c.setting .month).byte .packed) = twoDigits c.date.month :=
    packed_ofBinary (by omega)
  have hminuteText : packed ((c.setting .minute).byte .packed) = twoDigits c.minute :=
    packed_ofBinary (by omega)
  have hsecondText : packed ((c.setting .second).byte .packed) = twoDigits c.second :=
    packed_ofBinary (by omega)
  unfold time Civil.line
  rw [← YearDay.toNat_unpack_year, h.unpack_yearDay hc, h.unpack_weekdayMonth hc, h.seconds,
    h.minutes]
  dsimp only
  rw [weekdayName_weekday, hdayText, hmonthText, packed_hour h hc, hminuteText, hsecondText, hfirst,
    halfDay_hours h hc]

theorem min_hundredths :
    ∀ hundredths : UInt8, min hundredths 99 = UInt8.ofNat (min hundredths.toNat 99) :=
  Byte.forall_of_lt (by decide +kernel)

/-- No more than 99 hundredths are shown. -/
theorem packed_hundredths (b : Bank) (v : VirtualClock) (now : Instant) (hundredths : UInt8) :
    packed ((b.latch v (.plain now hundredths)).read 1) = twoDigits (min hundredths.toNat 99) := by
  show packed (PackedDecimal.ofBinary (min hundredths 99)) = _
  rw [min_hundredths, packed_ofBinary (by omega)]

/-- **The line that is printed of the bytes read behind a START says the virtual time**: its
weekday, day, month and time of day, with the hour as the mode has it, the two bits that the
register holds of the year, and the hundredths of the host's clock. -/
theorem time?_latched (b : Bank) {v : VirtualClock} {now : Instant} {hundredths : UInt8}
    (hyear : YearInCalendar (Civil.ofSeconds (v.now (.plain now hundredths)).toInt).date.year)
    {n : Nat} (hn : 7 ≤ n) :
    let latched := b.latch v (.plain now hundredths)
    time? ((List.range n).map latched.read)
      = some ((Civil.ofSeconds (v.now (.plain now hundredths)).toInt).line b.twelveHour
          ((latched.read 5).toNat / 64) hundredths.toNat) := by
  intro latched
  obtain ⟨k, rfl⟩ : ∃ k, n = k + 7 := ⟨n - 7, by omega⟩
  have hbytes : ∃ behind, (List.range (k + 7)).map latched.read
      = latched.read 0 :: latched.read 1 :: latched.read 2 :: latched.read 3 :: latched.read 4
        :: latched.read 5 :: latched.read 6 :: behind := by
    simp [List.range_succ_eq_map]
  obtain ⟨behind, hbytes⟩ := hbytes
  rw [hbytes]
  exact congrArg some (time_dated (b.latch_dated (VirtualClock.shows_ofSeconds hyear))
    (Civil.ofSeconds_proper _) (packed_hundredths b v now hundredths))

/-- Five minutes past noon on a leap day, by a halted clock before a host with too many
hundredths. -/
theorem time?_latched_pastNoon :
    let clock := HostClock.plain 0 255
    let c : Civil := ⟨⟨-4, 2, 29⟩, 12, 5, 9⟩
    let v : VirtualClock := ⟨0, .halted (.saturate c.toSeconds)⟩
    let b : Bank := ⟨.replicate 16 0, .replicate 16 0, List.replicate 240 0, true⟩
    Civil.ofSeconds (v.now clock).toInt = c ∧ YearInCalendar c.date.year ∧ 7 ≤ 16
      ∧ time? ((List.range 16).map (b.latch v clock).read)
        = some "Thu 29/02 year+2 12:05:09.99 PM" := by
  intro clock c v b
  have hc : Civil.ofSeconds (v.now clock).toInt = c := by decide +kernel
  have hyear : YearInCalendar c.date.year := by decide
  have hbits : ((b.latch v clock).read 5).toNat / 64 = 2 := by decide +kernel
  have hline : time? ((List.range 16).map (b.latch v clock).read)
      = some ((Civil.ofSeconds (v.now clock).toInt).line true
        (((b.latch v clock).read 5).toNat / 64) 255) :=
    time?_latched b (hc.symm ▸ hyear) (by decide)
  rw [hbits, hc] at hline
  exact ⟨hc, hyear, by decide, hline.trans (by decide +kernel)⟩

end Report

end ClockChip
