import ClockChip.Proofs.Register.Writes

/-!
# A date and time in the registers

While the virtual time is a date and time of the calendar, each field has a value, and the five time
registers of a snapshot are made of the bytes of these values.  A value that a field has already is
set without moving the clock at all.  So what a register does when its byte is written back, and
what is printed of it, comes down to how the numbers in it are packed and taken out again.

## Main definitions

* `Civil.setting`, `Civil.entry`: the value that a field has in a date and time, and what is written
  to set it to that value.
* `Bank.Dated`: the time registers of a snapshot show a date and time.

## Main results

* `VirtualClock.Shows.set_setting`, `VirtualClock.Shows.setAll_entries`: what a field has already
  is set without a trace.
* `Bank.latch_dated`: **a snapshot shows the date and time that the virtual clock has.**
* `Bank.Dated.unpack_hours`, `Bank.Dated.unpack_yearDay`, `Bank.Dated.unpack_weekdayMonth`: what is
  taken out of its registers.
-/

namespace ClockChip

/-! ### The values of a date and time -/

/-- The value that a field has in a date and time. -/
def Civil.setting (c : Civil) : Field → Setting
  | .second => .second c.second
  | .minute => .minute c.minute
  | .hour => .hour c.hour
  | .hourAmPm => .dial (dialHour c.hour) (12 ≤ c.hour)
  | .dayOfMonth => .dayOfMonth c.date.day
  | .month => .month c.date.month
  | .year => .year (c.date.year % 100).toNat
  | .weekday => .weekday c.weekday

/-- What is written to set a field to the value that it has. -/
def Civil.entry (c : Civil) (f : Field) : Field × Int := (f, ((c.setting f).byte .packed).toNat)

theorem dialHour_bounds (hour : Nat) : 1 ≤ dialHour hour ∧ dialHour hour ≤ 12 := by
  unfold dialHour
  split <;> omega

theorem centuryOf_add_emod (year : Int) : centuryOf year + (year % 100).toNat = year := by
  unfold centuryOf
  omega

namespace Civil

variable {c : Civil}

theorem field_setting (c : Civil) (f : Field) : (c.setting f).field = f := by
  cases f <;> rfl

theorem Proper.fits_setting (hc : c.Proper) (f : Field) : (c.setting f).Fits c := by
  cases f with
  | second => exact hc.second
  | minute => exact hc.minute
  | hour => exact hc.hour
  | hourAmPm => exact dialHour_bounds c.hour
  | dayOfMonth => exact ⟨hc.date.one_le_day, hc.date.day_le⟩
  | month => exact ⟨⟨hc.date.one_le_month, hc.date.month_le⟩, hc.date.day_le⟩
  | year =>
    refine ⟨by omega, ?_⟩
    rw [centuryOf_add_emod]
    exact hc.date.day_le
  | weekday => exact c.weekday_lt

theorem Proper.put_setting (hc : c.Proper) (f : Field) : (c.setting f).put c = c := by
  cases f with
  | second | minute | hour | dayOfMonth | month => rfl
  | hourAmPm =>
    have hhour : dialHour c.hour % 12 + (if (decide (12 ≤ c.hour)) = true then 12 else 0)
        = c.hour := by
      have hlt := hc.hour
      unfold dialHour
      simp only [decide_eq_true_eq]
      split <;> split <;> omega
    simp only [setting, Setting.put, hhour]
  | year => simp only [setting, Setting.put, centuryOf_add_emod]
  | weekday =>
    simp only [setting, Setting.put, Int.sub_add_cancel, Date.ofDayNumber_dayNumber hc.date]

end Civil

/-! ### The virtual clock -/

namespace VirtualClock

variable {v : VirtualClock} {now : Instant} {hundredths : UInt8} {c : Civil}

/-- A field that is set without moving the virtual time leaves the clock as it is, in both forms. -/
theorem set_of_replace_eq {f : Field} {value : Int}
    (h : f.replace value (v.now (.plain now hundredths)).toInt .packed
      = (v.now (.plain now hundredths)).toInt) :
    v.set (.plain now hundredths) f value .packed = v := by
  obtain ⟨offset, mode⟩ := v
  cases mode with
  | halted latch =>
    have hlatch : HostClock.replaceIn f value latch .packed = latch :=
      Int64.toInt_inj.mp ((HostClock.toInt_replaceIn f value latch .packed).trans h)
    exact congrArg (fun latch => VirtualClock.mk offset (.halted latch)) hlatch
  | running =>
    have hvirtual : HostClock.replaceIn f value (HostClock.latchAt now offset) .packed
        = HostClock.latchAt now offset :=
      Int64.toInt_inj.mp ((HostClock.toInt_replaceIn f value _ .packed).trans h)
    have hoffset : HostClock.moveOffset now f value offset .packed = offset := by
      rw [HostClock.moveOffset, hvirtual, Instant.minus_self, Instant.plus_zero]
    exact congrArg (fun offset => VirtualClock.mk offset .running) hoffset

theorem Shows.fieldByte_setting {clock : HostClock} (h : v.Shows clock c) (f : Field) :
    f.get (v.now clock).toInt .packed = (c.setting f).byte .packed := by
  have hbyte := h.fieldByte (h.proper.put_setting f) (h.proper.fits_setting f)
  rwa [Civil.field_setting] at hbyte

/-- What a field has already is set without a trace. -/
theorem Shows.set_setting (h : v.Shows (.plain now hundredths) c) (f : Field) :
    v.set (.plain now hundredths) f ((c.setting f).byte .packed).toNat .packed = v := by
  have hput := h.proper.put_setting f
  have hreplace := Setting.replace_eq h.proper h.year (h.proper.fits_setting f)
    (by rw [hput]; exact h.year) .packed
  rw [Civil.field_setting, hput, ← h.now] at hreplace
  exact set_of_replace_eq hreplace

/-- So are the values of several fields. -/
theorem Shows.setAll_entries (h : v.Shows (.plain now hundredths) c) (fs : List Field) :
    v.setAll (.plain now hundredths) (fs.map c.entry) = v := by
  induction fs with
  | nil => rfl
  | cons f fs ih =>
    have hfirst : v.set (.plain now hundredths) (c.entry f).1 (c.entry f).2 .packed = v :=
      h.set_setting f
    rw [List.map_cons, setAll_cons, hfirst, ih]

end VirtualClock

/-! ### The registers -/

/-- The time registers of a snapshot show a date and time, the hours as the mode has them. -/
structure Bank.Dated (b : Bank) (c : Civil) : Prop where
  seconds : b.read 2 = (c.setting .second).byte .packed
  minutes : b.read 3 = (c.setting .minute).byte .packed
  hours : b.read 4 = Hours.pack
    ((c.setting (if b.twelveHour then .hourAmPm else .hour)).byte .packed) b.twelveHour
  yearDay : b.read 5 = YearDay.pack
    ((c.setting .year).byte .packed) ((c.setting .dayOfMonth).byte .packed)
  weekdayMonth : b.read 6 = WeekdayMonth.pack
    ((c.setting .weekday).byte .packed) ((c.setting .month).byte .packed)

/-- **A snapshot shows the date and time that the virtual clock has.** -/
theorem Bank.latch_dated (b : Bank) {v : VirtualClock} {now : Instant} {hundredths : UInt8}
    {c : Civil} (h : v.Shows (.plain now hundredths) c) :
    (b.latch v (.plain now hundredths)).Dated c where
  seconds := h.fieldByte_setting .second
  minutes := h.fieldByte_setting .minute
  hours := congrArg (Hours.pack · b.twelveHour) (h.fieldByte_setting _)
  yearDay := congrArg₂ YearDay.pack (h.fieldByte_setting .year) (h.fieldByte_setting .dayOfMonth)
  weekdayMonth :=
    congrArg₂ WeekdayMonth.pack (h.fieldByte_setting .weekday) (h.fieldByte_setting .month)

/-! ### What is packed and taken out -/

theorem Hours.unpack_pack_hour {n : Nat} (h : n < 24) :
    unpack (pack ((Setting.hour n).byte .packed) false)
      = (false, (Setting.hour n).byte .packed) := by
  have hall : ∀ n < 24, unpack (pack ((Setting.hour n).byte .packed) false)
      = (false, (Setting.hour n).byte .packed) := by decide +kernel
  exact hall n h

/-- The flag of the afternoon is shown where it is not taken out, so that an hour of the afternoon
comes out as one of the morning. -/
theorem Hours.unpack_pack_dial {n : Nat} (h : n ≤ 12) (afternoon : Bool) :
    unpack (pack ((Setting.dial n afternoon).byte .packed) true)
      = (true, (Setting.dial n false).byte .packed) := by
  have hall : ∀ n < 13, ∀ afternoon, unpack (pack ((Setting.dial n afternoon).byte .packed) true)
      = (true, (Setting.dial n false).byte .packed) := by decide +kernel
  exact hall n (Nat.lt_succ_of_le h) afternoon

/-- Only two bits of the packed year are kept. -/
theorem YearDay.unpack_pack (year : UInt8) {day : Nat} (h : day ≤ 31) :
    unpack (pack year ((Setting.dayOfMonth day).byte .packed))
      = (year &&& 3, (Setting.dayOfMonth day).byte .packed) := by
  have hall : ∀ bits < 4, ∀ day < 32,
      unpack ((UInt8.ofNat bits <<< 6) ||| (Setting.dayOfMonth day).byte .packed)
        = (UInt8.ofNat bits, (Setting.dayOfMonth day).byte .packed) := by decide +kernel
  have hbits : (year &&& 3).toNat < 4 := by
    rw [UInt8.toNat_and]
    exact Nat.and_lt_two_pow (n := 2) _ (by decide)
  have hpack := hall (year &&& 3).toNat hbits day (Nat.lt_succ_of_le h)
  rwa [UInt8.ofNat_toNat] at hpack

theorem YearDay.toNat_unpack_year : ∀ b : UInt8, (unpack b).1.toNat = b.toNat / 64 :=
  Byte.forall_of_lt (by decide +kernel)

theorem WeekdayMonth.unpack_pack {weekday month : Nat} (hweekday : weekday < 7)
    (hmonth : month ≤ 12) :
    unpack (pack ((Setting.weekday weekday).byte .packed) ((Setting.month month).byte .packed))
      = ((weekday : Int), (Setting.month month).byte .packed) := by
  have hall : ∀ weekday < 7, ∀ month < 13,
      unpack (pack ((Setting.weekday weekday).byte .packed) ((Setting.month month).byte .packed))
        = ((weekday : Int), (Setting.month month).byte .packed) := by decide +kernel
  exact hall weekday hweekday month (Nat.lt_succ_of_le hmonth)

/-! ### What is taken out of a snapshot -/

namespace Bank.Dated

variable {b : Bank} {c : Civil}

/-- The hours of a snapshot say the mode, and the hour as if it was in the morning. -/
theorem unpack_hours (h : b.Dated c) (hc : c.Proper) :
    Hours.unpack (b.read 4) = (b.twelveHour,
      (if b.twelveHour then Setting.dial (dialHour c.hour) false
        else .hour c.hour).byte .packed) := by
  rw [h.hours]
  cases b.twelveHour with
  | false => exact Hours.unpack_pack_hour hc.hour
  | true => exact Hours.unpack_pack_dial (dialHour_bounds c.hour).2 _

/-- Above the day there are two bits of the packed year. -/
theorem unpack_yearDay (h : b.Dated c) (hc : c.Proper) :
    YearDay.unpack (b.read 5)
      = ((c.setting .year).byte .packed &&& 3, (c.setting .dayOfMonth).byte .packed) := by
  rw [h.yearDay]
  exact YearDay.unpack_pack _ hc.date.day_le_31

theorem unpack_weekdayMonth (h : b.Dated c) (hc : c.Proper) :
    WeekdayMonth.unpack (b.read 6) = ((c.weekday : Int), (c.setting .month).byte .packed) := by
  rw [h.weekdayMonth]
  exact WeekdayMonth.unpack_pack c.weekday_lt hc.date.month_le

end Bank.Dated

end ClockChip
