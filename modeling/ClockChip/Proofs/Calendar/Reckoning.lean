import ClockChip.Calendar.Field
import ClockChip.Proofs.Byte.Levels
import ClockChip.Proofs.Calendar.Civil

/-!
# Replaced fields are reckoned from the first of the month

A field of an instant is set in one of two ways: most fields add the difference from the old value,
a month or a year starts over at the first of the month that it names.  Seen from outside there is
one rule.  The instant is taken apart into year, month, day, hour, minute and second; one part is
replaced by a number that may be too large for it; and the parts are put together again, with
months carrying into years and everything else counted from the first of the month.

## Main definitions

* `Reckoning`, `Reckoning.seconds`: parts of any size, and the instant that they stand for.
* `Reckoning.put`: the parts with one of them replaced.
* `Field.reckoned`: the instant with one field replaced, by this rule.

## Main results

* `Reckoning.seconds_ofCivil`: the parts of a proper date and time stand for its instant.
* `Field.replace_eq_reckoned`: setting a field follows the rule.
* `Field.replace_eq_seconds_put`: **it does so for the one proper date and time of an instant.**
-/

namespace ClockChip

/-- A date and time whose parts may have any size. -/
structure Reckoning where
  /-- The year. -/
  year : Int
  /-- The month; 1 is January. -/
  month : Int
  /-- The day, counted from 1. -/
  day : Int
  /-- The hour. -/
  hour : Int
  /-- The minute. -/
  minute : Int
  /-- The second. -/
  second : Int
  deriving DecidableEq, Repr

namespace Reckoning

/-- The parts of a date and time. -/
def ofCivil (c : Civil) : Reckoning :=
  ⟨c.date.year, c.date.month, c.date.day, c.hour, c.minute, c.second⟩

/-- The year that is reached when the months carry.  Month 0 is the December before, month 13 the
January behind. -/
def carriedYear (r : Reckoning) : Int := r.year + (r.month - 1) / 12

/-- The month that is left when the months have carried. -/
def carriedMonth (r : Reckoning) : Nat := ((r.month - 1) % 12).toNat + 1

/-- The midnight at which the first of the month begins. -/
def firstOfMonth (r : Reckoning) : Int :=
  Civil.toSeconds ⟨⟨r.carriedYear, r.carriedMonth, 1⟩, 0, 0, 0⟩

/-- The instant: days, hours, minutes and seconds, counted from the first of the month. -/
def seconds (r : Reckoning) : Int :=
  r.firstOfMonth + (r.day - 1) * daySeconds + r.hour * hourSeconds + r.minute * minuteSeconds
    + r.second

/-- The parts with one of them replaced.  The number may be too large for its part.  A year stays
in its century, an hour of twelve gets its half of the day from the sixth bit, and another weekday
moves the day. -/
def put (r : Reckoning) (weekday : Nat) (f : Field) (value : Int) (coding : Coding) : Reckoning :=
  let val := UInt8.ofInt value
  let number : Int := (coding.decode val).toNat
  match f with
  | .second => { r with second := number }
  | .minute => { r with minute := number }
  | .hour => { r with hour := number }
  | .hourAmPm =>
    let hour := (coding.decode (val &&& 0x1f)).toNat % 12
    { r with hour := (hour : Int) + if Byte.bit val 5 then 12 else 0 }
  | .dayOfMonth => { r with day := number }
  | .month => { r with month := number }
  | .year => { r with year := r.year - r.year % 100 + number }
  | .weekday => { r with day := r.day + (value - weekday) }

end Reckoning

/-- The instant of a date and time with one field replaced.  A year outside the calendar replaces
nothing. -/
def Field.reckoned (f : Field) (value : Int) (c : Civil) (coding : Coding) : Int :=
  let r := (Reckoning.ofCivil c).put c.weekday f value coding
  if YearInCalendar r.carriedYear then r.seconds else c.toSeconds

namespace Reckoning

/-! ### Parts of a proper date and time -/

variable {c : Civil}

theorem carriedYear_withYear (h : c.Proper) (year : Int) :
    { ofCivil c with year := year }.carriedYear = year := by
  have hlow := h.date.one_le_month
  have hhigh := h.date.month_le
  unfold carriedYear ofCivil
  dsimp only
  omega

theorem carriedYear_ofCivil (h : c.Proper) : (ofCivil c).carriedYear = c.date.year :=
  carriedYear_withYear h c.date.year

theorem carriedMonth_ofCivil (h : c.Proper) : (ofCivil c).carriedMonth = c.date.month := by
  have hlow := h.date.one_le_month
  have hhigh := h.date.month_le
  unfold carriedMonth ofCivil
  dsimp only
  omega

/-- The parts of a proper date and time stand for its instant. -/
theorem seconds_ofCivil (h : c.Proper) : (ofCivil c).seconds = c.toSeconds := by
  unfold seconds firstOfMonth
  rw [carriedYear_ofCivil h, carriedMonth_ofCivil h]
  simp only [ofCivil, Civil.toSeconds, Civil.timeOfDay, Date.dayNumber, daySeconds, hourSeconds,
    minuteSeconds]
  omega

/-- Within the same month the parts count in proportion. -/
theorem seconds_eq_add (r s : Reckoning) (hyear : r.year = s.year)
    (hmonth : r.month = s.month) :
    r.seconds = s.seconds + (r.day - s.day) * daySeconds + (r.hour - s.hour) * hourSeconds
      + (r.minute - s.minute) * minuteSeconds + (r.second - s.second) := by
  unfold seconds firstOfMonth carriedYear carriedMonth daySeconds hourSeconds minuteSeconds
  rw [hyear, hmonth]
  omega

/-- One day more is the same time of the next day. -/
theorem seconds_nextDay (h : c.Proper) :
    { ofCivil c with day := c.date.day + 1 }.seconds
      = { c with date := c.date.tomorrow }.toSeconds := by
  have hnext := seconds_eq_add { ofCivil c with day := c.date.day + 1 } (ofCivil c) rfl rfl
  rw [hnext, seconds_ofCivil h]
  simp only [ofCivil, Civil.toSeconds, Civil.timeOfDay, Date.dayNumber_tomorrow h.date, daySeconds]
  omega

/-- In a year without a leap day, 29 February is 1 March. -/
theorem seconds_leapDay (h : c.Proper) (hmonth : c.date.month = 2) (hday : c.date.day = 29)
    {year : Int} (hleap : isLeapYear year = false) :
    { ofCivil c with year := year }.seconds
      = Civil.toSeconds { c with date := ⟨year, 3, 1⟩ } := by
  have hbefore : Civil.Proper { c with date := ⟨year, 2, 28⟩ } :=
    ⟨Date.february_proper year, h.hour, h.minute, h.second⟩
  -- the 29th day of a February of 28 days is the day after its last
  have hsame : { ofCivil c with year := year }
      = { ofCivil { c with date := ⟨year, 2, 28⟩ } with day := 29 } := by
    simp only [ofCivil, hmonth, hday]
    rfl
  have hnext := seconds_nextDay hbefore
  rw [Date.tomorrow_february hleap] at hnext
  rw [hsame]
  exact hnext

end Reckoning

/-! ### Fields -/

/-- A day of another month is counted from the first of that month. -/
theorem onMonth_eq (c : Civil) (year month : Int) (t : Int) :
    let r := { Reckoning.ofCivil c with year := year, month := month }
    (onMonth c year (month - 1)).getD t
      = if YearInCalendar r.carriedYear then r.seconds else t := by
  intro r
  have hseconds : r.seconds = Civil.toSeconds
      ⟨⟨r.carriedYear, r.carriedMonth, 1⟩, c.hour, c.minute, c.second⟩
        + ((c.date.day : Int) - 1) * daySeconds := by
    simp only [r, Reckoning.seconds, Reckoning.firstOfMonth, Reckoning.ofCivil, Civil.toSeconds,
      Civil.timeOfDay, hourSeconds, minuteSeconds]
    omega
  rw [hseconds]
  exact apply_ite (fun x : Option Int => x.getD t) (YearInCalendar r.carriedYear) _ none

/-- The hour that a byte of the twelve-hour dial means. -/
theorem Field.dayHour_eq (val : UInt8) (coding : Coding) :
    dayHour val coding = ((coding.decode (val &&& 0x1f)).toNat % 12 : Nat)
      + if Byte.bit val 5 then 12 else 0 := by
  have hmask : afternoonFlag = 1 <<< (7 - UInt8.ofNat 2) := by decide
  have hflag : (val &&& afternoonFlag != 0) = Byte.bit val 5 := by
    rw [hmask, Byte.and_mask_ne_zero val (by decide)]
  unfold dayHour
  rw [← hflag, UInt8.toNat_mod]
  by_cases hzero : val &&& afternoonFlag = 0
  · simp [hzero]
  · simp [hzero]

/-- Another weekday is so many days away. -/
theorem Reckoning.seconds_put_weekday {c : Civil} (hc : c.Proper) (value : Int) (coding : Coding) :
    ((ofCivil c).put c.weekday .weekday value coding).seconds
      = c.toSeconds + (value - c.weekday) * daySeconds := by
  have hmoved := seconds_eq_add ((ofCivil c).put c.weekday .weekday value coding) (ofCivil c)
    rfl rfl
  rw [hmoved, seconds_ofCivil hc]
  simp only [put, ofCivil, daySeconds]
  omega

/-- No sum stops that is made near the calendar. -/
theorem clamp_of_inCalendar {t d : Int} (ht : InCalendar t) (hlow : -200000000000000 ≤ d)
    (hhigh : d ≤ 200000000000000) : clamp (t + d) = t + d := by
  obtain ⟨hafter, hbefore⟩ := ht.bounds
  apply clamp_of_mem
  · unfold leastInstant
    omega
  · unfold greatestInstant
    omega

section

variable {c : Civil} (hc : c.Proper) (hyear : YearInCalendar c.date.year)

include hc hyear

/-- Parts in the month of `c` stand for an instant as far from `c` as they differ. -/
theorem Reckoning.clamp_eq_seconds {r : Reckoning} (hry : r.year = c.date.year)
    (hrm : r.month = c.date.month) {d : Int}
    (hd : d = (r.day - c.date.day) * daySeconds + (r.hour - c.hour) * hourSeconds
      + (r.minute - c.minute) * minuteSeconds + (r.second - c.second))
    (hlow : -200000000000000 ≤ d) (hhigh : d ≤ 200000000000000) :
    clamp (c.toSeconds + d)
      = if YearInCalendar r.carriedYear then r.seconds else c.toSeconds := by
  have hcarried : r.carriedYear = c.date.year := by
    rw [← carriedYear_ofCivil hc, carriedYear, carriedYear, hry, hrm]
    rfl
  have hseconds : r.seconds = c.toSeconds + d := by
    rw [← seconds_ofCivil hc, seconds_eq_add r (ofCivil c) hry hrm, hd]
    simp only [ofCivil]
    omega
  rw [hcarried, if_pos hyear, hseconds,
    clamp_of_inCalendar ((Civil.inCalendar_toSeconds hc).mpr hyear) hlow hhigh]

/-- Setting a field follows the rule. -/
theorem Field.replace_eq_reckoned (f : Field) {value : Int} (hlow : -2147483648 ≤ value)
    (hhigh : value ≤ 2147483647) (coding : Coding) :
    f.replace value c.toSeconds coding = f.reckoned value c coding := by
  have hnumber : (coding.decode (UInt8.ofInt value)).toNat < 256 := UInt8.toNat_lt _
  have hday := hc.date.day_le_31
  have hweekday := c.weekday_lt
  have hhour := hc.hour
  have hminute := hc.minute
  have hsecond := hc.second
  unfold replace reckoned
  rw [Civil.shown_toSeconds hc hyear]
  simp only [dayHour_eq, minuteSeconds, hourSeconds, daySeconds]
  -- a month or a year starts over at its first day; all other fields move within their month
  cases f with
  | month => exact onMonth_eq c c.date.year _ c.toSeconds
  | year => exact onMonth_eq c _ c.date.month c.toSeconds
  | second | minute | hour | hourAmPm | dayOfMonth | weekday =>
    refine Reckoning.clamp_eq_seconds hc hyear rfl rfl ?_ ?_ ?_
    · simp only [Reckoning.put, Reckoning.ofCivil, minuteSeconds, hourSeconds, daySeconds]
      omega
    · omega
    · omega

/-- Setting the weekday moves the instant by as many days as the weekday is away. -/
theorem Field.replace_weekday {value : Int} (hlow : -2147483648 ≤ value)
    (hhigh : value ≤ 2147483647) (coding : Coding) :
    weekday.replace value c.toSeconds coding
      = c.toSeconds + (value - c.weekday) * daySeconds := by
  have hin : YearInCalendar
      ((Reckoning.ofCivil c).put c.weekday .weekday value coding).carriedYear := by
    rw [← Reckoning.carriedYear_ofCivil hc] at hyear
    exact hyear
  rw [replace_eq_reckoned hc hyear weekday hlow hhigh, reckoned, if_pos hin,
    Reckoning.seconds_put_weekday hc]

end

/-- **An instant has exactly one proper date and time, and setting a field replaces the part of it
that the field names**, by a number of any size, and puts the parts together again.  A month or a
year whose year the calendar does not cover changes nothing, and another weekday moves the instant
by whole days. -/
theorem Field.replace_eq_seconds_put (f : Field) (value : Int32) {t : Int} (ht : InCalendar t)
    (coding : Coding) :
    ∃ c : Civil, (∀ d : Civil, d.Proper ∧ d.toSeconds = t ↔ d = c)
      ∧ (let r := (Reckoning.ofCivil c).put c.weekday f value.toInt coding
        f.replace value.toInt t coding = if YearInCalendar r.carriedYear then r.seconds else t)
      ∧ (f = .weekday →
        f.replace value.toInt t coding = t + (value.toInt - c.weekday) * daySeconds) := by
  obtain ⟨c, hproper, rfl⟩ : ∃ c : Civil, c.Proper ∧ c.toSeconds = t :=
    ⟨_, Civil.ofSeconds_proper t, Civil.toSeconds_ofSeconds t⟩
  have hyear := (Civil.inCalendar_toSeconds hproper).mp ht
  have hlow := Int32.le_toInt value
  have hhigh := Int.le_sub_one_of_lt (Int32.toInt_lt value)
  refine ⟨c, fun d => ⟨?_, ?_⟩, replace_eq_reckoned hproper hyear f hlow hhigh coding, ?_⟩
  · rintro ⟨hd, hsame⟩
    rw [← Civil.ofSeconds_toSeconds hd, hsame, Civil.ofSeconds_toSeconds hproper]
  · rintro rfl
    exact ⟨hproper, rfl⟩
  · rintro rfl
    exact replace_weekday hproper hyear hlow hhigh coding

/-- Month 0 of a year before the era is the December of the year before that. -/
theorem Field.replace_monthZero :
    let leapDay : Civil := ⟨⟨-4, 2, 29⟩, 23, 59, 58⟩
    InCalendar leapDay.toSeconds
      ∧ Field.month.replace 0 leapDay.toSeconds .packed
        = Civil.toSeconds ⟨⟨-5, 12, 29⟩, 23, 59, 58⟩ := by
  intro leapDay
  have hleapDay : leapDay.Proper :=
    ⟨⟨by decide, by decide, by decide, by decide⟩, by decide, by decide, by decide⟩
  have hin : InCalendar leapDay.toSeconds := by decide
  obtain ⟨c, hunique, hreckoned, -⟩ := Field.month.replace_eq_seconds_put 0 hin .packed
  obtain rfl := (hunique leapDay).mp ⟨hleapDay, rfl⟩
  refine ⟨hin, hreckoned.trans ?_⟩
  decide

end ClockChip
