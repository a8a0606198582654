import ClockChip.Proofs.Calendar.Reckoning

/-!
# The calendar repeats itself

The leap rule repeats after four hundred years, and these are 146097 days, which are whole weeks.
So an instant and the one that many days later have the same weekday, month, day and time of day in
years that are four hundred apart; every field shows the same at both, and setting a field moves
both by the same time.  Only the ends of the calendar can tell the two apart: a month or a year is
not set if the year that it leads to lies behind them.

## Main definitions

* `eraYears`, `eraDays`, `eraSeconds`: the length of the cycle.
* `Date.eraLater`, `Civil.eraLater`, `Reckoning.eraLater`: the same four hundred years later.

## Main results

* `Civil.ofSeconds_add_era`: a cycle of seconds leads to the same date and time.
* `Reckoning.put_eraLater`, `Reckoning.seconds_eraLater`: parts are replaced and put together alike.
* `Field.get_replace_add_era`: **fields are shown alike and set alike, if and only if the year that
  is reached is in the calendar both times or neither time.**
-/

namespace ClockChip

/-- The years after which the calendar repeats itself. -/
def eraYears : Int := 400

/-- The days of these years. -/
def eraDays : Int := 146097

/-- The seconds of these days. -/
def eraSeconds : Int := eraDays * daySeconds

/-! ### Years -/

theorem emod_century_add_era (year : Int) : (year + eraYears) % 100 = year % 100 := by
  unfold eraYears
  omega

theorem isLeapYear_add_era (year : Int) : isLeapYear (year + eraYears) = isLeapYear year := by
  have hfour : (year + eraYears) % 4 = year % 4 := by unfold eraYears; omega
  have hera : (year + eraYears) % 400 = year % 400 := by unfold eraYears; omega
  rw [isLeapYear, isLeapYear, hfour, emod_century_add_era, hera]

theorem daysBeforeYear_add_era (year : Int) :
    daysBeforeYear (year + eraYears) = daysBeforeYear year + eraDays := by
  unfold daysBeforeYear eraYears eraDays
  omega

/-- An instant lies in one year only. -/
theorem year_eq_of_within {t y z : Int}
    (hy : (daysBeforeYear y - epochDay) * daySeconds ≤ t
      ∧ t < (daysBeforeYear (y + 1) - epochDay) * daySeconds)
    (hz : (daysBeforeYear z - epochDay) * daySeconds ≤ t
      ∧ t < (daysBeforeYear (z + 1) - epochDay) * daySeconds) : y = z := by
  have hfound (x : Int) (hx : (daysBeforeYear x - epochDay) * daySeconds ≤ t
      ∧ t < (daysBeforeYear (x + 1) - epochDay) * daySeconds) :
      yearOf (t / daySeconds + epochDay) = x := by
    unfold daySeconds at *
    exact yearOf_eq (by omega) (by omega)
  rw [← hfound y hy, hfound z hz]

theorem weekdayOf_add_era (n : Int) : weekdayOf (n + eraDays) = weekdayOf n := by
  unfold weekdayOf eraDays
  omega

/-! ### Dates -/

namespace Date

/-- The same day of the same month four hundred years later. -/
def eraLater (d : Date) : Date := { d with year := d.year + eraYears }

variable {d : Date}

theorem Proper.eraLater (h : d.Proper) : d.eraLater.Proper := by
  obtain ⟨hmonth, hmonth', hday, hlast⟩ := h
  refine ⟨hmonth, hmonth', hday, ?_⟩
  unfold monthLength Date.eraLater
  rw [isLeapYear_add_era]
  exact hlast

theorem dayNumber_eraLater (d : Date) : d.eraLater.dayNumber = d.dayNumber + eraDays := by
  simp only [dayNumber, eraLater, isLeapYear_add_era, daysBeforeYear_add_era]
  omega

end Date

/-! ### Dates and times -/

namespace Civil

/-- The same date and time four hundred years later. -/
def eraLater (c : Civil) : Civil := { c with date := c.date.eraLater }

variable {c : Civil}

theorem Proper.eraLater (h : c.Proper) : c.eraLater.Proper :=
  ⟨h.date.eraLater, h.hour, h.minute, h.second⟩

theorem toSeconds_eraLater (c : Civil) : c.eraLater.toSeconds = c.toSeconds + eraSeconds := by
  simp only [toSeconds, eraLater, timeOfDay, Date.dayNumber_eraLater, eraSeconds, eraDays,
    daySeconds]
  omega

theorem weekday_eraLater (c : Civil) : c.eraLater.weekday = c.weekday := by
  rw [weekday, weekday, eraLater, Date.dayNumber_eraLater, weekdayOf_add_era]

theorem ofSeconds_add_era (t : Int) : ofSeconds (t + eraSeconds) = (ofSeconds t).eraLater := by
  have hlater := ofSeconds_toSeconds (ofSeconds_proper t).eraLater
  rwa [toSeconds_eraLater, toSeconds_ofSeconds] at hlater

end Civil

/-! ### Parts of any size -/

namespace Reckoning

/-- The same parts four hundred years later. -/
def eraLater (r : Reckoning) : Reckoning := { r with year := r.year + eraYears }

theorem ofCivil_eraLater (c : Civil) : ofCivil c.eraLater = (ofCivil c).eraLater := rfl

theorem carriedYear_eraLater (r : Reckoning) :
    r.eraLater.carriedYear = r.carriedYear + eraYears := by
  simp only [carriedYear, eraLater]
  omega

theorem seconds_eraLater (r : Reckoning) : r.eraLater.seconds = r.seconds + eraSeconds := by
  have hfirst : r.eraLater.firstOfMonth = r.firstOfMonth + eraSeconds := by
    rw [firstOfMonth, carriedYear_eraLater]
    exact Civil.toSeconds_eraLater ⟨⟨r.carriedYear, r.carriedMonth, 1⟩, 0, 0, 0⟩
  rw [seconds, hfirst, seconds]
  simp only [eraLater]
  omega

/-- Replacing a part comes to the same four hundred years later: a year stays in its century, which
is four centuries later then. -/
theorem put_eraLater (r : Reckoning) (weekday : Nat) (f : Field) (value : Int) (coding : Coding) :
    r.eraLater.put weekday f value coding = (r.put weekday f value coding).eraLater := by
  cases f with
  | year =>
    simp only [put, eraLater, emod_century_add_era, mk.injEq, and_true]
    omega
  | second | minute | hour | hourAmPm | dayOfMonth | month | weekday => rfl

variable {c : Civil}

/-- Replacing a field leads less than a century back and less than three centuries on. -/
theorem carriedYear_put_near (hc : c.Proper) (f : Field) (value : Int) (coding : Coding) :
    c.date.year - 100 ≤ ((ofCivil c).put c.weekday f value coding).carriedYear
      ∧ ((ofCivil c).put c.weekday f value coding).carriedYear ≤ c.date.year + 255 := by
  have hnumber : (coding.decode (UInt8.ofInt value)).toNat < 256 := UInt8.toNat_lt _
  have hmonth := hc.date.one_le_month
  have hmonth' := hc.date.month_le
  cases f with
  | second | minute | hour | hourAmPm | dayOfMonth | month | year | weekday =>
    simp only [put, ofCivil, carriedYear]
    omega

/-- The day of `c`, in whatever month, is a day of the year of that month. -/
theorem seconds_within_year (hc : c.Proper) {r : Reckoning} (hday : r.day = c.date.day)
    (hhour : r.hour = c.hour) (hminute : r.minute = c.minute) (hsecond : r.second = c.second) :
    (daysBeforeYear r.carriedYear - epochDay) * daySeconds ≤ r.seconds
      ∧ r.seconds < (daysBeforeYear (r.carriedYear + 1) - epochDay) * daySeconds := by
  -- even 31 days from the first of a month on there is no other year
  have hall : ∀ leap, ∀ m < 12, daysBeforeMonth leap (m + 1) + 31 ≤ (monthLengths leap).sum := by
    decide
  have hroom := hall (isLeapYear r.carriedYear) ((r.month - 1) % 12).toNat (by omega)
  have hlow := hc.date.one_le_day
  have hhigh := hc.date.day_le_31
  have htime := hc.timeOfDay_bounds
  have hseconds : r.seconds = (daysBeforeYear r.carriedYear
      + daysBeforeMonth (isLeapYear r.carriedYear) r.carriedMonth + ((c.date.day : Int) - 1)
      - epochDay) * daySeconds + c.timeOfDay := by
    simp only [seconds, firstOfMonth, hday, hhour, hminute, hsecond, Civil.toSeconds,
      Civil.timeOfDay, Date.dayNumber, daySeconds, hourSeconds, minuteSeconds]
    omega
  rw [daysBeforeYear_succ, hseconds]
  unfold carriedMonth daySeconds at *
  omega

/-- A part that is replaced without moving the instant leaves the year alone. -/
theorem carriedYear_put_of_seconds_eq (hc : c.Proper) (f : Field) (value : Int) (coding : Coding)
    (h : ((ofCivil c).put c.weekday f value coding).seconds = c.toSeconds) :
    ((ofCivil c).put c.weekday f value coding).carriedYear = c.date.year := by
  cases f with
  | month | year =>
    -- the instant lies in the year that is reached, and in that of `c`
    have hwithin := hc.within_year
    rw [← h] at hwithin
    exact year_eq_of_within (seconds_within_year hc rfl rfl rfl rfl) hwithin
  | second | minute | hour | hourAmPm | dayOfMonth | weekday => exact carriedYear_ofCivil hc

end Reckoning

/-! ### Fields -/

theorem Civil.shown_add_era {t : Int} (ht : InCalendar t) (hlater : InCalendar (t + eraSeconds)) :
    Civil.shown (t + eraSeconds) = (Civil.shown t).eraLater := by
  rw [shown, shown, if_pos ht, if_pos hlater, ofSeconds_add_era]

namespace Field

/-- A field shows the same four hundred years later. -/
theorem get_add_era (f : Field) {t : Int} (ht : InCalendar t)
    (hlater : InCalendar (t + eraSeconds)) (coding : Coding) :
    f.get (t + eraSeconds) coding = f.get t coding := by
  unfold get
  rw [Civil.shown_add_era ht hlater]
  cases f with
  | year =>
    simp only [Civil.eraLater, Date.eraLater, emod_century_add_era]
  | weekday => simp only [Civil.weekday_eraLater]
  | second | minute | hour | hourAmPm | dayOfMonth | month => rfl

/-- The rule for a replaced field leads to the same four hundred years later if and only if the two
years that are reached are treated alike. -/
theorem reckoned_eraLater_iff {c : Civil} (hc : c.Proper) (hyear : YearInCalendar c.date.year)
    (hlater : YearInCalendar (c.date.year + eraYears)) (f : Field) (value : Int) (coding : Coding) :
    let reached := ((Reckoning.ofCivil c).put c.weekday f value coding).carriedYear
    f.reckoned value c.eraLater coding = f.reckoned value c coding + eraSeconds
      ↔ (YearInCalendar reached ↔ YearInCalendar (reached + eraYears)) := by
  intro reached
  simp only [reckoned, Civil.weekday_eraLater, Reckoning.ofCivil_eraLater, Reckoning.put_eraLater,
    Reckoning.carriedYear_eraLater, Reckoning.seconds_eraLater, Civil.toSeconds_eraLater]
  change (if YearInCalendar (reached + eraYears) then _ else _)
    = (if YearInCalendar reached then _ else _) + eraSeconds ↔ _
  -- where one of the two is set and the other is not, the one that is set is moved
  have hmoved (hsame : ((Reckoning.ofCivil c).put c.weekday f value coding).seconds = c.toSeconds) :
      YearInCalendar reached ∧ YearInCalendar (reached + eraYears) := by
    have hstill : reached = c.date.year :=
      Reckoning.carriedYear_put_of_seconds_eq hc f value coding hsame
    rw [hstill]
    exact ⟨hyear, hlater⟩
  by_cases hin : YearInCalendar reached <;> by_cases hin' : YearInCalendar (reached + eraYears)
  · rw [if_pos hin, if_pos hin']
    exact iff_of_true rfl (iff_of_true hin hin')
  · rw [if_pos hin, if_neg hin']
    exact iff_of_false (fun h => hin' (hmoved ((Int.add_left_inj _).mp h).symm).2)
      (fun h => hin' (h.mp hin))
  · rw [if_neg hin, if_pos hin']
    exact iff_of_false (fun h => hin (hmoved ((Int.add_left_inj _).mp h)).1)
      (fun h => hin (h.mpr hin'))
  · rw [if_neg hin, if_neg hin']
    exact iff_of_true rfl (iff_of_false hin hin')

/-- **Four hundred years later every field shows the same, and setting it moves the instant by as
much as it does now**, in the years from -261000 to 261000 without exception.  In the whole calendar
this holds if and only if the year that is reached lies in it both times or neither time. -/
theorem get_replace_add_era (f : Field) (value : Int32) {t : Int} (ht : InCalendar t)
    (hlater : InCalendar (t + eraSeconds)) (coding : Coding) :
    let c := Civil.ofSeconds t
    let reached := ((Reckoning.ofCivil c).put c.weekday f value.toInt coding).carriedYear
    f.get (t + eraSeconds) coding = f.get t coding
      ∧ (-261000 ≤ c.date.year → c.date.year + eraYears ≤ 261000 →
        f.replace value.toInt (t + eraSeconds) coding
          = f.replace value.toInt t coding + eraSeconds)
      ∧ (f.replace value.toInt (t + eraSeconds) coding
          = f.replace value.toInt t coding + eraSeconds
        ↔ (YearInCalendar reached ↔ YearInCalendar (reached + eraYears))) := by
  obtain ⟨c, hc, rfl⟩ : ∃ c : Civil, c.Proper ∧ c.toSeconds = t :=
    ⟨_, Civil.ofSeconds_proper t, Civil.toSeconds_ofSeconds t⟩
  rw [Civil.ofSeconds_toSeconds hc]
  intro c' reached
  have hyear := (Civil.inCalendar_toSeconds hc).mp ht
  have hyear' : YearInCalendar (c.date.year + eraYears) := by
    rw [← Civil.toSeconds_eraLater] at hlater
    exact (Civil.inCalendar_toSeconds hc.eraLater).mp hlater
  have hlow := Int32.le_toInt value
  have hhigh := Int.le_sub_one_of_lt (Int32.toInt_lt value)
  have halike : f.replace value.toInt (c.toSeconds + eraSeconds) coding
        = f.replace value.toInt c.toSeconds coding + eraSeconds
      ↔ (YearInCalendar reached ↔ YearInCalendar (reached + eraYears)) := by
    rw [← Civil.toSeconds_eraLater, replace_eq_reckoned hc.eraLater hyear' f hlow hhigh,
      replace_eq_reckoned hc hyear f hlow hhigh]
    exact reckoned_eraLater_iff hc hyear hyear' f value.toInt coding
  refine ⟨get_add_era f ht hlater coding, fun hfirst hlast => halike.mpr ?_, halike⟩
  have hnear := Reckoning.carriedYear_put_near hc f value.toInt coding
  change c.date.year - 100 ≤ reached ∧ reached ≤ c.date.year + 255 at hnear
  change -261000 ≤ c.date.year at hfirst
  change c.date.year + eraYears ≤ 261000 at hlast
  have hin : YearInCalendar reached ∧ YearInCalendar (reached + eraYears) := by
    unfold YearInCalendar firstYear lastYear eraYears at *
    omega
  exact iff_of_true hin.1 hin.2

/-- On 29 February of the year -396 the year is set to the first behind the turn of the century, and
the day becomes 1 March.  On 29 February of the year 4 it does so as well. -/
theorem get_replace_add_era_leapDay :
    let leapDay : Civil := ⟨⟨-396, 2, 29⟩, 23, 59, 58⟩
    let t := leapDay.toSeconds
    InCalendar t ∧ InCalendar (t + eraSeconds)
      ∧ Civil.ofSeconds (t + eraSeconds) = ⟨⟨4, 2, 29⟩, 23, 59, 58⟩
      ∧ year.get (t + eraSeconds) .packed = year.get t .packed
      ∧ year.replace 1 t .packed = Civil.toSeconds ⟨⟨-399, 3, 1⟩, 23, 59, 58⟩
      ∧ year.replace 1 (t + eraSeconds) .packed = Civil.toSeconds ⟨⟨1, 3, 1⟩, 23, 59, 58⟩ := by
  intro leapDay t
  have ht : InCalendar t := by decide
  have hlater : InCalendar (t + eraSeconds) := by decide
  obtain ⟨hget, hreplace, -⟩ := get_replace_add_era year 1 ht hlater .packed
  have hset : year.replace 1 t .packed = Civil.toSeconds ⟨⟨-399, 3, 1⟩, 23, 59, 58⟩ := by decide
  have hmoved : year.replace 1 (t + eraSeconds) .packed = year.replace 1 t .packed + eraSeconds :=
    hreplace (by decide) (by decide)
  refine ⟨ht, hlater, by decide, hget, hset, ?_⟩
  rw [hmoved, hset]
  decide

end Field

end ClockChip
