import ClockChip.Calendar.Civil
import ClockChip.Proofs.Calendar.Gregorian

/-!
# Instants and civil times

An instant is taken apart into a date and a time of day by dividing, and put together by
multiplying.  The two undo each other: every instant has exactly one proper date and time.  The
calendar's limits, which are instants, are read as limits of the year.

## Main definitions

* `Civil.Proper`: the date and the time of day exist.
* `YearInCalendar`: the calendar covers a year.

## Main results

* `Civil.ofSeconds_proper`, `Civil.toSeconds_ofSeconds`, `Civil.ofSeconds_toSeconds`: **an instant
  and its date and time determine each other.**
* `inCalendar_iff`: an instant is in the calendar if and only if its year is.
-/

namespace ClockChip

namespace Civil

/-- The date exists, and so does the time of day. -/
structure Proper (c : Civil) : Prop where
  date : c.date.Proper
  hour : c.hour < 24
  minute : c.minute < 60
  second : c.second < 60

variable {c : Civil}

theorem Proper.timeOfDay_bounds (h : c.Proper) : 0 ≤ c.timeOfDay ∧ c.timeOfDay < daySeconds := by
  obtain ⟨-, hhour, hminute, hsecond⟩ := h
  unfold timeOfDay hourSeconds minuteSeconds daySeconds
  omega

theorem Proper.toSeconds_ediv (h : c.Proper) : c.toSeconds / daySeconds = c.date.dayNumber := by
  have hbounds := h.timeOfDay_bounds
  unfold toSeconds daySeconds at *
  omega

theorem Proper.toSeconds_emod (h : c.Proper) : c.toSeconds % daySeconds = c.timeOfDay := by
  have hbounds := h.timeOfDay_bounds
  unfold toSeconds daySeconds at *
  omega

theorem ofSeconds_proper (t : Int) : (ofSeconds t).Proper := by
  have hseconds : (t % daySeconds).toNat < 86400 := by
    unfold daySeconds
    omega
  refine ⟨Date.ofDayNumber_proper _, ?_, ?_, ?_⟩
  all_goals
    simp only [ofSeconds]
    omega

theorem toSeconds_ofSeconds (t : Int) : (ofSeconds t).toSeconds = t := by
  simp only [toSeconds, timeOfDay, ofSeconds, Date.dayNumber_ofDayNumber]
  unfold daySeconds hourSeconds minuteSeconds
  omega

theorem ofSeconds_toSeconds (h : c.Proper) : ofSeconds c.toSeconds = c := by
  unfold ofSeconds
  rw [h.toSeconds_ediv, h.toSeconds_emod, Date.ofDayNumber_dayNumber h.date]
  obtain ⟨date, hour, minute, second⟩ := c
  obtain ⟨-, hhour, hminute, hsecond⟩ := h
  simp only [timeOfDay, hourSeconds, minuteSeconds, mk.injEq, true_and] at *
  omega

/-- A proper date and time lies in its year. -/
theorem Proper.within_year (h : c.Proper) :
    (daysBeforeYear c.date.year - epochDay) * daySeconds ≤ c.toSeconds
      ∧ c.toSeconds < (daysBeforeYear (c.date.year + 1) - epochDay) * daySeconds := by
  have hdate := Date.dayNumber_within h.date
  have hbounds := h.timeOfDay_bounds
  unfold toSeconds daySeconds at *
  omega

theorem weekday_lt (c : Civil) : c.weekday < 7 := by
  unfold weekday weekdayOf
  omega

end Civil

/-! ### The limits of the calendar -/

/-- The year is one of the calendar's. -/
def YearInCalendar (year : Int) : Prop := firstYear ≤ year ∧ year ≤ lastYear

instance (year : Int) : Decidable (YearInCalendar year) := inferInstanceAs (Decidable (_ ∧ _))

theorem firstSecond_eq :
    firstSecond = (daysBeforeYear firstYear - epochDay) * daySeconds := by decide

theorem lastSecond_eq :
    lastSecond = (daysBeforeYear (lastYear + 1) - epochDay) * daySeconds - 1 := by decide

/-- The calendar is small beside the range of 64 bits. -/
theorem InCalendar.bounds {t : Int} (h : InCalendar t) :
    -9000000000000 ≤ t ∧ t ≤ 9000000000000 := by
  have hfirst : -9000000000000 ≤ firstSecond := by decide
  have hlast : lastSecond ≤ 9000000000000 := by decide
  obtain ⟨hafter, hbefore⟩ := h
  omega

/-- An instant is in the calendar if and only if its year is. -/
theorem inCalendar_iff {t : Int} :
    InCalendar t ↔ YearInCalendar (Civil.ofSeconds t).date.year := by
  obtain ⟨hlow, hhigh⟩ := (Civil.ofSeconds_proper t).within_year
  rw [Civil.toSeconds_ofSeconds] at hlow hhigh
  generalize (Civil.ofSeconds t).date.year = year at hlow hhigh
  unfold InCalendar YearInCalendar
  rw [firstSecond_eq, lastSecond_eq]
  constructor
  · intro ⟨hfirst, hlast⟩
    constructor
    · refine Int.not_lt.mp fun hlt => ?_
      have hle : daysBeforeYear (year + 1) ≤ daysBeforeYear firstYear := daysBeforeYear_le hlt
      unfold daySeconds at *
      omega
    · refine Int.not_lt.mp fun hlt => ?_
      have hle : daysBeforeYear (lastYear + 1) ≤ daysBeforeYear year := daysBeforeYear_le hlt
      unfold daySeconds at *
      omega
  · intro ⟨hfirst, hlast⟩
    have hbelow : daysBeforeYear firstYear ≤ daysBeforeYear year := daysBeforeYear_le hfirst
    have habove : daysBeforeYear (year + 1) ≤ daysBeforeYear (lastYear + 1) :=
      daysBeforeYear_le (Int.add_le_add_right hlast 1)
    unfold daySeconds at *
    omega

theorem Civil.inCalendar_toSeconds {c : Civil} (h : c.Proper) :
    InCalendar c.toSeconds ↔ YearInCalendar c.date.year := by
  rw [inCalendar_iff, ofSeconds_toSeconds h]

/-- Every instant shows a year of the calendar. -/
theorem Civil.shown_yearInCalendar (t : Int) : YearInCalendar (shown t).date.year := by
  unfold shown
  rw [← inCalendar_iff]
  split
  case isTrue h => exact h
  case isFalse => decide

/-- In the calendar an instant shows its own date and time. -/
theorem Civil.shown_toSeconds {c : Civil} (h : c.Proper) (hyear : YearInCalendar c.date.year) :
    shown c.toSeconds = c := by
  rw [shown, if_pos ((inCalendar_toSeconds h).mpr hyear), ofSeconds_toSeconds h]

end ClockChip
