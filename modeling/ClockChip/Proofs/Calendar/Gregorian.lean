import ClockChip.Calendar.Date
import Mathlib.Algebra.GroupWithZero.Nat

/-!
# Days and dates

Every day has a date and every date that exists has a day.  A day number is turned into a date by
finding its year and counting months off; a date is turned into a day number by adding up the years
and months before it.  This module shows that the two undo each other, for all years, and that days
are numbered in the order of the calendar, so that the sums count what they are meant to count.

## Main definitions

* `monthLength`: the days of a month.
* `Date.Proper`: the month and the day exist.
* `Date.tomorrow`: the date of the next day.

## Main results

* `Date.dayNumber_tomorrow`: the day after a date has the next number.
* `Date.ofDayNumber_proper`, `Date.dayNumber_ofDayNumber`: **the date of a day exists and has the
  number of that day.**
* `Date.ofDayNumber_dayNumber`: **a date that exists is the date of its day.**
-/

namespace ClockChip

/-- The days of a month. -/
def monthLength (year : Int) (month : Nat) : Nat :=
  (monthLengths (isLeapYear year)).getD (month - 1) 0

/-- The month and the day of a date exist. -/
structure Date.Proper (d : Date) : Prop where
  one_le_month : 1 ≤ d.month
  month_le : d.month ≤ 12
  one_le_day : 1 ≤ d.day
  day_le : d.day ≤ monthLength d.year d.month

/-! ### Years -/

theorem daysBeforeYear_succ (year : Int) :
    daysBeforeYear (year + 1) = daysBeforeYear year + (monthLengths (isLeapYear year)).sum := by
  cases h : isLeapYear year with
  | true =>
    simp only [isLeapYear, Bool.and_eq_true, Bool.or_eq_true, beq_iff_eq, bne_iff_ne] at h
    have hsum : (monthLengths true).sum = 366 := rfl
    rw [hsum]
    unfold daysBeforeYear
    omega
  | false =>
    simp only [isLeapYear, Bool.and_eq_false_iff, Bool.or_eq_false_iff, beq_eq_false_iff_ne,
      bne_eq_false_iff_eq] at h
    have hsum : (monthLengths false).sum = 365 := rfl
    rw [hsum]
    unfold daysBeforeYear
    omega

theorem daysBeforeYear_le {y z : Int} (h : y ≤ z) : daysBeforeYear y ≤ daysBeforeYear z := by
  unfold daysBeforeYear
  omega

/-- A day lies in one year only. -/
theorem yearOf_eq {n y : Int} (hlow : daysBeforeYear y ≤ n) (hhigh : n < daysBeforeYear (y + 1)) :
    yearOf n = y := by
  have hbelow := daysBeforeYear_yearOf n
  have habove := lt_daysBeforeYear_yearOf n
  -- if either year came first, it would have ended before the other began
  apply Int.le_antisymm
  · refine Int.not_lt.mp fun hlt => ?_
    have hle : daysBeforeYear (y + 1) ≤ daysBeforeYear (yearOf n) := daysBeforeYear_le (by omega)
    omega
  · refine Int.not_lt.mp fun hlt => ?_
    have hle : daysBeforeYear (yearOf n + 1) ≤ daysBeforeYear y := daysBeforeYear_le (by omega)
    omega

/-! ### Months -/

/-- Counting months off ends in a month of the list, on a day of that month, and leaves no day
out. -/
theorem passMonths_spec {lens : List Nat} {days : Nat} (h : days < lens.sum) :
    (passMonths lens days).1 < lens.length
      ∧ (passMonths lens days).2 < lens.getD (passMonths lens days).1 0
      ∧ (lens.take (passMonths lens days).1).sum + (passMonths lens days).2 = days := by
  induction lens generalizing days with
  | nil => exact absurd h (Nat.not_lt_zero days)
  | cons len lens ih =>
    rw [List.sum_cons] at h
    unfold passMonths
    split
    case isTrue hlt => exact ⟨Nat.succ_pos _, hlt, Nat.zero_add days⟩
    case isFalse hge =>
      -- the month has passed: count off the rest
      have hrest : days - len < lens.sum := by omega
      obtain ⟨hmonth, hday, hsum⟩ := ih hrest
      refine ⟨Nat.succ_lt_succ hmonth, hday, ?_⟩
      simp only [List.take_succ_cons, List.sum_cons]
      omega

/-- Counting off the days before a month and some days of it ends on that day of that month. -/
theorem passMonths_sum_take {lens : List Nat} {month day : Nat} (hday : day < lens.getD month 0) :
    passMonths lens ((lens.take month).sum + day) = (month, day) := by
  induction lens generalizing month with
  | nil => exact absurd hday (Nat.not_lt_zero day)
  | cons len lens ih =>
    unfold passMonths
    cases month with
    | zero =>
      have hlt : (List.take 0 (len :: lens)).sum + day < len := by simpa using hday
      rw [if_pos hlt]
      simp
    | succ month =>
      have hge : ¬ (List.take (month + 1) (len :: lens)).sum + day < len := by
        simp only [List.take_succ_cons, List.sum_cons]
        omega
      have hrest : (List.take (month + 1) (len :: lens)).sum + day - len
          = (lens.take month).sum + day := by
        simp only [List.take_succ_cons, List.sum_cons]
        omega
      rw [if_neg hge, hrest, ih hday]

theorem sum_take_succ (lens : List Nat) (n : Nat) :
    (lens.take (n + 1)).sum = (lens.take n).sum + lens.getD n 0 := by
  rw [List.take_add_one, List.sum_append, List.getD_eq_getElem?_getD]
  cases lens[n]? <;> simp

theorem daysBeforeMonth_eq (leap : Bool) (month : Nat) :
    daysBeforeMonth leap month = ((monthLengths leap).take (month - 1)).sum := rfl

theorem daysBeforeMonth_succ (year : Int) {month : Nat} (h : 1 ≤ month) :
    daysBeforeMonth (isLeapYear year) (month + 1)
      = daysBeforeMonth (isLeapYear year) month + monthLength year month := by
  obtain ⟨month, rfl⟩ : ∃ m, month = m + 1 := ⟨month - 1, by omega⟩
  exact sum_take_succ _ month

theorem monthLength_le (year : Int) (month : Nat) : monthLength year month ≤ 31 := by
  have hall : ∀ leap, ∀ n < 12, (monthLengths leap).getD n 0 ≤ 31 := by decide
  unfold monthLength
  by_cases hmonth : month - 1 < 12
  · exact hall _ _ hmonth
  · have hnone : (monthLengths (isLeapYear year))[month - 1]? = none :=
      List.getElem?_eq_none (Nat.not_lt.mp hmonth)
    rw [List.getD_eq_getElem?_getD, hnone]
    exact Nat.zero_le 31

theorem monthLength_february (year : Int) :
    monthLength year 2 = if isLeapYear year then 29 else 28 := rfl

/-- Only February has not the same length in every year. -/
theorem monthLength_eq {month : Nat} (hlow : 1 ≤ month) (hhigh : month ≤ 12) (hne : month ≠ 2)
    (year other : Int) : monthLength year month = monthLength other month := by
  have hall : ∀ leap leap', ∀ n < 12, n ≠ 1 →
      (monthLengths leap).getD n 0 = (monthLengths leap').getD n 0 := by decide
  exact hall _ _ (month - 1) (by omega) (by omega)

/-- The months up to a month are part of the year. -/
theorem daysBeforeMonth_add_le (year : Int) {month : Nat} (h : 1 ≤ month) :
    daysBeforeMonth (isLeapYear year) month + monthLength year month
      ≤ (monthLengths (isLeapYear year)).sum := by
  have hparts := congrArg List.sum (List.take_append_drop month (monthLengths (isLeapYear year)))
  rw [List.sum_append] at hparts
  rw [← daysBeforeMonth_succ year h, daysBeforeMonth_eq, Nat.add_sub_cancel]
  omega

/-- The months up to December are the whole year. -/
theorem daysBeforeMonth_add_monthLength (year : Int) :
    daysBeforeMonth (isLeapYear year) 12 + monthLength year 12
      = (monthLengths (isLeapYear year)).sum := by
  unfold monthLength
  cases isLeapYear year <;> rfl

/-! ### Dates -/

namespace Date

theorem Proper.day_le_31 {d : Date} (h : d.Proper) : d.day ≤ 31 :=
  Nat.le_trans h.day_le (monthLength_le d.year d.month)

/-- The only day that exists in some years and not in others is 29 February. -/
theorem Proper.lt_day_iff {d : Date} (h : d.Proper) (year : Int) :
    monthLength year d.month < d.day ↔ d.month = 2 ∧ d.day = 29 ∧ isLeapYear year = false := by
  obtain ⟨hmonth, hmonth', -, hlast⟩ := h
  by_cases hfebruary : d.month = 2
  · rw [hfebruary, monthLength_february] at hlast ⊢
    cases isLeapYear year with
    | true =>
      split at hlast <;> simp <;> omega
    | false =>
      split at hlast <;> simp <;> omega
  · rw [monthLength_eq hmonth hmonth' hfebruary year d.year]
    omega

/-- The date of the next day. -/
def tomorrow (d : Date) : Date :=
  if d.day < monthLength d.year d.month then ⟨d.year, d.month, d.day + 1⟩
  else if d.month < 12 then ⟨d.year, d.month + 1, 1⟩
  else ⟨d.year + 1, 1, 1⟩

theorem february_proper (year : Int) : (Date.mk year 2 28).Proper := by
  have hlast : 28 ≤ monthLength year 2 := by
    rw [monthLength_february]
    split <;> decide
  exact ⟨Nat.le_succ 1, Nat.le_add_left 2 10, Nat.le_add_left 1 27, hlast⟩

theorem march_proper (year : Int) {day : Nat} (hlow : 1 ≤ day) (hhigh : day ≤ 31) :
    (Date.mk year 3 day).Proper := by
  have hlast : monthLength year 3 = 31 := by
    unfold monthLength
    cases isLeapYear year <;> rfl
  exact ⟨Nat.le_add_left 1 2, Nat.le_add_left 3 9, hlow, hlast ▸ hhigh⟩

theorem tomorrow_february {year : Int} (h : isLeapYear year = false) :
    (Date.mk year 2 28).tomorrow = ⟨year, 3, 1⟩ := by
  simp [tomorrow, monthLength_february, h]

/-- Days are numbered in the order of the calendar without a gap. -/
theorem dayNumber_tomorrow {d : Date} (h : d.Proper) :
    d.tomorrow.dayNumber = d.dayNumber + 1 := by
  obtain ⟨hmonth, hmonth', hday, hday'⟩ := h
  unfold tomorrow
  split
  · simp only [dayNumber]
    omega
  · have hlast : d.day = monthLength d.year d.month := by omega
    -- the last day of a month is followed by the first of the next, in December of the next year
    split
    · simp only [dayNumber, daysBeforeMonth_succ d.year hmonth]
      omega
    · have hdecember : d.month = 12 := by omega
      have hlength := daysBeforeMonth_add_monthLength d.year
      rw [hdecember] at hlast
      simp only [dayNumber, daysBeforeYear_succ, hdecember]
      have hzero : daysBeforeMonth (isLeapYear (d.year + 1)) 1 = 0 := rfl
      omega

/-- A proper date lies within its year. -/
theorem dayNumber_within {d : Date} (h : d.Proper) :
    daysBeforeYear d.year ≤ d.dayNumber + epochDay
      ∧ d.dayNumber + epochDay < daysBeforeYear (d.year + 1) := by
  obtain ⟨hmonth, -, hday, hlast⟩ := h
  have hle := daysBeforeMonth_add_le d.year hmonth
  rw [daysBeforeYear_succ]
  unfold dayNumber
  omega

/-- The days that have passed in the year of the day `n`. -/
theorem exists_dayOfYear (n : Int) :
    ∃ days : Nat, n + epochDay = daysBeforeYear (yearOf (n + epochDay)) + days
      ∧ days < (monthLengths (isLeapYear (yearOf (n + epochDay)))).sum := by
  have hlow := daysBeforeYear_yearOf (n + epochDay)
  have hhigh := lt_daysBeforeYear_yearOf (n + epochDay)
  rw [daysBeforeYear_succ] at hhigh
  exact ⟨(n + epochDay - daysBeforeYear (yearOf (n + epochDay))).toNat, by omega, by omega⟩

/-- The date of a day that is given by its year and the days that have passed in it. -/
theorem ofDayNumber_eq {n year : Int} {days : Nat}
    (hdays : days < (monthLengths (isLeapYear year)).sum)
    (hn : n + epochDay = daysBeforeYear year + days) :
    ofDayNumber n = ⟨year, (passMonths (monthLengths (isLeapYear year)) days).1 + 1,
      (passMonths (monthLengths (isLeapYear year)) days).2 + 1⟩ := by
  have hyear : yearOf (n + epochDay) = year := by
    apply yearOf_eq
    · omega
    · rw [daysBeforeYear_succ]
      omega
  have hcount : (n + epochDay - daysBeforeYear year).toNat = days := by omega
  simp only [ofDayNumber, hyear, hcount]

theorem ofDayNumber_proper (n : Int) : (ofDayNumber n).Proper := by
  obtain ⟨days, hn, hdays⟩ := exists_dayOfYear n
  rw [ofDayNumber_eq hdays hn]
  obtain ⟨hmonth, hday, -⟩ := passMonths_spec hdays
  exact ⟨Nat.succ_pos _, hmonth, Nat.succ_pos _, hday⟩

theorem dayNumber_ofDayNumber (n : Int) : (ofDayNumber n).dayNumber = n := by
  obtain ⟨days, hn, hdays⟩ := exists_dayOfYear n
  rw [ofDayNumber_eq hdays hn]
  obtain ⟨-, -, hsum⟩ := passMonths_spec hdays
  simp only [dayNumber, daysBeforeMonth_eq, Nat.add_sub_cancel]
  omega

theorem ofDayNumber_dayNumber {d : Date} (h : d.Proper) : ofDayNumber d.dayNumber = d := by
  obtain ⟨year, month, day⟩ := d
  obtain ⟨hmonth, -, hday, hlast⟩ := h
  have hle := daysBeforeMonth_add_le year hmonth
  dsimp only at hmonth hday hlast hle
  have hcount : daysBeforeMonth (isLeapYear year) month + (day - 1)
      < (monthLengths (isLeapYear year)).sum := by omega
  have hnumber : (Date.mk year month day).dayNumber + epochDay = daysBeforeYear year
      + (daysBeforeMonth (isLeapYear year) month + (day - 1) : Nat) := by
    unfold dayNumber
    dsimp only
    omega
  have hpass : passMonths (monthLengths (isLeapYear year))
      (daysBeforeMonth (isLeapYear year) month + (day - 1)) = (month - 1, day - 1) := by
    unfold monthLength at hlast
    apply passMonths_sum_take
    omega
  rw [ofDayNumber_eq hcount hnumber, hpass, Nat.sub_add_cancel hmonth, Nat.sub_add_cancel hday]

end Date

end ClockChip
