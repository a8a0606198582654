import ClockChip.Proofs.Calendar.Era
import ClockChip.Proofs.Calendar.Range
import Mathlib.Algebra.Order.Group.Abs
import Mathlib.Algebra.Order.Group.Int

/-!
# How far a field moves an instant

One field that is set leads to an instant nearby, less than three hundred years away.  In the
calendar this holds for every field and every value: years stay in their century or come less than
two centuries behind it, months carry into twenty-one years at most, and the other fields add less
than a year.  Outside it holds for the fields that add, whose sum stops at an end of the 64-bit
range at most.

A month or a year does not add, it starts over at the first of the month that it names.  An instant
outside the calendar shows the calendar's first second, so it is from there that the month is looked
for, however far away the instant is.  Unless the year that is reached lies before the calendar, the
instant is replaced by one near the calendar's beginning, even if it lay behind the calendar's end.

## Main definitions

* `threeCenturies`: the distance.
* `Civil.first`: the date and time of the first second of the calendar.
* `Field.LeadsInside`, `Field.landing`: where a month or a year leads from there.

## Main results

* `Field.near_of_startsOver`, `Field.near_of_adds`: where every value keeps the distance.
* `Field.replace_outside`: what a month or a year comes to outside the calendar.
* `Field.near_replace_iff`: **a field moves an instant by no more than three centuries, except for a
  month or a year outside the calendar that starts over inside.**
-/

namespace ClockChip

/-- Three hundred years of 366 days, in seconds. -/
def threeCenturies : Int := 300 * 366 * daySeconds

/-! ### Distances -/

/-- No year is longer than 366 days. -/
theorem daysBeforeYear_add_le (year : Int) {n : Int} (h : 0 ≤ n) :
    daysBeforeYear (year + n) ≤ daysBeforeYear year + 366 * n := by
  unfold daysBeforeYear
  omega

/-- A sum that stops at an end of the range is not farther away than the sum itself. -/
theorem clamp_near {t d bound : Int} (ht : FitsInstant t) (hd : |d| ≤ bound) :
    |clamp (t + d) - t| ≤ bound := by
  rw [abs_le] at hd ⊢
  unfold FitsInstant at ht
  unfold clamp leastInstant greatestInstant at *
  omega

/-- Instants of years that are less than 299 apart are near each other. -/
theorem near_of_years {s t y z : Int}
    (hs : (daysBeforeYear y - epochDay) * daySeconds ≤ s
      ∧ s < (daysBeforeYear (y + 1) - epochDay) * daySeconds)
    (ht : (daysBeforeYear z - epochDay) * daySeconds ≤ t
      ∧ t < (daysBeforeYear (z + 1) - epochDay) * daySeconds)
    (hlow : z - 299 ≤ y) (hhigh : y ≤ z + 299) : |s - t| ≤ threeCenturies := by
  have hforward : daysBeforeYear (y + 1) ≤ daysBeforeYear z + 366 * 300 := by
    have hsum := daysBeforeYear_add_le z (n := 300) (by decide)
    have hle : daysBeforeYear (y + 1) ≤ daysBeforeYear (z + 300) := daysBeforeYear_le (by omega)
    omega
  have hback : daysBeforeYear (z + 1) ≤ daysBeforeYear y + 366 * 300 := by
    have hsum := daysBeforeYear_add_le y (n := 300) (by decide)
    have hle : daysBeforeYear (z + 1) ≤ daysBeforeYear (y + 300) := daysBeforeYear_le (by omega)
    omega
  rw [abs_le]
  unfold threeCenturies daySeconds at *
  omega

/-! ### Starting over outside the calendar -/

/-- The date and time of the first second of the calendar. -/
def Civil.first : Civil := ⟨⟨firstYear, 1, 1⟩, 0, 0, 0⟩

theorem Civil.ofSeconds_firstSecond : ofSeconds firstSecond = first := by decide

theorem Civil.first_proper : first.Proper := by
  rw [← ofSeconds_firstSecond]
  exact ofSeconds_proper firstSecond

/-- Outside the calendar an instant shows the first second of the calendar. -/
theorem Civil.shown_outside {t : Int} (h : ¬ InCalendar t) : shown t = first := by
  rw [shown, if_neg h, ofSeconds_firstSecond]

namespace Field

/-- A month or a year is counted from the first of a month, and leads from the first second of the
calendar to a year that the calendar covers: month 0 is the December before, and a year stays in the
century that began fifty-seven years earlier. -/
def LeadsInside (f : Field) (value : Int) (coding : Coding) : Prop :=
  let number := (coding.decode (UInt8.ofInt value)).toNat
  match f with
  | month => 1 ≤ number
  | year => 57 ≤ number
  | _ => False

/-- The first second of the calendar with one field replaced. -/
def landing (f : Field) (value : Int) (coding : Coding) : Int :=
  ((Reckoning.ofCivil .first).put Civil.first.weekday f value coding).seconds

/-- The year of the landing is in the calendar if and only if the number leads there. -/
theorem yearInCalendar_landing_iff {f : Field} (hf : f = month ∨ f = year) (value : Int)
    (coding : Coding) :
    YearInCalendar ((Reckoning.ofCivil .first).put Civil.first.weekday f value coding).carriedYear
      ↔ f.LeadsInside value coding := by
  have hnumber : (coding.decode (UInt8.ofInt value)).toNat < 256 := UInt8.toNat_lt _
  rcases hf with rfl | rfl
  · simp only [Reckoning.put, Reckoning.ofCivil, Civil.first, Reckoning.carriedYear, LeadsInside,
      YearInCalendar, firstYear, lastYear]
    omega
  · simp only [Reckoning.put, Reckoning.ofCivil, Civil.first, Reckoning.carriedYear, LeadsInside,
      YearInCalendar, firstYear, lastYear]
    omega

/-- A month or a year starts over at the first of the month that it names, if its year is in the
calendar. -/
theorem replace_startsOver {f : Field} (hf : f = month ∨ f = year) (value t : Int)
    (coding : Coding) :
    let r := (Reckoning.ofCivil (Civil.shown t)).put (Civil.shown t).weekday f value coding
    f.replace value t coding = if YearInCalendar r.carriedYear then r.seconds else t := by
  intro r
  rcases hf with rfl | rfl
  · exact onMonth_eq (Civil.shown t) _ _ t
  · exact onMonth_eq (Civil.shown t) _ (Civil.shown t).date.month t

/-- Outside the calendar a month or a year leads to the landing, wherever the instant is, or changes
nothing. -/
theorem replace_outside {f : Field} (hf : f = month ∨ f = year) (value : Int) {t : Int}
    (ht : ¬ InCalendar t) (coding : Coding) :
    (f.LeadsInside value coding → f.replace value t coding = f.landing value coding)
      ∧ (¬ f.LeadsInside value coding → f.replace value t coding = t) := by
  have hreplace := replace_startsOver hf value t coding
  rw [Civil.shown_outside ht] at hreplace
  rw [hreplace]
  constructor
  · intro hleads
    exact if_pos ((yearInCalendar_landing_iff hf value coding).mpr hleads)
  · intro hleads
    exact if_neg (mt (yearInCalendar_landing_iff hf value coding).mp hleads)

/-! ### Every value -/

/-- The fields that add move the instant by less than a year, wherever it is. -/
theorem near_of_adds {f : Field} (hmonth : f ≠ month) (hyear : f ≠ year) {value : Int}
    (hvalue : f = weekday → -1 ≤ value ∧ value ≤ 6) {t : Int} (ht : FitsInstant t)
    (coding : Coding) : |f.replace value t coding - t| ≤ threeCenturies := by
  have hc : (Civil.shown t).Proper := Civil.ofSeconds_proper _
  have hday := hc.date.day_le_31
  have hweekday := (Civil.shown t).weekday_lt
  have hnumber : (coding.decode (UInt8.ofInt value)).toNat < 256 := UInt8.toNat_lt _
  obtain ⟨-, hhour, hminute, hsecond⟩ := hc
  unfold replace threeCenturies
  simp only [dayHour_eq, minuteSeconds, hourSeconds, daySeconds]
  cases f with
  | month => exact absurd rfl hmonth
  | year => exact absurd rfl hyear
  | weekday =>
    obtain ⟨hlow, hhigh⟩ := hvalue rfl
    apply clamp_near ht
    rw [abs_le]
    omega
  | second | minute | hour | hourAmPm | dayOfMonth =>
    apply clamp_near ht
    rw [abs_le]
    omega

/-- A month or a year that starts over leads into the year that is reached. -/
theorem seconds_within_year_put {f : Field} (hf : f = month ∨ f = year) {c : Civil}
    (hc : c.Proper) (value : Int) (coding : Coding) :
    let r := (Reckoning.ofCivil c).put c.weekday f value coding
    (daysBeforeYear r.carriedYear - epochDay) * daySeconds ≤ r.seconds
      ∧ r.seconds < (daysBeforeYear (r.carriedYear + 1) - epochDay) * daySeconds := by
  intro r
  -- only the month and the year are new among the parts
  rcases hf with rfl | rfl
  · exact Reckoning.seconds_within_year hc rfl rfl rfl rfl
  · exact Reckoning.seconds_within_year hc rfl rfl rfl rfl

/-- In the calendar a month or a year leads less than a century back and less than three on. -/
theorem near_of_startsOver {f : Field} (hf : f = month ∨ f = year) (value : Int) {t : Int}
    (ht : InCalendar t) (coding : Coding) : |f.replace value t coding - t| ≤ threeCenturies := by
  rw [replace_startsOver hf value t coding]
  rw [Civil.shown, if_pos ht]
  have hc := Civil.ofSeconds_proper t
  have hwithin := hc.within_year
  rw [Civil.toSeconds_ofSeconds] at hwithin
  obtain ⟨hlow, hhigh⟩ := Reckoning.carriedYear_put_near hc f value coding
  have hstart := seconds_within_year_put hf hc value coding
  split
  case isFalse => simp [threeCenturies, daySeconds]
  case isTrue => exact near_of_years hstart hwithin (by omega) (by omega)

/-- The landing lies in the first three centuries of the calendar. -/
theorem landing_bounds {f : Field} (hf : f = month ∨ f = year) {value : Int} {coding : Coding}
    (h : f.LeadsInside value coding) :
    firstSecond ≤ f.landing value coding
      ∧ f.landing value coding ≤ firstSecond + threeCenturies := by
  have hwithin := seconds_within_year_put hf Civil.first_proper value coding
  obtain ⟨hfirst, -⟩ := (yearInCalendar_landing_iff hf value coding).mpr h
  obtain ⟨hlow, hhigh⟩ := Reckoning.carriedYear_put_near Civil.first_proper f value coding
  change firstYear - 100 ≤ _ at hlow
  change _ ≤ firstYear + 255 at hhigh
  constructor
  · have hbelow := daysBeforeYear_le hfirst
    rw [firstSecond_eq]
    unfold landing
    unfold daySeconds at *
    omega
  · have hfirstYear := Civil.first_proper.within_year
    rw [← Civil.ofSeconds_firstSecond, Civil.toSeconds_ofSeconds, Civil.ofSeconds_firstSecond]
      at hfirstYear
    have hnear : |f.landing value coding - firstSecond| ≤ threeCenturies :=
      near_of_years hwithin hfirstYear (by change firstYear - 299 ≤ _; omega)
        (by change _ ≤ firstYear + 299; omega)
    rw [abs_le] at hnear
    omega

/-- **One field that is set moves an instant by no more than three centuries**, for every instant of
64 bits and every byte, and every weekday from the Saturday before to the Saturday of the week,
except where a month or a year starts over from outside the calendar and leads inside.  Then the
instant is left for the landing; it keeps the distance only if it lies as close before the
calendar. -/
theorem near_replace_iff (f : Field) {value : Int} (hvalue : f = weekday → -1 ≤ value ∧ value ≤ 6)
    (t : Instant) (coding : Coding) :
    |f.replace value t.toInt coding - t.toInt| ≤ threeCenturies
      ↔ InCalendar t.toInt ∨ ¬ f.LeadsInside value coding
        ∨ t.toInt < firstSecond ∧ f.landing value coding - t.toInt ≤ threeCenturies := by
  by_cases hf : f = month ∨ f = year
  · by_cases hin : InCalendar t.toInt
    · exact iff_of_true (near_of_startsOver hf value hin coding) (.inl hin)
    · obtain ⟨hmoves, hstays⟩ := replace_outside hf value hin coding
      by_cases hleads : f.LeadsInside value coding
      · -- the landing is at the beginning of the calendar, so only instants before it can be near
        obtain ⟨hlow, hhigh⟩ := landing_bounds hf hleads
        have hspan : firstSecond + 2 * threeCenturies < lastSecond := by decide
        have hpos : 0 < threeCenturies := by decide
        unfold InCalendar at hin ⊢
        rw [hmoves hleads, abs_le]
        simp only [hleads, not_true_eq_false, false_or]
        omega
      · rw [hstays hleads, Int.sub_self, abs_zero]
        exact iff_of_true (by decide) (.inr (.inl hleads))
  · obtain ⟨hmonth, hyear⟩ := not_or.mp hf
    have hadds : ¬ f.LeadsInside value coding := by
      cases f with
      | month => exact absurd rfl hmonth
      | year => exact absurd rfl hyear
      | second | minute | hour | hourAmPm | dayOfMonth | weekday => exact fun h => h
    exact iff_of_true (near_of_adds hmonth hyear hvalue (Instant.toInt_fits t) coding)
      (.inr (.inl hadds))

/-- At the last instant of 64 bits the weekday can only be moved back: forward the sum stops. -/
theorem near_replace_lastInstant :
    let t : Instant := Int64.maxValue
    (weekday = weekday → -1 ≤ (6 : Int) ∧ (6 : Int) ≤ 6)
      ∧ ¬ InCalendar t.toInt ∧ ¬ weekday.LeadsInside 6 .packed
      ∧ weekday.replace 6 t.toInt .packed = t.toInt
      ∧ |weekday.replace 6 t.toInt .packed - t.toInt| ≤ threeCenturies := by
  intro t
  have hvalue : weekday = weekday → -1 ≤ (6 : Int) ∧ (6 : Int) ≤ 6 := fun _ => by decide
  have hleads : ¬ weekday.LeadsInside 6 .packed := fun h => h
  exact ⟨hvalue, by decide, hleads, by decide,
    (near_replace_iff weekday hvalue t .packed).mpr (.inr (.inl hleads))⟩

/-- In the first second behind the calendar the month shows January.  Setting it to January leads to
the first second of the calendar, more than five hundred thousand years back. -/
theorem not_near_behindTheCalendar :
    month.get (lastSecond + 1) .packed = 1
      ∧ month.replace 1 (lastSecond + 1) .packed = firstSecond
      ∧ ¬ |month.replace 1 (lastSecond + 1) .packed - (lastSecond + 1)| ≤ threeCenturies := by
  decide

end Field

end ClockChip
