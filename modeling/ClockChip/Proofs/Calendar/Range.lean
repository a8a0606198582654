import ClockChip.Clock.Host
import ClockChip.Proofs.Calendar.Civil

/-!
# Calendar fields within sixty-four bits

Setting a field takes an instant of 64 bits to an instant of 64 bits.  Most fields clamp the sum
that they make.  A month or a year does not: the first of a month is looked up in the calendar, and
the calendar has so few years that the sums behind it cannot leave the range.

## Main definitions

* `FitsInstant`: a number of seconds that fits 64 bits.

## Main results

* `onMonth_fits`: the instant counted from the first of a month fits.
* `Field.replace_fits`: **the instant with one field replaced fits.**
* `HostClock.toInt_replaceIn`: so it is the same in 64 bits as without a bound.
* `HostClock.toInt_moveOffset`: what setting a field adds to the offset of a running clock.
-/

namespace ClockChip

/-- A number of seconds that fits 64 bits. -/
def FitsInstant (x : Int) : Prop := leastInstant ≤ x ∧ x ≤ greatestInstant

instance (x : Int) : Decidable (FitsInstant x) := inferInstanceAs (Decidable (_ ∧ _))

theorem clamp_fits (x : Int) : FitsInstant (clamp x) := by
  unfold FitsInstant clamp leastInstant greatestInstant
  omega

theorem Instant.toInt_fits (t : Instant) : FitsInstant t.toInt := by
  have hlow := Int64.le_toInt t
  have hhigh := Int64.toInt_lt t
  unfold FitsInstant leastInstant greatestInstant
  omega

theorem Instant.minus_self (a : Instant) : a.minus a = 0 := by
  rw [minus, Int.sub_self]
  rfl

theorem Instant.minus_zero (a : Instant) : a.minus 0 = a := by
  obtain ⟨hl, hg⟩ := a.toInt_fits
  rw [← Int64.toInt_inj, toInt_minus, Int64.toInt_zero, Int.sub_zero, clamp_of_mem hl hg]

theorem Instant.plus_zero (a : Instant) : a.plus 0 = a := by
  obtain ⟨hl, hg⟩ := a.toInt_fits
  rw [← Int64.toInt_inj, toInt_plus, Int64.toInt_zero, Int.add_zero, clamp_of_mem hl hg]

theorem toInt_ofInt_of_fits {x : Int} (h : FitsInstant x) : (Int64.ofInt x).toInt = x := by
  unfold FitsInstant leastInstant greatestInstant at h
  exact Int64.toInt_ofInt_of_le (by omega) (by omega)

/-! ### Months and years -/

theorem daysBeforeMonth_le (leap : Bool) {month : Nat} (h : month ≤ 12) :
    daysBeforeMonth leap month ≤ 366 := by
  have hall : ∀ leap, ∀ month < 13, daysBeforeMonth leap month ≤ 366 := by decide
  exact hall leap month (by omega)

/-- An instant that is counted from the first of a month of the calendar fits. -/
theorem onMonth_fits {c : Civil} (hc : c.Proper) {year monthIndex x : Int}
    (h : onMonth c year monthIndex = some x) : FitsInstant x := by
  unfold onMonth at h
  dsimp only at h
  split at h
  case isFalse => exact absurd h (by simp)
  case isTrue hyear =>
    have hmonth : (monthIndex % 12).toNat + 1 ≤ 12 := by omega
    have hbefore := daysBeforeMonth_le (isLeapYear (year + monthIndex / 12)) hmonth
    have hx := Option.some.inj h
    have hday := hc.date.day_le_31
    obtain ⟨-, hhour, hminute, hsecond⟩ := hc
    unfold firstYear lastYear at hyear
    simp only [Civil.toSeconds, Civil.timeOfDay, Date.dayNumber, daysBeforeYear, epochDay,
      daySeconds, hourSeconds, minuteSeconds] at hx
    unfold FitsInstant leastInstant greatestInstant
    omega

/-! ### Fields -/

/-- **The instant with one field replaced fits 64 bits** if the instant did before. -/
theorem Field.replace_fits (f : Field) (value : Int) {t : Int} (h : FitsInstant t)
    (coding : Coding) : FitsInstant (f.replace value t coding) := by
  have hc : (Civil.shown t).Proper := Civil.ofSeconds_proper _
  have hmoved (year monthIndex : Int) :
      FitsInstant ((onMonth (Civil.shown t) year monthIndex).getD t) := by
    cases hmonth : onMonth (Civil.shown t) year monthIndex with
    | none => exact h
    | some x => exact onMonth_fits hc hmonth
  cases f with
  | month => exact hmoved _ _
  | year => exact hmoved _ _
  | second | minute | hour | hourAmPm | dayOfMonth | weekday => exact clamp_fits _

/-- Replacing a field in 64 bits is replacing it without a bound. -/
theorem HostClock.toInt_replaceIn (f : Field) (value : Int) (latch : Instant) (coding : Coding) :
    (HostClock.replaceIn f value latch coding).toInt = f.replace value latch.toInt coding :=
  toInt_ofInt_of_fits (f.replace_fits value (Instant.toInt_fits latch) coding)

/-- The offset of a running clock is moved by what replacing the field moves the virtual time. -/
theorem HostClock.toInt_moveOffset (now : Instant) (f : Field) (value : Int) (offset : Instant)
    (coding : Coding) :
    (HostClock.moveOffset now f value offset coding).toInt
      = clamp (offset.toInt + clamp (f.replace value (HostClock.latchAt now offset).toInt coding
          - (HostClock.latchAt now offset).toInt)) := by
  rw [HostClock.moveOffset, Instant.toInt_plus, Instant.toInt_minus, HostClock.toInt_replaceIn]

end ClockChip
