import ClockChip.Proofs.Calendar.Range
import ClockChip.Proofs.Calendar.Reckoning

/-!
# Fields set in machine words

Setting a field is stated in numbers without a bound, of which only the last sum is clamped.  A
machine has words of 64 bits, and it makes many more sums: the difference from the old value, its
product with the seconds of its unit, the year behind the carried months, the days behind the first
of a month.  Here the same steps are written for words, and with the operations left open, so that
they can be taken from words that wrap around as well as from words that refuse what does not fit.

Any operations that are exact where the result fits lead to the same instant, and this is the one
that is computed without a bound.  So nothing wraps around, nothing is refused, and the year always
fits the 32 bits in which the calendar takes it.

## Main definitions

* `Arithmetic`, `Arithmetic.wrapping`, `Arithmetic.checked`: operations on words.
* `Arithmetic.Exact`: operations that are exact where the result fits.
* `Arithmetic.replace`: a field set in words.

## Main results

* `Arithmetic.wrapping_exact`, `Arithmetic.checked_exact`.
* `Arithmetic.replace_eq`: **exact operations compute what is computed without a bound.**
-/

namespace ClockChip

/-- The word of a number, which is the number itself if it fits. -/
abbrev word (x : Int) : Instant := Int64.ofInt x

/-- A number that fits 32 bits. -/
def FitsHalf (x : Int) : Prop := -2147483648 ≤ x ∧ x ≤ 2147483647

instance (x : Int) : Decidable (FitsHalf x) := inferInstanceAs (Decidable (_ ∧ _))

/-- The operations on words that do not stop at the ends of the range. -/
structure Arithmetic (m : Type → Type) where
  /-- The sum. -/
  add : Instant → Instant → m Instant
  /-- The difference. -/
  sub : Instant → Instant → m Instant
  /-- The product. -/
  mul : Instant → Instant → m Instant
  /-- The number in 32 bits. -/
  narrow : Instant → m Int32

namespace Arithmetic

/-- Words that wrap around. -/
def wrapping : Arithmetic Id where
  add a b := a + b
  sub a b := a - b
  mul a b := a * b
  narrow a := a.toInt32

/-- A number as a word, if it fits. -/
def word? (x : Int) : Option Instant := if FitsInstant x then some (word x) else none

/-- Words that refuse what does not fit. -/
def checked : Arithmetic Option where
  add a b := word? (a.toInt + b.toInt)
  sub a b := word? (a.toInt - b.toInt)
  mul a b := word? (a.toInt * b.toInt)
  narrow a := if FitsHalf a.toInt then some (Int32.ofInt a.toInt) else none

variable {m : Type → Type} [Monad m]

/-- The operations are exact where the result fits. -/
structure Exact (A : Arithmetic m) : Prop where
  add {x y : Int} : FitsInstant x → FitsInstant y → FitsInstant (x + y) →
    A.add (word x) (word y) = pure (word (x + y))
  sub {x y : Int} : FitsInstant x → FitsInstant y → FitsInstant (x - y) →
    A.sub (word x) (word y) = pure (word (x - y))
  mul {x y : Int} : FitsInstant x → FitsInstant y → FitsInstant (x * y) →
    A.mul (word x) (word y) = pure (word (x * y))
  narrow {x : Int} : FitsHalf x → A.narrow (word x) = pure (Int32.ofInt x)

theorem wrapping_exact : wrapping.Exact where
  add {x y} _ _ _ := (Int64.ofInt_add x y).symm
  sub {x y} _ _ _ := (Int64.ofInt_sub x y).symm
  mul {x y} _ _ _ := (Int64.ofInt_mul x y).symm
  narrow _ := Int64.toInt32_ofInt

/-- A number that fits 32 bits fits 64. -/
theorem fitsInstant_of_fitsHalf {x : Int} (h : FitsHalf x) : FitsInstant x := by
  unfold FitsHalf at h
  unfold FitsInstant leastInstant greatestInstant
  omega

theorem checked_exact : checked.Exact where
  add hx hy hsum := by
    simp only [checked, toInt_ofInt_of_fits hx, toInt_ofInt_of_fits hy]
    exact if_pos hsum
  sub hx hy hdiff := by
    simp only [checked, toInt_ofInt_of_fits hx, toInt_ofInt_of_fits hy]
    exact if_pos hdiff
  mul hx hy hprod := by
    simp only [checked, toInt_ofInt_of_fits hx, toInt_ofInt_of_fits hy]
    exact if_pos hprod
  narrow hx := by
    simp only [checked, toInt_ofInt_of_fits (fitsInstant_of_fitsHalf hx)]
    exact if_pos hx

/-! ### Fields -/

variable (A : Arithmetic m)

/-- The instant moved by as many units as a value differs from the old one.  The last sum stops at
the ends of the range. -/
def move (t new old unit : Instant) : m Instant := do
  let difference ← A.sub new old
  let seconds ← A.mul difference unit
  return t.plus seconds

/-- The hour of the day that a twelve-hour byte means, as `Field.dayHour` has it. -/
def dayHour (val : UInt8) (coding : Coding) : m Instant :=
  let dial := word (coding.decode (val &&& 0x1f) % 12).toNat
  if val &&& afternoonFlag = 0 then pure dial else A.add dial (word 12)

/-- The instant counted from the first of another month, as `onMonth` has it. -/
def onMonth (c : Civil) (year monthIndex : Instant) : m (Option Instant) := do
  let year ← A.add year (word (monthIndex.toInt / 12))
  let month := (monthIndex.toInt % 12).toNat + 1
  let year ← A.narrow year
  if YearInCalendar year.toInt then
    let first := word (Civil.toSeconds ⟨⟨year.toInt, month, 1⟩, c.hour, c.minute, c.second⟩)
    let days ← A.sub (word c.date.day) (word 1)
    let seconds ← A.mul days (word daySeconds)
    let instant ← A.add first seconds
    return some instant
  else return none

/-- The instant with one field replaced, as `Field.replace` has it. -/
def replace (f : Field) (value : Int32) (t : Instant) (coding : Coding) : m Instant :=
  let c := Civil.shown t.toInt
  let val := UInt8.ofInt value.toInt
  let raw := word (coding.decode val).toNat
  match f with
  | .second => do
    let difference ← A.sub raw (word c.second)
    return t.plus difference
  | .minute => A.move t raw (word c.minute) (word minuteSeconds)
  | .hour => A.move t raw (word c.hour) (word hourSeconds)
  | .hourAmPm => do
    let hour ← A.dayHour val coding
    A.move t hour (word c.hour) (word hourSeconds)
  | .dayOfMonth => A.move t raw (word c.date.day) (word daySeconds)
  | .weekday => A.move t (word value.toInt) (word c.weekday) (word daySeconds)
  | .month => do
    let monthIndex ← A.sub raw (word 1)
    let moved ← A.onMonth c (word c.date.year) monthIndex
    return moved.getD t
  | .year => do
    let year := word c.date.year
    let century ← A.sub year (word (year.toInt % 100))
    let year ← A.add century raw
    let moved ← A.onMonth c year (word ((c.date.month : Int) - 1))
    return moved.getD t

variable {A}

/-- A number that is small beside the range of 64 bits. -/
def Small (x : Int) : Prop := -1000000000000000 ≤ x ∧ x ≤ 1000000000000000

theorem Small.fits {x : Int} (h : Small x) : FitsInstant x := by
  unfold Small at h
  unfold FitsInstant leastInstant greatestInstant
  omega

theorem Exact.add_small (hA : A.Exact) {x y : Int} (hx : Small x) (hy : Small y) :
    A.add (word x) (word y) = pure (word (x + y)) := by
  refine hA.add hx.fits hy.fits ?_
  unfold Small at hx hy
  unfold FitsInstant leastInstant greatestInstant
  omega

theorem Exact.sub_small (hA : A.Exact) {x y : Int} (hx : Small x) (hy : Small y) :
    A.sub (word x) (word y) = pure (word (x - y)) := by
  refine hA.sub hx.fits hy.fits ?_
  unfold Small at hx hy
  unfold FitsInstant leastInstant greatestInstant
  omega

theorem plus_word (t : Instant) {x : Int} (h : FitsInstant x) :
    t.plus (word x) = Instant.saturate (t.toInt + x) := by
  rw [Instant.plus, toInt_ofInt_of_fits h]

theorem dayHour_eq (hA : A.Exact) (val : UInt8) (coding : Coding) :
    A.dayHour val coding = pure (word (Field.dayHour val coding)) := by
  have hdial := (coding.decode (val &&& 0x1f) % 12).toNat_lt
  unfold dayHour Field.dayHour
  dsimp only
  split
  · rw [Int.add_zero]
  · exact hA.add_small ⟨by omega, by omega⟩ (by unfold Small; decide)

variable [LawfulMonad m]

/-- No step of a move leaves the range: a value has 32 bits at most, and a unit is a day at most. -/
theorem move_eq (hA : A.Exact) (t : Instant) {new old unit : Int} (hnew : FitsHalf new)
    (hold : 0 ≤ old ∧ old < 256)
    (hunit : unit = minuteSeconds ∨ unit = hourSeconds ∨ unit = daySeconds) :
    A.move t (word new) (word old) (word unit)
      = pure (Instant.saturate (t.toInt + (new - old) * unit)) := by
  unfold FitsHalf at hnew
  have hunits : Small unit ∧ Small ((new - old) * unit) := by
    unfold minuteSeconds hourSeconds daySeconds at hunit
    unfold Small
    rcases hunit with rfl | rfl | rfl <;> omega
  have hdifference : Small (new - old) := ⟨by omega, by omega⟩
  unfold move
  rw [hA.sub_small ⟨by omega, by omega⟩ ⟨by omega, by omega⟩, pure_bind,
    hA.mul hdifference.fits hunits.1.fits hunits.2.fits, pure_bind, plus_word t hunits.2.fits]

/-- The first of a month exists. -/
theorem firstOfMonth_proper {c : Civil} (hc : c.Proper) (year : Int) {month : Nat}
    (hlow : 1 ≤ month) (hhigh : month ≤ 12) :
    Civil.Proper ⟨⟨year, month, 1⟩, c.hour, c.minute, c.second⟩ := by
  have hall : ∀ leap, ∀ n < 12, 1 ≤ (monthLengths leap).getD n 0 := by decide
  have hlast : 1 ≤ monthLength year month := hall _ (month - 1) (by omega)
  exact ⟨⟨hlow, hhigh, Nat.le_refl 1, hlast⟩, hc.hour, hc.minute, hc.second⟩

/-- The year of a month fits 32 bits, and in the calendar no sum behind it leaves 64 bits. -/
theorem onMonth_eq (hA : A.Exact) {c : Civil} (hc : c.Proper) {year monthIndex : Int}
    (hyear : -300000 ≤ year ∧ year ≤ 300000) (hindex : -300 ≤ monthIndex ∧ monthIndex ≤ 300) :
    A.onMonth c (word year) (word monthIndex)
      = pure ((ClockChip.onMonth c year monthIndex).map word) := by
  have hmonthIndex : (word monthIndex).toInt = monthIndex :=
    toInt_ofInt_of_fits (Small.fits ⟨by omega, by omega⟩)
  have hreached : FitsHalf (year + monthIndex / 12) := ⟨by omega, by omega⟩
  have hnarrow : (Int32.ofInt (year + monthIndex / 12)).toInt = year + monthIndex / 12 :=
    Int32.toInt_ofInt_of_le (by omega) (by omega)
  unfold onMonth
  rw [hmonthIndex, hA.add_small ⟨by omega, by omega⟩ ⟨by omega, by omega⟩, pure_bind,
    hA.narrow hreached, pure_bind, hnarrow]
  by_cases hin : YearInCalendar (year + monthIndex / 12)
  · have hproper : Civil.Proper ⟨⟨year + monthIndex / 12, (monthIndex % 12).toNat + 1, 1⟩,
        c.hour, c.minute, c.second⟩ := firstOfMonth_proper hc _ (by omega) (by omega)
    have hfirst := (Civil.inCalendar_toSeconds hproper).mpr hin
    have hbounds := hfirst.bounds
    have hday := hc.date.day_le_31
    have hmonth : ClockChip.onMonth c year monthIndex = some _ := if_pos hin
    have hdays : Small (((c.date.day : Int) - 1) * daySeconds) := by
      unfold Small daySeconds
      omega
    rw [hmonth, if_pos hin, hA.sub_small ⟨by omega, by omega⟩ (by unfold Small; decide), pure_bind,
      hA.mul (Small.fits ⟨by omega, by omega⟩) (by decide) hdays.fits, pure_bind,
      hA.add_small ⟨by omega, by omega⟩ hdays, pure_bind]
    rfl
  · have hmonth : ClockChip.onMonth c year monthIndex = none := if_neg hin
    rw [hmonth, if_neg hin]
    rfl

theorem getD_map_word (x : Option Int) (t : Instant) :
    (x.map word).getD t = word (x.getD t.toInt) := by
  cases x with
  | none => exact (Int64.ofInt_toInt t).symm
  | some x => rfl

/-- **Exact operations compute what is computed without a bound.** -/
theorem replace_eq (hA : A.Exact) (f : Field) (value : Int32) (t : Instant) (coding : Coding) :
    A.replace f value t coding = pure (HostClock.replaceIn f value.toInt t coding) := by
  have hc : (Civil.shown t.toInt).Proper := Civil.ofSeconds_proper _
  have hday := hc.date.day_le_31
  have hweekday := (Civil.shown t.toInt).weekday_lt
  have hraw : (coding.decode (UInt8.ofInt value.toInt)).toNat < 256 := UInt8.toNat_lt _
  obtain ⟨hfirst, hlast⟩ := Civil.shown_yearInCalendar t.toInt
  obtain ⟨⟨hmonth, hmonth', -, -⟩, hhour, hminute, hsecond⟩ := id hc
  unfold firstYear at hfirst
  unfold lastYear at hlast
  unfold replace HostClock.replaceIn Field.replace
  dsimp only
  cases f with
  | second =>
    dsimp only
    rw [hA.sub_small ⟨by omega, by omega⟩ ⟨by omega, by omega⟩, pure_bind,
      plus_word t (Small.fits ⟨by omega, by omega⟩)]
    rfl
  | minute => exact move_eq hA t ⟨by omega, by omega⟩ ⟨by omega, by omega⟩ (.inl rfl)
  | hour => exact move_eq hA t ⟨by omega, by omega⟩ ⟨by omega, by omega⟩ (.inr (.inl rfl))
  | hourAmPm =>
    dsimp only
    have hdial := (coding.decode (UInt8.ofInt value.toInt &&& 0x1f) % 12).toNat_lt
    have hdayHour : FitsHalf (Field.dayHour (UInt8.ofInt value.toInt) coding) := by
      unfold Field.dayHour
      split <;> exact ⟨by omega, by omega⟩
    rw [dayHour_eq hA, pure_bind]
    exact move_eq hA t hdayHour ⟨by omega, by omega⟩ (.inr (.inl rfl))
  | dayOfMonth =>
    exact move_eq hA t ⟨by omega, by omega⟩ ⟨by omega, by omega⟩ (.inr (.inr rfl))
  | weekday =>
    have hlow := Int32.le_toInt value
    have hhigh := Int32.toInt_lt value
    exact move_eq hA t ⟨by omega, by omega⟩ ⟨by omega, by omega⟩ (.inr (.inr rfl))
  | month =>
    dsimp only
    rw [hA.sub_small ⟨by omega, by omega⟩ (by unfold Small; decide), pure_bind,
      onMonth_eq hA hc ⟨by omega, by omega⟩ ⟨by omega, by omega⟩, pure_bind, getD_map_word]
  | year =>
    dsimp only
    have hyear : (word (Civil.shown t.toInt).date.year).toInt = (Civil.shown t.toInt).date.year :=
      toInt_ofInt_of_fits (Small.fits ⟨by omega, by omega⟩)
    rw [hyear, hA.sub_small ⟨by omega, by omega⟩ ⟨by omega, by omega⟩, pure_bind,
      hA.add_small ⟨by omega, by omega⟩ ⟨by omega, by omega⟩, pure_bind,
      onMonth_eq hA hc ⟨by omega, by omega⟩ ⟨by omega, by omega⟩, pure_bind, getD_map_word]

end Arithmetic

end ClockChip
