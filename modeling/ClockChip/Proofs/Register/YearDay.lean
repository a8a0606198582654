import ClockChip.Proofs.Register.Latched

/-!
# Year and day written in one byte

One register holds two bits of the year above the day of the month.  A byte that is written to it
sets the year first and then the day.  So the current day is for a moment a day of the new year,
and if that is a 29 February that does not exist, it becomes 1 March before the new day is set.

## Main definitions

* `YearDay.entry`: a year of the century and a day in one byte.
* `YearDay.settings`: the values that the byte sets.
* `Date.withYearDay`: the date to which the byte leads.

## Main results

* `Bank.write_yearDay`: **the byte sets year and day, leaves month and time of day alone and is
  read back**, but on a leap day that the new year has not, the month becomes March.
* `Bank.not_kept_month_leapDay`: such a day.
-/

namespace ClockChip

/-- A year of the century, up to 3, in the two high bits above a packed day of the month. -/
def YearDay.entry (year day : Nat) : UInt8 :=
  (UInt8.ofNat year <<< 6) ||| PackedDecimal.ofBinary (UInt8.ofNat day)

/-- The values that the byte sets, in this order. -/
def YearDay.settings (year day : Nat) : List Setting := [.year year, .dayOfMonth day]

/-- The date with another year of its century and another day.  The month stays, but for a leap day
that the new year has not: that is a day of March before the new day is set. -/
def Date.withYearDay (d : Date) (year day : Nat) : Date :=
  let newYear := centuryOf d.year + year
  ⟨newYear, if d.month = 2 ∧ d.day = 29 ∧ isLeapYear newYear = false then 3 else d.month, day⟩

namespace YearDay

theorem pack_entry {year day : Nat} (hyear : year ≤ 3) (hday : day ≤ 31) :
    pack ((Setting.year year).byte .packed) ((Setting.dayOfMonth day).byte .packed)
      = entry year day := by
  have hall : ∀ year < 4, ∀ day < 32, pack ((Setting.year year).byte .packed)
      ((Setting.dayOfMonth day).byte .packed) = entry year day := by decide +kernel
  exact hall year (by omega) day (by omega)

theorem unpack_entry {year day : Nat} (hyear : year ≤ 3) (hday : day ≤ 31) :
    unpack (entry year day)
      = ((Setting.year year).byte .packed, (Setting.dayOfMonth day).byte .packed) := by
  have hall : ∀ year < 4, ∀ day < 32, unpack (entry year day)
      = ((Setting.year year).byte .packed, (Setting.dayOfMonth day).byte .packed) := by
    decide +kernel
  exact hall year (by omega) day (by omega)

end YearDay

namespace Bank

theorem fieldsOf_yearDay {year day : Nat} (hyear : year ≤ 3) (hday : day ≤ 31) :
    fieldsOf 5 (YearDay.entry year day) = (YearDay.settings year day).map Setting.entry := by
  show [(Field.year, _), (Field.dayOfMonth, _)] = _
  rw [YearDay.unpack_entry hyear hday]
  rfl

end Bank

namespace VirtualClock

variable {v : VirtualClock} {now : Instant} {hundredths : UInt8} {c : Civil} {year day : Nat}

/-- A day that the new year has is kept until the day is set. -/
theorem Shows.yearDay_of_le (h : v.Shows (.plain now hundredths) c) (hinner : c.Inner)
    (hyear : year ≤ 3) (hlow : 1 ≤ day)
    (hhigh : day ≤ monthLength (centuryOf c.date.year + year) c.date.month)
    (hkept : c.date.day ≤ monthLength (centuryOf c.date.year + year) c.date.month)
    (hroom : v.Unsaturated (.plain now hundredths)
      ((YearDay.settings year day).map Setting.entry)) :
    (v.setAll (.plain now hundredths) ((YearDay.settings year day).map Setting.entry)).Shows
      (.plain now hundredths)
      { c with date := ⟨centuryOf c.date.year + year, c.date.month, day⟩ } := by
  have hfits : (Setting.year year).Fits c := ⟨by omega, hkept⟩
  have hput := Setting.put_inCalendar h.proper hinner hfits
  exact h.setAll (YearDay.settings year day) ⟨hfits, hput, ⟨hlow, hhigh⟩, hput, trivial⟩ hroom

/-- A leap day that the new year has not becomes 1 March, and the day is set there. -/
theorem Shows.yearDay_of_leapDay (h : v.Shows (.plain now hundredths) c) (hinner : c.Inner)
    (hyear : year ≤ 3) (hlow : 1 ≤ day) (hhigh : day ≤ 31)
    (hmonth : c.date.month = 2) (hday : c.date.day = 29)
    (hleap : isLeapYear (centuryOf c.date.year + year) = false)
    (hroom : v.Unsaturated (.plain now hundredths)
      ((YearDay.settings year day).map Setting.entry)) :
    (v.setAll (.plain now hundredths) ((YearDay.settings year day).map Setting.entry)).Shows
      (.plain now hundredths)
      { c with date := ⟨centuryOf c.date.year + year, 3, day⟩ } := by
  have hin : YearInCalendar (centuryOf c.date.year + year) := by
    obtain ⟨hfirst, hlast⟩ := hinner
    unfold YearInCalendar firstYear lastYear centuryOf
    omega
  have hmarch : Civil.Proper { c with date := ⟨centuryOf c.date.year + year, 3, 1⟩ } :=
    ⟨Date.march_proper _ (by decide) (by decide), h.proper.hour, h.proper.minute, h.proper.second⟩
  have hfits : (Setting.dayOfMonth day).Fits
      { c with date := ⟨centuryOf c.date.year + year, 3, 1⟩ } :=
    ⟨hlow, (Date.march_proper _ hlow hhigh).day_le⟩
  obtain ⟨hfirst, hsecond, -⟩ := hroom
  have hspill := h.set_of_replace hmarch hin
    (Setting.replace_year_leapDay h.proper h.year hmonth hday (by omega) hin hleap .packed) hfirst
  exact hspill.setAll [.dayOfMonth day] ⟨hfits, hin, trivial⟩ ⟨hsecond, trivial⟩

/-- Year and day are set, and the time of day stays. -/
theorem Shows.yearDay (h : v.Shows (.plain now hundredths) c) (hinner : c.Inner)
    (hyear : year ≤ 3) (hlow : 1 ≤ day)
    (hhigh : day ≤ monthLength (centuryOf c.date.year + year) c.date.month)
    (hroom : v.Unsaturated (.plain now hundredths)
      ((YearDay.settings year day).map Setting.entry)) :
    (v.setAll (.plain now hundredths) ((YearDay.settings year day).map Setting.entry)).Shows
      (.plain now hundredths) { c with date := c.date.withYearDay year day } := by
  unfold Date.withYearDay
  dsimp only
  split
  case isTrue hlost =>
    have hday : day ≤ 31 := Nat.le_trans hhigh (monthLength_le _ _)
    obtain ⟨hmonth, hleapDay, hleap⟩ := hlost
    exact h.yearDay_of_leapDay hinner hyear hlow hday hmonth hleapDay hleap hroom
  case isFalse hkept =>
    have hexists := mt (h.proper.date.lt_day_iff _).mp hkept
    exact h.yearDay_of_le hinner hyear hlow hhigh (Nat.not_lt.mp hexists) hroom

end VirtualClock

namespace Bank

/-- The register shows the year of the century and the day that the virtual time has. -/
theorem read_yearDay (b : Bank) {v : VirtualClock} {now : Instant} {hundredths : UInt8} {c : Civil}
    (h : v.Shows (.plain now hundredths) c) {year : Nat} (hyear : year ≤ 3)
    (hsame : c.date.year = centuryOf c.date.year + year) :
    (b.latch v (.plain now hundredths)).read 5 = YearDay.entry year c.date.day := by
  have hdigits : (c.date.year % 100).toNat = year := by
    unfold centuryOf at hsame
    omega
  rw [(b.latch_dated h).yearDay, Civil.setting, Civil.setting, hdigits,
    YearDay.pack_entry hyear h.proper.date.day_le_31]

/-- **A byte written to the year and day sets the two and leaves month and time of day alone**; only
a leap day that the new year has not leads to March.  The byte is read back for as long as the date
lasts. -/
theorem write_yearDay (b : Bank) {v : VirtualClock} {now : Instant} {hundredths : UInt8}
    {year day : Nat} (hinner : (Civil.ofSeconds (v.now (.plain now hundredths)).toInt).Inner)
    (hyear : year ≤ 3) (hlow : 1 ≤ day)
    (hhigh : let d := (Civil.ofSeconds (v.now (.plain now hundredths)).toInt).date
      day ≤ monthLength (centuryOf d.year + year) d.month)
    (hroom : v.Unsaturated (.plain now hundredths) (fieldsOf 5 (YearDay.entry year day))) :
    let clock := HostClock.plain now hundredths
    let c := Civil.ofSeconds (v.now clock).toInt
    let leapDayLost := c.date.month = 2 ∧ c.date.day = 29
      ∧ isLeapYear (centuryOf c.date.year + year) = false
    let date : Date :=
      ⟨centuryOf c.date.year + year, if leapDayLost then 3 else c.date.month, day⟩
    let after := b.write v clock 5 (YearDay.entry year day)
    Civil.ofSeconds (after.2.now clock).toInt = { c with date := date }
      ∧ ∀ later hundredths',
        (Civil.ofSeconds (after.2.now (.plain later hundredths')).toInt).date = date →
        (after.1.latch after.2 (.plain later hundredths')).read 5 = YearDay.entry year day := by
  intro clock c leapDayLost date after
  have hshown : v.Shows clock c := VirtualClock.shows_ofSeconds hinner.yearInCalendar
  have hfields := fieldsOf_yearDay hyear (Nat.le_trans hhigh (monthLength_le _ _))
  have hplain : Register.at? 5 ≠ some .control := by decide
  have hafter : after.2 = v.setAll clock (fieldsOf 5 (YearDay.entry year day)) :=
    drive_eq_setAll hplain _ v clock
  rw [hfields] at hroom hafter
  have hnew : after.2.Shows clock { c with date := date } := by
    rw [hafter]
    exact hshown.yearDay hinner hyear hlow hhigh hroom
  refine ⟨hnew.ofSeconds, fun later hundredths' hlater => ?_⟩
  -- the date alone says what the register shows
  have hin : YearInCalendar date.year := hnew.year
  have hcentury : date.year = centuryOf date.year + year := by
    rw [centuryOf_add _ (by omega)]
  rw [← hlater] at hin hcentury
  rw [read_yearDay after.1 (VirtualClock.shows_ofSeconds hin) hyear hcentury, hlater]

/-- A leap day is written in a year that has none. -/
theorem write_yearDay_leapDay :
    let v := VirtualClock.running 1677585600
    let b := ofStored (Vector.replicate 16 0) (List.replicate 240 0)
    let c : Civil := ⟨⟨2023, 2, 28⟩, 12, 0, 0⟩
    let after := b.write v (.plain 0 0) 5 0x29
    Civil.ofSeconds (v.now (.plain 0 0)).toInt = c ∧ c.Inner
      ∧ 29 ≤ monthLength (centuryOf c.date.year + 0) c.date.month
      ∧ v.Unsaturated (.plain 0 0) (fieldsOf 5 (YearDay.entry 0 29))
      ∧ Civil.ofSeconds (after.2.now (.plain 0 0)).toInt = ⟨⟨2000, 2, 29⟩, 12, 0, 0⟩
      ∧ (after.1.latch after.2 (.plain 0 0)).read 5 = 0x29 := by
  intro v b c after
  have hc : Civil.ofSeconds (v.now (.plain 0 0)).toInt = c := by decide
  have hinner : (Civil.ofSeconds (v.now (.plain 0 0)).toInt).Inner := by decide
  have hroom : v.Unsaturated (.plain 0 0) (fieldsOf 5 (YearDay.entry 0 29)) := by decide +kernel
  obtain ⟨hset, hread⟩ := b.write_yearDay hinner (by decide) (by decide) (by decide) hroom
  exact ⟨hc, by decide, by decide, hroom, hset.trans (by decide), hread 0 0 (by decide +kernel)⟩

/-- On 29 February 2024 the month is not kept when a day of 2001 is written: 29 February 2001 is
1 March, and the day is set in March. -/
theorem not_kept_month_leapDay :
    let clock := HostClock.plain 1709208000 0
    let v := VirtualClock.running 0
    let c := Civil.ofSeconds (v.now clock).toInt
    let b := ofStored (Vector.replicate 16 0) (List.replicate 240 0)
    let after := b.write v clock 5 (YearDay.entry 1 15)
    c = ⟨⟨2024, 2, 29⟩, 12, 0, 0⟩ ∧ 15 ≤ monthLength (centuryOf c.date.year + 1) c.date.month
      ∧ v.Unsaturated clock (fieldsOf 5 (YearDay.entry 1 15))
      ∧ Civil.ofSeconds (after.2.now clock).toInt = ⟨⟨2001, 3, 15⟩, 12, 0, 0⟩
      ∧ Civil.ofSeconds (after.2.now clock).toInt
        ≠ { c with date := ⟨centuryOf c.date.year + 1, c.date.month, 15⟩ } := by
  decide +kernel

end Bank

end ClockChip
