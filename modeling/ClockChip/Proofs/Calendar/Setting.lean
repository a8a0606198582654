import ClockChip.Proofs.Calendar.Reckoning

/-!
# Fields set to values that exist

A field is given a value that it can have beside the others: a day of the current month, a month or
a year in which the current day exists.  Then nothing carries.  The field shows what it was set to
and every other part of the date and time stays as it is; only another weekday moves the date, and
not out of its week.

## Main definitions

* `Setting`: a field with a value for it, and `Setting.byte`, the byte in which it is written.
* `Setting.Fits`: the field can have the value beside the other parts.
* `Setting.put`: the date and time with the value in its place.
* `weekOf`: the week of an instant.

## Main results

* `Setting.put_proper`: a value that fits leaves a date and time that exists.
* `Setting.replace_eq`: setting the field leads to its instant.
* `Setting.get_put`: there the field shows the value.
* `Setting.get_replace`: **so what is set is read back and nothing else is disturbed.**
-/

namespace ClockChip

/-- The first year of a century, which is the hundred years that begin with a multiple of a
hundred. -/
def centuryOf (year : Int) : Int := year - year % 100

theorem centuryOf_add (year : Int) {n : Nat} (h : n < 100) :
    centuryOf (centuryOf year + n) = centuryOf year := by
  unfold centuryOf
  omega

/-- The week of an instant, from Sunday to Saturday, counted from the week of the epoch. -/
def weekOf (t : Int) : Int := (t / daySeconds + 4) / 7

/-- A year that is away from the ends of the calendar. -/
def Civil.Inner (c : Civil) : Prop := -262000 ≤ c.date.year ∧ c.date.year ≤ 262000

instance (c : Civil) : Decidable c.Inner := inferInstanceAs (Decidable (_ ∧ _))

theorem Civil.Inner.yearInCalendar {c : Civil} (h : c.Inner) : YearInCalendar c.date.year := by
  obtain ⟨hlow, hhigh⟩ := h
  unfold YearInCalendar firstYear lastYear
  omega

/-! ### Bytes of small numbers -/

theorem ofInt_natCast {n : Nat} (h : n < 256) : UInt8.ofInt n = UInt8.ofNat n := by
  have hmod : ((n : Int) % 2 ^ 8).toNat = n := by omega
  rw [UInt8.ofInt, hmod]

theorem ofInt_toNat (b : UInt8) : UInt8.ofInt b.toNat = b := by
  rw [ofInt_natCast b.toNat_lt, UInt8.ofNat_toNat]

/-- A number of two digits is read as it was written. -/
theorem Coding.toNat_decode_encode (coding : Coding) {n : Nat} (h : n < 100) :
    (coding.decode (coding.encode (UInt8.ofNat n))).toNat = n := by
  have hpacked : ∀ n < 100,
      (PackedDecimal.toBinary (PackedDecimal.ofBinary (UInt8.ofNat n))).toNat = n := by decide
  cases coding with
  | binary => exact UInt8.toNat_ofNat_of_lt' (Nat.lt_trans h (by decide))
  | packed => exact hpacked n h

/-- The flag of the afternoon stands above the digits of an hour of twelve. -/
theorem Coding.decode_dial (coding : Coding) {n : Nat} (h : n ≤ 12) (afternoon : Bool) :
    let val := coding.encode (UInt8.ofNat n) ||| if afternoon then afternoonFlag else 0
    (coding.decode (val &&& 0x1f)).toNat = n ∧ Byte.bit val 5 = afternoon := by
  have hall : ∀ n < 13, ∀ coding ∈ [binary, packed], ∀ afternoon : Bool,
      let val := coding.encode (UInt8.ofNat n) ||| if afternoon then afternoonFlag else 0
      (coding.decode (val &&& 0x1f)).toNat = n ∧ Byte.bit val 5 = afternoon := by decide
  exact hall n (Nat.lt_succ_of_le h) coding (by cases coding <;> decide) afternoon

/-! ### Values for fields -/

/-- A value for a field. -/
inductive Setting where
  /-- Seconds of the minute. -/
  | second (n : Nat)
  /-- Minutes of the hour. -/
  | minute (n : Nat)
  /-- Hours of the day. -/
  | hour (n : Nat)
  /-- Hours of the dial, with the half of the day. -/
  | dial (n : Nat) (afternoon : Bool)
  /-- Day of the month. -/
  | dayOfMonth (n : Nat)
  /-- Month of the year. -/
  | month (n : Nat)
  /-- Year of the century. -/
  | year (n : Nat)
  /-- Days since Sunday. -/
  | weekday (n : Nat)
  deriving DecidableEq, Repr

namespace Setting

/-- The field that the value is for. -/
def field : Setting → Field
  | second _ => .second
  | minute _ => .minute
  | hour _ => .hour
  | dial _ _ => .hourAmPm
  | dayOfMonth _ => .dayOfMonth
  | month _ => .month
  | year _ => .year
  | weekday _ => .weekday

/-- The byte of the value.  A weekday is written in binary in either coding. -/
def byte (s : Setting) (coding : Coding) : UInt8 :=
  match s with
  | dial n afternoon =>
    coding.encode (UInt8.ofNat n) ||| if afternoon then afternoonFlag else 0
  | weekday n => UInt8.ofNat n
  | second n | minute n | hour n | dayOfMonth n | month n | year n => coding.encode (UInt8.ofNat n)

/-- The field can have the value while the other parts are those of `c`. -/
def Fits (c : Civil) : Setting → Prop
  | second n | minute n => n < 60
  | hour n => n < 24
  | dial n _ => 1 ≤ n ∧ n ≤ 12
  | dayOfMonth n => 1 ≤ n ∧ n ≤ monthLength c.date.year c.date.month
  | month n => (1 ≤ n ∧ n ≤ 12) ∧ c.date.day ≤ monthLength c.date.year n
  | year n => n < 100 ∧ c.date.day ≤ monthLength (centuryOf c.date.year + n) c.date.month
  | weekday n => n < 7

/-- The date and time with the value in its place.  A weekday is looked for in the week from
Sunday to Saturday. -/
def put (c : Civil) : Setting → Civil
  | second n => { c with second := n }
  | minute n => { c with minute := n }
  | hour n => { c with hour := n }
  | dial n afternoon => { c with hour := n % 12 + if afternoon then 12 else 0 }
  | dayOfMonth n => { c with date := { c.date with day := n } }
  | month n => { c with date := { c.date with month := n } }
  | year n => { c with date := { c.date with year := centuryOf c.date.year + n } }
  | weekday n => { c with date := Date.ofDayNumber (c.date.dayNumber - c.weekday + n) }

variable {c : Civil} {s : Setting}

/-- A value that fits leaves a date and time that exists. -/
theorem put_proper (hc : c.Proper) (hs : s.Fits c) : (s.put c).Proper := by
  obtain ⟨⟨hmonth, hmonth', hday, hday'⟩, hhour, hminute, hsecond⟩ := id hc
  cases s with
  | second n => exact ⟨hc.date, hhour, hminute, hs⟩
  | minute n => exact ⟨hc.date, hhour, hs, hsecond⟩
  | hour n => exact ⟨hc.date, hs, hminute, hsecond⟩
  | dial n afternoon =>
    refine ⟨hc.date, ?_, hminute, hsecond⟩
    simp only [put]
    split <;> omega
  | dayOfMonth n => exact ⟨⟨hmonth, hmonth', hs.1, hs.2⟩, hhour, hminute, hsecond⟩
  | month n => exact ⟨⟨hs.1.1, hs.1.2, hday, hs.2⟩, hhour, hminute, hsecond⟩
  | year n => exact ⟨⟨hmonth, hmonth', hday, hs.2⟩, hhour, hminute, hsecond⟩
  | weekday n => exact ⟨Date.ofDayNumber_proper _, hhour, hminute, hsecond⟩

/-! ### Setting a field -/

/-- A year of the century becomes the year among the parts, whether or not the day exists in it. -/
theorem put_year (c : Civil) {n : Nat} (h : n < 100) (coding : Coding) :
    (Reckoning.ofCivil c).put c.weekday .year ((year n).byte coding).toNat coding
      = { Reckoning.ofCivil c with year := centuryOf c.date.year + n } := by
  unfold Reckoning.put
  rw [ofInt_toNat]
  simp only [byte, coding.toNat_decode_encode h, Reckoning.ofCivil, centuryOf]

/-- The parts of a date and time take a value that fits as it is; nothing carries. -/
theorem put_ofCivil (hs : s.Fits c) (hfield : s.field ≠ .weekday) (coding : Coding) :
    (Reckoning.ofCivil c).put c.weekday s.field (s.byte coding).toNat coding
      = Reckoning.ofCivil (s.put c) := by
  have hlast := monthLength_le c.date.year c.date.month
  unfold Reckoning.put
  rw [ofInt_toNat]
  cases s with
  | weekday n => exact absurd rfl hfield
  | dial n afternoon =>
    obtain ⟨hhour, hflag⟩ := coding.decode_dial hs.2 afternoon
    simp only [field, byte, hhour, hflag, put, Reckoning.ofCivil]
    split <;> rfl
  | second n | minute n | hour n | dayOfMonth n | month n | year n =>
    have hn : n < 100 := by
      simp only [Fits] at hs
      omega
    simp only [field, byte, coding.toNat_decode_encode hn, put, Reckoning.ofCivil, centuryOf]

theorem toSeconds_put_weekday (c : Civil) (n : Nat) :
    ((weekday n).put c).toSeconds = c.toSeconds + ((n : Int) - c.weekday) * daySeconds := by
  simp only [put, Civil.toSeconds, Date.dayNumber_ofDayNumber, Civil.timeOfDay, daySeconds]
  omega

/-- Setting a field to a value that fits leads to the instant with that value. -/
theorem replace_eq (hc : c.Proper) (hyear : YearInCalendar c.date.year) (hs : s.Fits c)
    (hput : YearInCalendar (s.put c).date.year) (coding : Coding) :
    s.field.replace (s.byte coding).toNat c.toSeconds coding = (s.put c).toSeconds := by
  have hbyte := (s.byte coding).toNat_lt
  have hlow : -2147483648 ≤ ((s.byte coding).toNat : Int) := by omega
  have hhigh : ((s.byte coding).toNat : Int) ≤ 2147483647 := by omega
  -- only the weekday is not written in the coding and not among the parts
  have hplain (hfield : s.field ≠ .weekday) :
      s.field.replace (s.byte coding).toNat c.toSeconds coding = (s.put c).toSeconds := by
    have hproper := put_proper hc hs
    have hin : YearInCalendar (Reckoning.ofCivil (s.put c)).carriedYear := by
      rw [Reckoning.carriedYear_ofCivil hproper]
      exact hput
    rw [Field.replace_eq_reckoned hc hyear s.field hlow hhigh, Field.reckoned,
      put_ofCivil hs hfield, if_pos hin, Reckoning.seconds_ofCivil hproper]
  cases s with
  | weekday n =>
    have hn : ((weekday n).byte coding).toNat = n :=
      UInt8.toNat_ofNat_of_lt' (Nat.lt_trans hs (by decide))
    have hmoved := Field.replace_weekday hc hyear hlow hhigh coding
    rw [hn] at hmoved
    rw [hn, toSeconds_put_weekday]
    exact hmoved
  | second | minute | hour | dial | dayOfMonth | month | year => exact hplain (by simp [field])

/-- A leap day that the new year has not becomes 1 March. -/
theorem replace_year_leapDay (hc : c.Proper) (hyear : YearInCalendar c.date.year)
    (hmonth : c.date.month = 2) (hday : c.date.day = 29) {n : Nat} (hn : n < 100)
    (hput : YearInCalendar (centuryOf c.date.year + n))
    (hleap : isLeapYear (centuryOf c.date.year + n) = false) (coding : Coding) :
    Field.year.replace ((year n).byte coding).toNat c.toSeconds coding
      = Civil.toSeconds { c with date := ⟨centuryOf c.date.year + n, 3, 1⟩ } := by
  have hbyte := ((year n).byte coding).toNat_lt
  rw [Field.replace_eq_reckoned hc hyear .year (by omega) (by omega), Field.reckoned,
    put_year c hn, Reckoning.carriedYear_withYear hc, if_pos hput]
  exact Reckoning.seconds_leapDay hc hmonth hday hleap

/-! ### Reading the field -/

/-- Where the value has been put, the field shows it. -/
theorem get_put (hc : c.Proper) (hs : s.Fits c) (hput : YearInCalendar (s.put c).date.year)
    (coding : Coding) : s.field.get (s.put c).toSeconds coding = s.byte coding := by
  unfold Field.get
  rw [Civil.shown_toSeconds (put_proper hc hs) hput]
  cases s with
  | second n | minute n | hour n | dayOfMonth n | month n => rfl
  | dial n afternoon =>
    have hdial : dialHour (n % 12 + if afternoon then 12 else 0) = n := by
      obtain ⟨hlow, hhigh⟩ := hs
      unfold dialHour
      split <;> split <;> omega
    have hhalf : (12 ≤ n % 12 + if afternoon then 12 else 0) ↔ afternoon = true := by
      have hbelow : n % 12 < 12 := Nat.mod_lt n (by decide)
      cases afternoon with
      | true => simp
      | false => simp [hbelow]
    simp only [field, byte, put, hdial, hhalf]
  | year n =>
    have hyear : (centuryOf c.date.year + n) % 100 = n := by
      have hn : n < 100 := hs.1
      unfold centuryOf
      omega
    simp only [field, byte, put, hyear]
    rw [ofInt_natCast (Nat.lt_trans hs.1 (by decide))]
  | weekday n =>
    have hweekday : ((weekday n).put c).weekday = n := by
      have hn : n < 7 := hs
      simp only [put, Civil.weekday, Date.dayNumber_ofDayNumber, weekdayOf]
      omega
    simp only [field, byte, hweekday]

/-! ### Away from the ends of the calendar -/

/-- A value that fits does not lead out of the calendar. -/
theorem put_inCalendar (hc : c.Proper) (hinner : c.Inner) (hs : s.Fits c) :
    YearInCalendar (s.put c).date.year := by
  obtain ⟨hlow, hhigh⟩ := id hinner
  cases s with
  | second | minute | hour | dial | dayOfMonth | month => exact hinner.yearInCalendar
  | year n =>
    have hn : n < 100 := hs.1
    simp only [put, YearInCalendar, firstYear, lastYear, centuryOf]
    omega
  | weekday n =>
    have hn : n < 7 := hs
    have hweekday := c.weekday_lt
    obtain ⟨hafter, hbefore⟩ := hc.within_year
    have hfirst : daysBeforeYear (-262000) ≤ daysBeforeYear c.date.year := daysBeforeYear_le hlow
    have hlast : daysBeforeYear (c.date.year + 1) ≤ daysBeforeYear 262001 :=
      daysBeforeYear_le (Int.add_le_add_right hhigh 1)
    -- a weekday may lead into the year before or after, but no week is longer than the years that
    -- are left
    have hroom : firstSecond + 7 * daySeconds ≤ (daysBeforeYear (-262000) - epochDay) * daySeconds
        ∧ (daysBeforeYear 262001 - epochDay) * daySeconds + 7 * daySeconds ≤ lastSecond := by decide
    rw [← Civil.inCalendar_toSeconds (put_proper hc hs), toSeconds_put_weekday]
    unfold InCalendar daySeconds at *
    omega

/-- A weekday is found in the week that it is looked for. -/
theorem weekOf_put_weekday (hc : c.Proper) {n : Nat} (hn : n < 7) :
    weekOf ((weekday n).put c).toSeconds = weekOf c.toSeconds := by
  have hproper : ((weekday n).put c).Proper := put_proper hc hn
  unfold weekOf
  rw [hproper.toSeconds_ediv, hc.toSeconds_ediv]
  simp only [put, Date.dayNumber_ofDayNumber, Civil.weekday, weekdayOf]
  omega

/-- **A value that fits is read back from the field that was set to it, and all other parts of the
date and time stay as they are.**  A weekday leaves the time of day and stays in the week from
Sunday to Saturday. -/
theorem get_replace (s : Setting) {t : Int} (hinner : (Civil.ofSeconds t).Inner)
    (hs : s.Fits (Civil.ofSeconds t)) (coding : Coding) :
    let u := s.field.replace (s.byte coding).toNat t coding
    s.field.get u coding = s.byte coding
      ∧ Civil.ofSeconds u = s.put (Civil.ofSeconds t)
      ∧ (s.field = .weekday → weekOf u = weekOf t) := by
  obtain ⟨c, hc, rfl⟩ : ∃ c : Civil, c.Proper ∧ c.toSeconds = t :=
    ⟨_, Civil.ofSeconds_proper t, Civil.toSeconds_ofSeconds t⟩
  rw [Civil.ofSeconds_toSeconds hc] at hinner hs ⊢
  have hput := put_inCalendar hc hinner hs
  intro u
  have hu : u = (s.put c).toSeconds := replace_eq hc hinner.yearInCalendar hs hput coding
  rw [hu]
  refine ⟨get_put hc hs hput coding, Civil.ofSeconds_toSeconds (put_proper hc hs), ?_⟩
  intro hfield
  cases s with
  | weekday n => exact weekOf_put_weekday hc hs
  | second | minute | hour | dial | dayOfMonth | month | year => simp [field] at hfield

/-- A leap day is moved to another leap year of its century, before year 0. -/
theorem get_replace_leapDay :
    let t := Civil.toSeconds ⟨⟨-4, 2, 29⟩, 23, 59, 58⟩
    (Civil.ofSeconds t).Inner ∧ (year 92).Fits (Civil.ofSeconds t)
      ∧ Field.year.get (Field.year.replace 0x92 t .packed) .packed = 0x92
      ∧ Civil.ofSeconds (Field.year.replace 0x92 t .packed) = ⟨⟨-8, 2, 29⟩, 23, 59, 58⟩ := by
  intro t
  have ht : Civil.ofSeconds t = ⟨⟨-4, 2, 29⟩, 23, 59, 58⟩ := by decide
  have hinner : (Civil.ofSeconds t).Inner := by
    rw [ht]
    decide
  have hfits : (year 92).Fits (Civil.ofSeconds t) := by
    rw [ht]
    exact ⟨by decide, by decide⟩
  obtain ⟨hread, hput, -⟩ := get_replace (year 92) hinner hfits .packed
  refine ⟨hinner, hfits, hread, hput.trans ?_⟩
  rw [ht]
  decide

end Setting

end ClockChip
