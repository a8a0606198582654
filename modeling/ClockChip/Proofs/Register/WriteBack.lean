import ClockChip.Proofs.Register.Latched

/-!
# Registers that are written back

A byte is read from a time register and written back to it while the clock stands still.  Most
registers say when they are written what they said when they were read, and then the clock and the
bank are as before.  There are two exceptions.  The afternoon of the dial is read from one bit and
written to another, so that an hour of the afternoon is written back as one of the morning.  And the
two bits of the year are read from the year of the century, but written as all of it.

## Main definitions

* `Restorable`: the registers whose byte means the same when it is written as when it is read.

## Main results

* `Bank.Dated.exists_fieldsOf`: such a byte sets fields to what they are.
* `Bank.write_latched`: **writing it back changes nothing.**
* `Bank.write_latched_afternoon`: an hour of the afternoon goes half a day back.
-/

namespace ClockChip

/-- The time registers whose byte means the same when it is written as when it is read. -/
inductive Restorable (twelveHour : Bool) (c : Civil) : Nat → Prop where
  /-- The seconds. -/
  | seconds : Restorable twelveHour c 2
  /-- The minutes. -/
  | minutes : Restorable twelveHour c 3
  /-- The hours, unless the dial shows an afternoon. -/
  | hours (h : twelveHour = false ∨ c.hour < 12) : Restorable twelveHour c 4
  /-- The year and the day, in the first four years of a century. -/
  | yearDay (h : c.date.year % 100 ≤ 3) : Restorable twelveHour c 5
  /-- The weekday and the month. -/
  | weekdayMonth : Restorable twelveHour c 6

namespace Bank

variable {b : Bank} {c : Civil} {address : Nat}

/-- The hours of a snapshot set the hour that they say, as if it was in the morning. -/
theorem Dated.fieldsOf_hours (h : b.Dated c) (hc : c.Proper) :
    fieldsOf 4 (b.read 4)
      = [(if b.twelveHour then Setting.dial (dialHour c.hour) false else .hour c.hour).entry] := by
  show [(if (Hours.unpack (b.read 4)).1 then Field.hourAmPm else .hour,
    ((Hours.unpack (b.read 4)).2.toNat : Int))] = _
  rw [h.unpack_hours hc]
  cases b.twelveHour <;> rfl

/-- A byte that means the same sets fields to what they are. -/
theorem Dated.exists_fieldsOf (h : b.Dated c) (hc : c.Proper)
    (hregister : Restorable b.twelveHour c address) :
    ∃ fs : List Field, fieldsOf address (b.read address) = fs.map c.entry := by
  cases hregister with
  | seconds =>
    rw [h.seconds]
    exact ⟨[.second], rfl⟩
  | minutes =>
    rw [h.minutes]
    exact ⟨[.minute], rfl⟩
  | hours hmorning =>
    rw [h.fieldsOf_hours hc]
    cases hmode : b.twelveHour with
    | false => exact ⟨[.hour], rfl⟩
    | true =>
      have hafternoon : decide (12 ≤ c.hour) = false := by
        rw [hmode] at hmorning
        simpa using hmorning
      have hentry : c.entry .hourAmPm = (Setting.dial (dialHour c.hour) false).entry := by
        simp only [Civil.entry, Civil.setting, hafternoon, Setting.entry, Setting.field]
      exact ⟨[.hourAmPm], by rw [List.map_singleton, hentry]; rfl⟩
  | yearDay hcentury =>
    refine ⟨[.year, .dayOfMonth], ?_⟩
    have hall : ∀ n ≤ 3, (Setting.year n).byte .packed &&& 3 = (Setting.year n).byte .packed := by
      decide
    have hbits : (c.setting .year).byte .packed &&& 3 = (c.setting .year).byte .packed :=
      hall (c.date.year % 100).toNat (by omega)
    show [(Field.year, ((YearDay.unpack (b.read 5)).1.toNat : Int)),
      (Field.dayOfMonth, ((YearDay.unpack (b.read 5)).2.toNat : Int))] = _
    rw [h.unpack_yearDay hc, hbits]
    rfl
  | weekdayMonth =>
    refine ⟨[.weekday, .month], ?_⟩
    have hweekday : ((Setting.weekday c.weekday).byte .packed).toNat = c.weekday :=
      UInt8.toNat_ofNat_of_lt' (Nat.lt_trans c.weekday_lt (by decide))
    show [(Field.weekday, (WeekdayMonth.unpack (b.read 6)).1),
      (Field.month, ((WeekdayMonth.unpack (b.read 6)).2.toNat : Int))] = _
    rw [h.unpack_weekdayMonth hc]
    simp only [List.map_cons, List.map_nil, Civil.entry, Civil.setting, hweekday]

/-- The byte of a register that means the same leaves the bank as it is, the mode of the hours
included. -/
theorem Dated.keep_eq (h : b.Dated c) (hc : c.Proper)
    (hregister : Restorable b.twelveHour c address) : b.keep address (b.read address) = b := by
  cases hregister with
  | seconds | minutes | yearDay | weekdayMonth => rfl
  | hours =>
    show { b with twelveHour := (Hours.unpack (b.read 4)).1 } = b
    rw [h.unpack_hours hc]

/-- **A byte that was read from a time register changes nothing when it is written back**: neither
the virtual time nor the form that holds it, neither the mode of the hours nor any other byte.  This
holds for as long as the virtual time stands still, but not for the hours of an afternoon on the
dial, nor for the year and day behind the first four years of a century. -/
theorem write_latched (b : Bank) {v : VirtualClock} {now : Instant} {hundredths : UInt8}
    {address : Nat}
    (hyear : YearInCalendar (Civil.ofSeconds (v.now (.plain now hundredths)).toInt).date.year)
    (hregister : Restorable b.twelveHour (Civil.ofSeconds (v.now (.plain now hundredths)).toInt)
      address) :
    let latched := b.latch v (.plain now hundredths)
    ∀ later hundredths', v.now (.plain later hundredths') = v.now (.plain now hundredths) →
      latched.write v (.plain later hundredths') address (latched.read address) = (latched, v) := by
  intro latched later hundredths' hsame
  have hdated := b.latch_dated (VirtualClock.shows_ofSeconds hyear)
  have hproper := Civil.ofSeconds_proper (v.now (.plain now hundredths)).toInt
  have hlater : v.Shows (.plain later hundredths')
      (Civil.ofSeconds (v.now (.plain now hundredths)).toInt) := by
    rw [← hsame] at hyear ⊢
    exact VirtualClock.shows_ofSeconds hyear
  have hplain : Register.at? address ≠ some .control := by
    cases hregister <;> nofun
  obtain ⟨fs, hfields⟩ := hdated.exists_fieldsOf hproper hregister
  have hdrive : drive address (latched.read address) v (.plain later hundredths') = v := by
    rw [drive_eq_setAll hplain, hfields]
    exact hlater.setAll_entries fs
  exact Prod.ext (hdated.keep_eq hproper hregister) hdrive

/-- A second before noon the hours are written back on the dial. -/
theorem write_latched_beforeNoon :
    let clock := HostClock.plain 1000 0
    let c : Civil := ⟨⟨-97, 12, 31⟩, 11, 59, 59⟩
    let v := VirtualClock.running (.saturate (c.toSeconds - 1000))
    let b : Bank := ⟨.replicate 16 0, .replicate 16 0, List.replicate 240 0, true⟩
    let latched := b.latch v clock
    Civil.ofSeconds (v.now clock).toInt = c ∧ YearInCalendar c.date.year ∧ Restorable true c 4
      ∧ latched.read 4 = 0x91 ∧ latched.write v clock 4 0x91 = (latched, v) := by
  intro clock c v b latched
  have hc : Civil.ofSeconds (v.now clock).toInt = c := by decide +kernel
  have hyear : YearInCalendar c.date.year := by decide
  have hregister : Restorable true c 4 := .hours (.inr (by decide))
  have hread : latched.read 4 = 0x91 := by decide +kernel
  have hback := b.write_latched (hc.symm ▸ hyear) (hc.symm ▸ hregister) 1000 0 rfl
  rw [hread] at hback
  exact ⟨hc, hyear, hregister, hread, hback⟩

/-- An hour of the afternoon that is written back on the dial is one of the morning. -/
theorem write_latched_afternoon (b : Bank) {v : VirtualClock} {now : Instant} {hundredths : UInt8}
    {c : Civil} (h : v.Shows (.plain now hundredths) c) (hmode : b.twelveHour = true)
    (hafternoon : 12 ≤ c.hour)
    (hroom : v.HasRoom (.plain now hundredths) .hourAmPm
      ((Setting.dial (dialHour c.hour) false).byte .packed).toNat) :
    let latched := b.latch v (.plain now hundredths)
    (latched.write v (.plain now hundredths) 4 (latched.read 4)).2.Shows (.plain now hundredths)
      { c with hour := c.hour - 12 } := by
  intro latched
  have hplain : Register.at? 4 ≠ some .control := by decide
  have hfields : fieldsOf 4 (latched.read 4)
      = [(Setting.dial (dialHour c.hour) false).entry] := by
    rw [(b.latch_dated h).fieldsOf_hours h.proper]
    simp only [twelveHour_latch, hmode, if_true]
  have hfits : (Setting.dial (dialHour c.hour) false).Fits c := dialHour_bounds c.hour
  have hput : (Setting.dial (dialHour c.hour) false).put c = { c with hour := c.hour - 12 } := by
    have hlt := h.proper.hour
    have hhour : dialHour c.hour % 12 = c.hour - 12 := by
      unfold dialHour
      split <;> omega
    simp [Setting.put, hhour]
  have hset := h.setAll [.dial (dialHour c.hour) false]
    ⟨hfits, hput ▸ h.year, trivial⟩ ⟨hroom, trivial⟩
  change (drive 4 (latched.read 4) v _).Shows _ _
  rw [drive_eq_setAll hplain, hfields, ← hput]
  exact hset

end Bank

end ClockChip
