import ClockChip.Proofs.Register.Writes

/-!
# The time of day set in any order

Seconds, minutes and hours have a register each.  A byte that is valid for its register replaces one
part of the time of day and leaves the other parts and the date alone, and the byte of the hours
also chooses the mode in which hours are shown.  As no two of the three touch the same part, the
order in which they are written makes no difference.

## Main definitions

* `HourEntry`: an hour of the day or of the dial, with its byte as it is written and as it is shown.
* `TimeEntry`: a second, a minute or an hour for its register.
* `TimeEntry.enter`: date, time of day and mode after an entry.

## Main results

* `Bank.write_timeEntry`: a valid entry that is written replaces what it names.
* `Bank.writeEach_timeEntries`: so do any number of them.
* `TimeEntry.foldl_enter_perm`: a second, a minute and an hour may come in any order.
* `Bank.timeOfDay_set`: **written once each, they set the time of day and are read back.**
-/

namespace ClockChip

/-! ### Hours -/

/-- An hour in one of the two forms in which it is written. -/
inductive HourEntry where
  /-- An hour of the day. -/
  | ofDay (n : Nat)
  /-- An hour of the dial, with the half of the day. -/
  | onDial (n : Nat) (afternoon : Bool)
  deriving DecidableEq, Repr

namespace HourEntry

/-- The hour exists. -/
def Valid : HourEntry → Prop
  | ofDay n => n < 24
  | onDial n _ => 1 ≤ n ∧ n ≤ 12

/-- The hour is one of twelve. -/
def twelveHour : HourEntry → Bool
  | ofDay _ => false
  | onDial _ _ => true

/-- The hour of the day.  Twelve o'clock is the beginning of its half. -/
def hour : HourEntry → Nat
  | ofDay n => n
  | onDial n afternoon => n % 12 + if afternoon then 12 else 0

/-- The value for the field of the calendar. -/
def setting : HourEntry → Setting
  | ofDay n => .hour n
  | onDial n afternoon => .dial n afternoon

/-- The byte that is written.  The afternoon is flagged below the bit that shows it, and that bit
itself may be set or not. -/
def written (e : HourEntry) (stray : Bool) : UInt8 :=
  (if stray then 0x40 else 0) ||| match e with
    | ofDay n => PackedDecimal.ofBinary (UInt8.ofNat n)
    | onDial n afternoon =>
      0x80 ||| (if afternoon then 0x20 else 0) ||| PackedDecimal.ofBinary (UInt8.ofNat n)

/-- The byte that is shown. -/
def shown : HourEntry → UInt8
  | ofDay n => PackedDecimal.ofBinary (UInt8.ofNat n)
  | onDial n afternoon =>
    0x80 ||| (if afternoon then 0x40 else 0) ||| PackedDecimal.ofBinary (UInt8.ofNat n)

variable {e : HourEntry}

theorem unpack_written (he : e.Valid) (stray : Bool) :
    Hours.unpack (e.written stray) = (e.twelveHour, e.setting.byte .packed) := by
  have hday : ∀ n < 24, ∀ stray, Hours.unpack ((ofDay n).written stray)
      = (false, (Setting.hour n).byte .packed) := by decide +kernel
  have hdial : ∀ n < 13, ∀ afternoon stray, Hours.unpack ((onDial n afternoon).written stray)
      = (true, (Setting.dial n afternoon).byte .packed) := by decide +kernel
  cases e with
  | ofDay n => exact hday n he stray
  | onDial n afternoon => exact hdial n (Nat.lt_succ_of_le he.2) afternoon stray

theorem pack_setting (he : e.Valid) :
    Hours.pack (e.setting.byte .packed) e.twelveHour = e.shown := by
  have hdial : ∀ n < 13, ∀ afternoon, Hours.pack ((Setting.dial n afternoon).byte .packed) true
      = (onDial n afternoon).shown := by decide +kernel
  cases e with
  | ofDay n => rfl
  | onDial n afternoon => exact hdial n (Nat.lt_succ_of_le he.2) afternoon

end HourEntry

/-! ### Entries -/

/-- A part of the time of day for its register. -/
inductive TimeEntry where
  /-- Seconds of the minute. -/
  | second (n : Nat)
  /-- Minutes of the hour. -/
  | minute (n : Nat)
  /-- Hours, with the bit in their byte that means nothing when it is written. -/
  | hours (e : HourEntry) (stray : Bool)
  deriving DecidableEq, Repr

namespace TimeEntry

/-- The part exists. -/
def Valid : TimeEntry → Prop
  | second n | minute n => n < 60
  | hours e _ => e.Valid

/-- The address of the register. -/
def address : TimeEntry → Nat
  | second _ => 2
  | minute _ => 3
  | hours _ _ => 4

/-- The byte that is written. -/
def byte : TimeEntry → UInt8
  | second n | minute n => PackedDecimal.ofBinary (UInt8.ofNat n)
  | hours e stray => e.written stray

/-- The byte that is shown. -/
def shown : TimeEntry → UInt8
  | second n | minute n => PackedDecimal.ofBinary (UInt8.ofNat n)
  | hours e _ => e.shown

/-- The value for the field of the calendar. -/
def setting : TimeEntry → Setting
  | second n => .second n
  | minute n => .minute n
  | hours e _ => e.setting

/-- Whether hours are shown from 1 to 12, after the entry. -/
def mode (before : Bool) : TimeEntry → Bool
  | second _ | minute _ => before
  | hours e _ => e.twelveHour

/-- Date, time of day and mode after an entry. -/
def enter (p : Civil × Bool) (e : TimeEntry) : Civil × Bool := (e.setting.put p.1, e.mode p.2)

variable {e : TimeEntry}

theorem fits_setting (he : e.Valid) (c : Civil) : e.setting.Fits c := by
  cases e with
  | second n | minute n => exact he
  | hours h stray => cases h <;> exact he

theorem date_put (e : TimeEntry) (c : Civil) : (e.setting.put c).date = c.date := by
  cases e with
  | second n | minute n => rfl
  | hours h stray => cases h <;> rfl

theorem fieldsOf_eq (he : e.Valid) : Bank.fieldsOf e.address e.byte = [e.setting.entry] := by
  cases e with
  | second n | minute n => rfl
  | hours h stray =>
    show [(if (Hours.unpack (h.written stray)).1 then Field.hourAmPm else Field.hour,
      ((Hours.unpack (h.written stray)).2.toNat : Int))] = [h.setting.entry]
    rw [HourEntry.unpack_written he stray]
    cases h <;> rfl

theorem twelveHour_keep (he : e.Valid) (b : Bank) :
    (b.keep e.address e.byte).twelveHour = e.mode b.twelveHour := by
  cases e with
  | second n | minute n => rfl
  | hours h stray => exact congrArg Prod.fst (HourEntry.unpack_written he stray)

/-- A second, a minute and an hour come to the same in any order. -/
theorem foldl_enter_perm {es : List TimeEntry} {s m : Nat} {h : HourEntry} {stray : Bool}
    (horder : es.Perm [second s, minute m, hours h stray]) (c : Civil) (twelveHour : Bool) :
    es.foldl enter (c, twelveHour) = (⟨c.date, h.hour, m, s⟩, h.twelveHour) := by
  have hcomm : ∀ x ∈ [second s, minute m, hours h stray], ∀ y ∈ [second s, minute m, hours h stray],
      ∀ p, enter (enter p x) y = enter (enter p y) x := by
    intro x hx y hy p
    simp only [List.mem_cons, List.not_mem_nil, or_false] at hx hy
    rcases hx with rfl | rfl | rfl <;> rcases hy with rfl | rfl | rfl <;> cases h <;> rfl
  rw [← horder.symm.foldl_eq' hcomm]
  cases h <;> rfl

end TimeEntry

/-! ### The bank -/

namespace Bank

variable {v : VirtualClock} {now : Instant} {hundredths : UInt8} {c : Civil}

theorem drive_timeEntry {e : TimeEntry} (he : e.Valid) (v : VirtualClock) (clock : HostClock) :
    drive e.address e.byte v clock
      = v.set clock e.setting.field (e.setting.byte .packed).toNat .packed := by
  have hplain : Register.at? e.address ≠ some .control := by cases e <;> nofun
  rw [drive_eq_setAll hplain, TimeEntry.fieldsOf_eq he]
  rfl

/-- A valid entry that is written replaces the part of the time of day that it names. -/
theorem write_timeEntry (b : Bank) (h : v.Shows (.plain now hundredths) c) {e : TimeEntry}
    (he : e.Valid)
    (hroom : v.HasRoom (.plain now hundredths) e.setting.field (e.setting.byte .packed).toNat) :
    let after := b.write v (.plain now hundredths) e.address e.byte
    let entered := e.enter (c, b.twelveHour)
    after.2.Shows (.plain now hundredths) entered.1 ∧ after.1.twelveHour = entered.2 := by
  intro after entered
  have hin : YearInCalendar (e.setting.put c).date.year := by
    rw [TimeEntry.date_put]
    exact h.year
  refine ⟨?_, TimeEntry.twelveHour_keep he b⟩
  change (drive e.address e.byte v _).Shows _ _
  rw [drive_timeEntry he]
  exact h.set (TimeEntry.fits_setting he c) hin hroom

/-- Valid entries that are written one after the other replace what they name, in turn. -/
theorem writeEach_timeEntries (b : Bank) (h : v.Shows (.plain now hundredths) c)
    (es : List TimeEntry) (hvalid : ∀ e ∈ es, e.Valid)
    (hroom : v.Unsaturated (.plain now hundredths)
      (es.flatMap fun e => fieldsOf e.address e.byte)) :
    let after := writeEach (.plain now hundredths) (b, v) (es.map fun e => (e.address, e.byte))
    let entered := es.foldl TimeEntry.enter (c, b.twelveHour)
    after.2.Shows (.plain now hundredths) entered.1 ∧ after.1.twelveHour = entered.2 := by
  induction es generalizing b v c with
  | nil => exact ⟨h, rfl⟩
  | cons e es ih =>
    obtain ⟨he, hrest⟩ := List.forall_mem_cons.mp hvalid
    -- the byte sets one field, so the other fields are those of the bytes behind it
    rw [List.flatMap_cons, TimeEntry.fieldsOf_eq he] at hroom
    obtain ⟨hfirst, hlater⟩ := hroom
    obtain ⟨hshown, hmode⟩ := write_timeEntry b h he hfirst
    have hbehind : (b.write v (.plain now hundredths) e.address e.byte).2.Unsaturated
        (.plain now hundredths) (es.flatMap fun e => fieldsOf e.address e.byte) := by
      change (drive e.address e.byte v _).Unsaturated _ _
      rw [drive_timeEntry he]
      exact hlater
    have hall := ih (b.write v (.plain now hundredths) e.address e.byte).1 hshown hrest hbehind
    rw [hmode] at hall
    rw [List.map_cons, writeEach_cons, List.foldl_cons]
    exact hall

/-- The register shows the part of the time of day that the virtual time has. -/
theorem read_timeEntry (b : Bank) (h : v.Shows (.plain now hundredths) c) {e : TimeEntry}
    (he : e.Valid) (hput : e.setting.put c = c) (hmode : e.mode b.twelveHour = b.twelveHour) :
    (b.latch v (.plain now hundredths)).read e.address = e.shown := by
  have hbyte := h.fieldByte hput (TimeEntry.fits_setting he c)
  cases e with
  | second n | minute n => exact hbyte
  | hours e stray =>
    change Hours.pack (Field.get (if b.twelveHour then .hourAmPm else .hour) _ .packed)
      b.twelveHour = e.shown
    rw [← hmode, ← HourEntry.pack_setting he]
    cases e <;> exact congrArg (Hours.pack · _) hbyte

/-- **Seconds, minutes and hours that are written once each, in any order, set the time of day and
leave the date alone.**  The highest bit of the hours becomes the mode, and all three are read
back, the afternoon of the dial one bit above where it was written. -/
theorem timeOfDay_set (b : Bank) {v : VirtualClock} {now : Instant} {hundredths : UInt8}
    {second minute : Nat} {hour : HourEntry} {stray : Bool} {es : List TimeEntry}
    (hinner : (Civil.ofSeconds (v.now (.plain now hundredths)).toInt).Inner)
    (hsecond : second < 60) (hminute : minute < 60) (hhour : hour.Valid)
    (horder : es.Perm [.second second, .minute minute, .hours hour stray])
    (hroom : v.Unsaturated (.plain now hundredths)
      (es.flatMap fun e => fieldsOf e.address e.byte)) :
    let clock := HostClock.plain now hundredths
    let c := Civil.ofSeconds (v.now clock).toInt
    let after := writeEach clock (b, v) (es.map fun e => (e.address, e.byte))
    Civil.ofSeconds (after.2.now clock).toInt = ⟨c.date, hour.hour, minute, second⟩
      ∧ after.1.twelveHour = Byte.bit (hour.written stray) 7
      ∧ ∀ later hundredths', after.2.now (.plain later hundredths') = after.2.now clock →
        let shown := after.1.latch after.2 (.plain later hundredths')
        shown.read 2 = PackedDecimal.ofBinary (UInt8.ofNat second)
          ∧ shown.read 3 = PackedDecimal.ofBinary (UInt8.ofNat minute)
          ∧ shown.read 4 = hour.shown := by
  intro clock c after
  have hvalid : ∀ e ∈ es, e.Valid := by
    intro e he
    have hmem := horder.mem_iff.mp he
    simp only [List.mem_cons, List.not_mem_nil, or_false] at hmem
    rcases hmem with rfl | rfl | rfl
    · exact hsecond
    · exact hminute
    · exact hhour
  have hbefore := VirtualClock.shows_ofSeconds hinner.yearInCalendar
  obtain ⟨hshown, hmode⟩ := writeEach_timeEntries b hbefore es hvalid hroom
  rw [TimeEntry.foldl_enter_perm horder] at hshown hmode
  have hbit : Byte.bit (hour.written stray) 7 = hour.twelveHour :=
    congrArg Prod.fst (HourEntry.unpack_written hhour stray)
  refine ⟨hshown.ofSeconds, hmode.trans hbit.symm, fun later hundredths' hsame => ?_⟩
  -- the snapshot may be taken on any clock on which the virtual time has not moved
  have hlater : after.2.Shows (.plain later hundredths') ⟨c.date, hour.hour, minute, second⟩ := by
    refine ⟨?_, hshown.proper, hshown.year⟩
    rw [hsame]
    exact hshown.now
  refine ⟨?_, ?_, ?_⟩
  · exact read_timeEntry after.1 hlater (e := .second second) hsecond rfl rfl
  · exact read_timeEntry after.1 hlater (e := .minute minute) hminute rfl rfl
  · refine read_timeEntry after.1 hlater (e := .hours hour stray) hhour ?_ hmode.symm
    cases hour <;> rfl

/-- Half past noon, written with the hours first on the last second of a leap day. -/
theorem timeOfDay_set_hoursFirst :
    let clock := HostClock.plain 0 0
    let v := VirtualClock.running 951868799
    let b := ofStored (Vector.replicate 16 0) (List.replicate 240 0)
    let noon := HourEntry.onDial 12 true
    let es : List TimeEntry := [.hours noon true, .second 59, .minute 30]
    let after := writeEach clock (b, v) (es.map fun e => (e.address, e.byte))
    Civil.ofSeconds (v.now clock).toInt = ⟨⟨2000, 2, 29⟩, 23, 59, 59⟩
      ∧ (Civil.ofSeconds (v.now clock).toInt).Inner ∧ noon.Valid
      ∧ es.Perm [.second 59, .minute 30, .hours noon true]
      ∧ (es.map fun e => (e.address, e.byte)) = [(4, 0xf2), (2, 0x59), (3, 0x30)]
      ∧ v.Unsaturated clock (es.flatMap fun e => fieldsOf e.address e.byte)
      ∧ Civil.ofSeconds (after.2.now clock).toInt = ⟨⟨2000, 2, 29⟩, 12, 30, 59⟩
      ∧ after.1.twelveHour = true ∧ (after.1.latch after.2 clock).read 4 = 0xd2 := by
  intro clock v b noon es after
  have hbefore : Civil.ofSeconds (v.now clock).toInt = ⟨⟨2000, 2, 29⟩, 23, 59, 59⟩ := by decide
  have hinner : (Civil.ofSeconds (v.now clock).toInt).Inner := by decide
  have hnoon : noon.Valid := ⟨by decide, by decide⟩
  have horder : es.Perm [.second 59, .minute 30, .hours noon true] := by decide
  have hroom : v.Unsaturated clock (es.flatMap fun e => fieldsOf e.address e.byte) := by
    decide +kernel
  obtain ⟨hset, hmode, hread⟩ :=
    b.timeOfDay_set hinner (by decide) (by decide) hnoon horder hroom
  obtain ⟨-, -, hhours⟩ := hread 0 0 rfl
  rw [hbefore] at hset
  exact ⟨hbefore, hinner, hnoon, horder, by decide, hroom, hset, hmode.trans (by decide), hhours⟩

end Bank

end ClockChip
