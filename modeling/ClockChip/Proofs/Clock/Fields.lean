import ClockChip.Clock.Virtual
import ClockChip.Proofs.Calendar.Range
import ClockChip.Proofs.Calendar.Setting

/-!
# Fields set on a virtual clock

A virtual clock that shows a date and time of the calendar shows, once a field has been set, the
date and time with that field replaced.  It makes no difference whether the clock stands, with the
field set in its latch, or runs, with the offset moved; except that the offset of a running clock
may have no room for the move when the host's time is at an end of the 64-bit range.

## Main definitions

* `VirtualClock.setAll`: fields set one after the other.
* `VirtualClock.Unsaturated`: the offset has room for every move on the way.
* `VirtualClock.Shows`: the virtual time is a date and time of the calendar.
* `Setting.FitInTurn`: values that fit, each beside what those before it have left.

## Main results

* `VirtualClock.toInt_now_set`: a field that is set replaces that field of the virtual time.
* `VirtualClock.Shows.set`: a value that fits is put into the date and time that is shown.
* `VirtualClock.Shows.setAll`: **and so are values that are set one after the other.**
-/

namespace ClockChip

namespace VirtualClock

/-- The offset of a running clock has room for what replacing a field adds to it.  Nothing is added
on a halted clock, and all other sums are too small to stop as long as the calendar is not left. -/
def HasRoom (v : VirtualClock) (clock : HostClock) (f : Field) (value : Int) : Prop :=
  v.isHalted = false → FitsInstant
    (v.offset.toInt + (f.replace value (v.now clock).toInt .packed - (v.now clock).toInt))

instance (v : VirtualClock) (clock : HostClock) (f : Field) (value : Int) :
    Decidable (v.HasRoom clock f value) := inferInstanceAs (Decidable (_ → _))

/-- Fields set one after the other to packed numbers, while the host's clock stands still. -/
def setAll (v : VirtualClock) (clock : HostClock) (fs : List (Field × Int)) : VirtualClock :=
  fs.foldl (fun v f => v.set clock f.1 f.2 .packed) v

/-- No sum stops at an end of the 64-bit range while the fields are set. -/
def Unsaturated (v : VirtualClock) (clock : HostClock) : List (Field × Int) → Prop
  | [] => True
  | f :: fs => v.HasRoom clock f.1 f.2 ∧ (v.set clock f.1 f.2 .packed).Unsaturated clock fs

instance decidableUnsaturated (clock : HostClock) :
    ∀ (v : VirtualClock) (fs : List (Field × Int)), Decidable (v.Unsaturated clock fs)
  | _, [] => .isTrue trivial
  | v, f :: fs =>
    have := decidableUnsaturated clock (v.set clock f.1 f.2 .packed) fs
    inferInstanceAs (Decidable (_ ∧ _))

@[simp] theorem setAll_nil (v : VirtualClock) (clock : HostClock) : v.setAll clock [] = v := rfl

@[simp] theorem setAll_cons (v : VirtualClock) (clock : HostClock) (f : Field × Int)
    (fs : List (Field × Int)) :
    v.setAll clock (f :: fs) = (v.set clock f.1 f.2 .packed).setAll clock fs := rfl

/-! ### One field -/

variable {v : VirtualClock} {now : Instant} {hundredths : UInt8}

/-- Host time and an offset that is moved come to the time that the move leads to: the sums with
the host's time do not stop, as they end up in the calendar, and the offset has room. -/
theorem clamp_moved {host offset t u : Int} (ht : t = clamp (host + offset))
    (hbefore : InCalendar t) (hafter : InCalendar u) (hroom : FitsInstant (offset + (u - t))) :
    clamp (host + clamp (offset + clamp (u - t))) = u := by
  obtain ⟨hlow, hhigh⟩ := hbefore.bounds
  obtain ⟨hlow', hhigh'⟩ := hafter.bounds
  unfold FitsInstant clamp leastInstant greatestInstant at *
  omega

/-- A field that is set replaces that field of the virtual time, in both forms. -/
theorem toInt_now_set {f : Field} {value : Int}
    (hbefore : InCalendar (v.now (.plain now hundredths)).toInt)
    (hafter : InCalendar (f.replace value (v.now (.plain now hundredths)).toInt .packed))
    (hroom : v.HasRoom (.plain now hundredths) f value) :
    ((v.set (.plain now hundredths) f value .packed).now (.plain now hundredths)).toInt
      = f.replace value (v.now (.plain now hundredths)).toInt .packed := by
  obtain ⟨offset, mode⟩ := v
  cases mode with
  | halted latch => exact HostClock.toInt_replaceIn f value latch .packed
  | running =>
    change (now.plus (HostClock.moveOffset now f value offset .packed)).toInt = _
    rw [Instant.toInt_plus, HostClock.toInt_moveOffset]
    exact clamp_moved (Instant.toInt_plus now offset) hbefore hafter (hroom rfl)

/-! ### Date and time -/

/-- The virtual time is a date and time of the calendar. -/
structure Shows (v : VirtualClock) (clock : HostClock) (c : Civil) : Prop where
  now : (v.now clock).toInt = c.toSeconds
  proper : c.Proper
  year : YearInCalendar c.date.year

variable {c : Civil}

theorem Shows.inCalendar {clock : HostClock} (h : v.Shows clock c) :
    InCalendar (v.now clock).toInt := by
  rw [h.now]
  exact (Civil.inCalendar_toSeconds h.proper).mpr h.year

theorem Shows.ofSeconds {clock : HostClock} (h : v.Shows clock c) :
    Civil.ofSeconds (v.now clock).toInt = c := by
  rw [h.now, Civil.ofSeconds_toSeconds h.proper]

theorem shows_ofSeconds {clock : HostClock}
    (h : YearInCalendar (Civil.ofSeconds (v.now clock).toInt).date.year) :
    v.Shows clock (Civil.ofSeconds (v.now clock).toInt) :=
  ⟨(Civil.toSeconds_ofSeconds _).symm, Civil.ofSeconds_proper _, h⟩

/-- The virtual time goes where replacing the field leads, if that is in the calendar. -/
theorem Shows.set_of_replace {f : Field} {value : Int} {d : Civil}
    (h : v.Shows (.plain now hundredths) c) (hd : d.Proper) (hyear : YearInCalendar d.date.year)
    (hreplace : f.replace value c.toSeconds .packed = d.toSeconds)
    (hroom : v.HasRoom (.plain now hundredths) f value) :
    (v.set (.plain now hundredths) f value .packed).Shows (.plain now hundredths) d := by
  rw [← h.now] at hreplace
  refine ⟨?_, hd, hyear⟩
  rw [← hreplace]
  refine toInt_now_set h.inCalendar ?_ hroom
  rw [hreplace]
  exact (Civil.inCalendar_toSeconds hd).mpr hyear

/-- A value that fits is put into the date and time that is shown. -/
theorem Shows.set {s : Setting} (h : v.Shows (.plain now hundredths) c) (hs : s.Fits c)
    (hput : YearInCalendar (s.put c).date.year)
    (hroom : v.HasRoom (.plain now hundredths) s.field (s.byte .packed).toNat) :
    (v.set (.plain now hundredths) s.field (s.byte .packed).toNat .packed).Shows
      (.plain now hundredths) (s.put c) :=
  h.set_of_replace (Setting.put_proper h.proper hs) hput
    (Setting.replace_eq h.proper h.year hs hput .packed) hroom

/-- The clock shows each field of the date and time as the calendar does. -/
theorem Shows.fieldByte {s : Setting} {clock : HostClock} (h : v.Shows clock c)
    (hs : s.put c = c) (hfits : s.Fits c) :
    s.field.get (v.now clock).toInt .packed = s.byte .packed := by
  rw [h.now]
  have hget := Setting.get_put h.proper hfits (by rw [hs]; exact h.year) .packed
  rwa [hs] at hget

end VirtualClock

/-! ### Values one after the other -/

namespace Setting

/-- The field and the number that is written to it. -/
def entry (s : Setting) : Field × Int := (s.field, (s.byte .packed).toNat)

/-- The date and time with values put into it one after the other. -/
def putAll (c : Civil) (ss : List Setting) : Civil := ss.foldl put c

/-- Each value fits beside what those before it have left, in the calendar. -/
def FitInTurn (c : Civil) : List Setting → Prop
  | [] => True
  | s :: ss => s.Fits c ∧ YearInCalendar (s.put c).date.year ∧ FitInTurn (s.put c) ss

end Setting

/-- Values that fit are put into the date and time that is shown, one after the other. -/
theorem VirtualClock.Shows.setAll {v : VirtualClock} {now : Instant} {hundredths : UInt8}
    {c : Civil} (h : v.Shows (.plain now hundredths) c) (ss : List Setting)
    (hfit : Setting.FitInTurn c ss)
    (hroom : v.Unsaturated (.plain now hundredths) (ss.map Setting.entry)) :
    (v.setAll (.plain now hundredths) (ss.map Setting.entry)).Shows (.plain now hundredths)
      (Setting.putAll c ss) := by
  induction ss generalizing v c with
  | nil => exact h
  | cons s ss ih =>
    obtain ⟨hs, hput, hrest⟩ := hfit
    obtain ⟨hfirst, hlater⟩ := hroom
    rw [List.map_cons, VirtualClock.setAll_cons]
    exact ih (h.set hs hput hfirst) hrest hlater

end ClockChip
