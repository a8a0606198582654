import ClockChip.Clock.Virtual
import ClockChip.Proofs.Calendar.Range

/-!
# A virtual clock is a stopwatch

A virtual clock keeps its time in one of two forms and changes from one to the other when it is
halted and resumed.  Seen from outside it is a stopwatch: it stands or runs along with the host's
clock, halting and resuming do not move it, and setting a field moves it in the same way whether it
stands or runs.

The stopwatch counts seconds without a bound, the virtual clock in 64 bits with sums that stop at
the ends.  They agree as long as host time and virtual time stay within `2 ^ 60` seconds of the
epoch.  Behind this is a bound on the offset, also on the stale one that a halted clock keeps: the
sums made with it then stop nowhere.

## Main definitions

* `Handling`: what can be done to a virtual clock and to a host clock that is set by hand.
* `Stopwatch`, `Stopwatch.handle`, `Stopwatch.run`: the stopwatch.
* `Timepiece`, `Timepiece.handle`, `Timepiece.run`: a virtual clock and the host's.
* `Timepiece.shown`: the stopwatch that a timepiece is.
* `Timepiece.StaysNear`: host time and virtual time stay within bounds.

## Main results

* `Timepiece.handle_follows`: one handling is one handling of the stopwatch and keeps the bound on
  the offset.
* `Timepiece.shown_run`: the same for a list of them.
* `Timepiece.shown_eq_stopwatch`: **from its start on a timepiece shows what a stopwatch shows**; it
  never jumps when it is resumed, keeps its first latch, and takes fields alike in both forms.
-/

namespace ClockChip

/-- What is done to a virtual clock, and how the host's clock moves. -/
inductive Handling where
  /-- The virtual clock is frozen. -/
  | halt
  /-- The virtual clock goes on. -/
  | resume
  /-- The virtual clock is frozen or goes on. -/
  | haltIf (stop : Bool)
  /-- A field of the virtual clock is set. -/
  | set (f : Field) (value : Int) (coding : Coding)
  /-- The host's clock moves by some seconds, forward or backward. -/
  | advance (seconds : Instant)
  /-- The host's clock is set. -/
  | setTime (now : Instant)
  deriving DecidableEq, Repr

namespace Handling

/-- A field is set. -/
def isSet : Handling → Bool
  | set .. => true
  | _ => false

/-- A frozen clock stays as it is: it is halted again, or only the host's clock moves. -/
def keepsHalt : Handling → Bool
  | halt | haltIf true | advance _ | setTime _ => true
  | _ => false

end Handling

/-! ### The stopwatch -/

/-- A time is near the epoch if it is within this many seconds of it, `2 ^ 60`. -/
def nearBound : Int := 1152921504606846976

/-- A stopwatch and the host time beside it, in seconds without a bound. -/
structure Stopwatch where
  /-- The host time. -/
  host : Int
  /-- The time on the stopwatch. -/
  time : Int
  /-- The stopwatch stands. -/
  halted : Bool
  deriving DecidableEq, Repr

namespace Stopwatch

/-- Some seconds pass on the host; only a stopwatch that runs goes along. -/
def pass (w : Stopwatch) (seconds : Int) : Stopwatch :=
  ⟨w.host + seconds, if w.halted then w.time else w.time + seconds, w.halted⟩

/-- A handling of the stopwatch. -/
def handle (w : Stopwatch) : Handling → Stopwatch
  | .halt => { w with halted := true }
  | .resume => { w with halted := false }
  | .haltIf stop => { w with halted := stop }
  | .set f value coding => { w with time := f.replace value w.time coding }
  | .advance seconds => w.pass seconds.toInt
  | .setTime now => w.pass (now.toInt - w.host)

/-- A list of handlings, in order. -/
def run (w : Stopwatch) (hs : List Handling) : Stopwatch := hs.foldl handle w

/-- Host time and time are near the epoch. -/
def Near (w : Stopwatch) : Prop :=
  (-nearBound ≤ w.host ∧ w.host ≤ nearBound) ∧ (-nearBound ≤ w.time ∧ w.time ≤ nearBound)

instance (w : Stopwatch) : Decidable w.Near := inferInstanceAs (Decidable (_ ∧ _))

theorem near_iff {host time : Int} {halted : Bool} : (Stopwatch.mk host time halted).Near
    ↔ (-nearBound ≤ host ∧ host ≤ nearBound) ∧ -nearBound ≤ time ∧ time ≤ nearBound := Iff.rfl

@[simp] theorem run_nil (w : Stopwatch) : w.run [] = w := rfl

@[simp] theorem run_cons (w : Stopwatch) (h : Handling) (hs : List Handling) :
    w.run (h :: hs) = (w.handle h).run hs := rfl

/-- Fields that are set lead from the same time to the same time, whether the stopwatch runs or
stands. -/
theorem time_run_of_isSet {w u : Stopwatch} (htime : w.time = u.time) {hs : List Handling}
    (hset : ∀ h ∈ hs, h.isSet = true) : (w.run hs).time = (u.run hs).time := by
  induction hs generalizing w u with
  | nil => exact htime
  | cons h hs ih =>
    obtain ⟨hfirst, hrest⟩ := List.forall_mem_cons.mp hset
    cases h with
    | set f value coding =>
      refine ih ?_ hrest
      simp only [handle, htime]
    | halt | resume | haltIf | advance | setTime => exact absurd hfirst Bool.false_ne_true

end Stopwatch

/-! ### Sums that do not stop -/

theorem clamp_of_small {x : Int} (hl : -(4 * nearBound) ≤ x) (hg : x ≤ 4 * nearBound) :
    clamp x = x := by
  unfold nearBound at hl hg
  exact clamp_of_mem (by unfold leastInstant; omega) (by unfold greatestInstant; omega)

/-- A sum that comes out near the epoch did not stop. -/
theorem eq_of_clamp_near {x : Int} (hl : -nearBound ≤ clamp x) (hg : clamp x ≤ nearBound) :
    clamp x = x := by
  unfold clamp leastInstant greatestInstant nearBound at *
  omega

/-- A host clock that is moved does not wrap around if it is near before and behind. -/
theorem toInt_add_of_near {a b : Instant} (ha : -nearBound ≤ a.toInt ∧ a.toInt ≤ nearBound)
    (hsum : -nearBound ≤ (a + b).toInt ∧ (a + b).toInt ≤ nearBound) :
    (a + b).toInt = a.toInt + b.toInt := by
  have hlow := Int64.le_toInt b
  have hhigh := Int64.toInt_lt b
  rw [Int64.toInt_add, Int.bmod_def] at hsum ⊢
  unfold nearBound at ha hsum
  omega

/-! ### Timepieces -/

/-- A virtual clock and the host's clock that it looks at. -/
structure Timepiece where
  /-- The virtual clock. -/
  virtual : VirtualClock
  /-- The host's clock. -/
  source : ClockSource

namespace Timepiece

/-- A handling of the virtual clock or of the host's. -/
def handle (x : Timepiece) : Handling → Timepiece
  | .halt => { x with virtual := x.virtual.halt x.source.host }
  | .resume => { x with virtual := x.virtual.resume x.source.host }
  | .haltIf stop => { x with virtual := x.virtual.haltIf stop x.source.host }
  | .set f value coding => { x with virtual := x.virtual.set x.source.host f value coding }
  | .advance seconds => { x with source := x.source.advance seconds }
  | .setTime now => { x with source := x.source.setTime now }

/-- A list of handlings, in order. -/
def run (x : Timepiece) (hs : List Handling) : Timepiece := hs.foldl handle x

/-- A virtual clock that runs at an offset from a host clock that is set by hand. -/
def started (offset now : Instant) (hundredths : UInt8) : Timepiece :=
  ⟨.running offset, .manual now hundredths⟩

/-- Host time, virtual time and whether the virtual clock stands. -/
def shown (x : Timepiece) : Stopwatch :=
  ⟨x.source.host.now.toInt, (x.virtual.now x.source.host).toInt, x.virtual.isHalted⟩

/-- Along the handlings host time and virtual time stay near the epoch. -/
def StaysNear (x : Timepiece) (hs : List Handling) : Prop :=
  ∀ n < hs.length + 1, (x.run (hs.take n)).shown.Near

instance (x : Timepiece) (hs : List Handling) : Decidable (x.StaysNear hs) :=
  inferInstanceAs (Decidable (∀ n < hs.length + 1, _))

/-- The host's clock is set by hand, and sums with the offset do not stop. -/
structure Settled (x : Timepiece) : Prop where
  manual : ∃ now hundredths, x.source = .manual now hundredths
  offset : -(2 * nearBound) ≤ x.virtual.offset.toInt ∧ x.virtual.offset.toInt ≤ 2 * nearBound

@[simp] theorem run_nil (x : Timepiece) : x.run [] = x := rfl

@[simp] theorem run_cons (x : Timepiece) (h : Handling) (hs : List Handling) :
    x.run (h :: hs) = (x.handle h).run hs := rfl

variable {offset latch now : Instant} {hundredths : UInt8}

theorem shown_running : shown ⟨.running offset, .manual now hundredths⟩
    = ⟨now.toInt, clamp (now.toInt + offset.toInt), false⟩ := by
  have hnow : ((VirtualClock.running offset).now (.plain now hundredths)).toInt
      = clamp (now.toInt + offset.toInt) := Instant.toInt_plus now offset
  rw [← hnow]
  rfl

theorem shown_halted : shown ⟨⟨offset, .halted latch⟩, .manual now hundredths⟩
    = ⟨now.toInt, latch.toInt, true⟩ := rfl

/-- A running clock that shows a time near the epoch shows the sum itself. -/
theorem shown_running_of_near (hnear : (shown ⟨.running offset, .manual now hundredths⟩).Near) :
    shown ⟨.running offset, .manual now hundredths⟩
      = ⟨now.toInt, now.toInt + offset.toInt, false⟩ := by
  rw [shown_running, Stopwatch.near_iff] at hnear
  rw [shown_running, eq_of_clamp_near hnear.2.1 hnear.2.2]

theorem run_append (x : Timepiece) (hs gs : List Handling) :
    x.run (hs ++ gs) = (x.run hs).run gs := List.foldl_append

/-! ### One handling -/

/-- A handling keeps a timepiece settled and is that handling of the stopwatch. -/
structure Follows (x : Timepiece) (h : Handling) : Prop where
  settled : (x.handle h).Settled
  shown : (x.handle h).shown = x.shown.handle h

/-- Near the epoch the offset of a running clock is bounded by itself. -/
theorem settled_running (hnear : (shown ⟨.running offset, .manual now hundredths⟩).Near) :
    Settled ⟨.running offset, .manual now hundredths⟩ := by
  rw [shown_running_of_near hnear, Stopwatch.near_iff] at hnear
  refine ⟨⟨now, hundredths, rfl⟩, ?_⟩
  rw [VirtualClock.offset_running]
  omega

/-- A settled timepiece is a running clock or a halted one, in front of a clock set by hand. -/
theorem Settled.cases {x : Timepiece} (hx : x.Settled) :
    ∃ offset now hundredths, (-(2 * nearBound) ≤ offset.toInt ∧ offset.toInt ≤ 2 * nearBound)
      ∧ (x = ⟨.running offset, .manual now hundredths⟩
        ∨ ∃ latch, x = ⟨⟨offset, .halted latch⟩, .manual now hundredths⟩) := by
  obtain ⟨⟨offset, mode⟩, source⟩ := x
  obtain ⟨⟨now, hundredths, rfl⟩, hoffset⟩ := hx
  refine ⟨offset, now, hundredths, hoffset, ?_⟩
  cases mode with
  | running => exact .inl rfl
  | halted latch => exact .inr ⟨latch, rfl⟩

theorem halt_follows {x : Timepiece} (hx : x.Settled) : Follows x .halt := by
  have hkept : (x.virtual.halt x.source.host).offset = x.virtual.offset := by
    cases hmode : x.virtual.mode <;> simp [VirtualClock.halt, hmode]
  refine ⟨⟨hx.manual, ?_⟩, ?_⟩
  · rw [handle, hkept]
    exact hx.offset
  · simp only [handle, Timepiece.shown, Stopwatch.handle, VirtualClock.now_halt,
      VirtualClock.isHalted_halt]

/-- The offset at which a clock goes on from its latch. -/
def resumed (offset latch now : Instant) (hundredths : UInt8) : Instant :=
  (VirtualClock.resume ⟨offset, .halted latch⟩ (.plain now hundredths)).offset

/-- It leads from host time to the latch, however stale the offset is that was kept. -/
theorem toInt_resumed (hoffset : -(2 * nearBound) ≤ offset.toInt ∧ offset.toInt ≤ 2 * nearBound)
    (hlatch : -nearBound ≤ latch.toInt ∧ latch.toInt ≤ nearBound)
    (hnow : -nearBound ≤ now.toInt ∧ now.toInt ≤ nearBound) :
    (resumed offset latch now hundredths).toInt = latch.toInt - now.toInt := by
  have hzero : (now.plus 0).toInt = now.toInt := by
    rw [Instant.toInt_plus, Int64.toInt_zero, Int.add_zero]
    exact clamp_of_small (by omega) (by omega)
  have hstale : (latch.minus offset).toInt = latch.toInt - offset.toInt := by
    rw [Instant.toInt_minus]
    exact clamp_of_small (by omega) (by omega)
  have helapsed : ((now.plus 0).minus (latch.minus offset)).toInt
      = now.toInt - (latch.toInt - offset.toInt) := by
    rw [Instant.toInt_minus, hzero, hstale]
    exact clamp_of_small (by omega) (by omega)
  -- the stale offset stands on both sides of the last difference and cancels
  show (offset.minus ((now.plus 0).minus (latch.minus offset))).toInt = _
  rw [Instant.toInt_minus, helapsed, clamp_of_small (by omega) (by omega)]
  omega

theorem resume_follows {x : Timepiece} (hx : x.Settled) (hnear : x.shown.Near) :
    Follows x .resume := by
  obtain ⟨offset, now, hundredths, hoffset, rfl | ⟨latch, rfl⟩⟩ := hx.cases
  · exact ⟨hx, rfl⟩
  · rw [shown_halted, Stopwatch.near_iff] at hnear
    obtain ⟨hnow, hlatch⟩ := hnear
    have hresume : (Timepiece.mk ⟨offset, .halted latch⟩ (.manual now hundredths)).handle .resume
        = ⟨.running (resumed offset latch now hundredths), .manual now hundredths⟩ := rfl
    have hshown : ((Timepiece.mk ⟨offset, .halted latch⟩ (.manual now hundredths)).handle
        .resume).shown = ⟨now.toInt, latch.toInt, false⟩ := by
      have hsum : now.toInt + (latch.toInt - now.toInt) = latch.toInt := by omega
      rw [hresume, shown_running, toInt_resumed hoffset hlatch hnow, hsum,
        clamp_of_small (by omega) (by omega)]
    refine ⟨?_, hshown⟩
    rw [hresume] at hshown ⊢
    refine settled_running ?_
    rw [hshown, Stopwatch.near_iff]
    exact ⟨hnow, hlatch⟩

/-- A field set while the clock runs moves the offset by what the field moves the time. -/
theorem toInt_moveOffset {f : Field} {value : Int} {coding : Coding}
    (hbefore : (HostClock.latchAt now offset).toInt = now.toInt + offset.toInt)
    (hoffset : -(2 * nearBound) ≤ offset.toInt ∧ offset.toInt ≤ 2 * nearBound)
    (hmoved : -(2 * nearBound) ≤ (HostClock.moveOffset now f value offset coding).toInt
      ∧ (HostClock.moveOffset now f value offset coding).toInt ≤ 2 * nearBound) :
    now.toInt + (HostClock.moveOffset now f value offset coding).toInt
      = f.replace value (HostClock.latchAt now offset).toInt coding := by
  have hsum := HostClock.toInt_moveOffset now f value offset coding
  -- the two ends of the range are so far apart that neither sum can have stopped
  rw [hsum] at hmoved ⊢
  unfold clamp leastInstant greatestInstant nearBound at *
  omega

/-- Setting a field takes the time to the time with that field replaced, in both forms. -/
theorem set_follows {x : Timepiece} (hx : x.Settled) (hnear : x.shown.Near) {f : Field}
    {value : Int} {coding : Coding} (hnext : (x.handle (.set f value coding)).shown.Near) :
    Follows x (.set f value coding) := by
  obtain ⟨offset, now, hundredths, hoffset, rfl | ⟨latch, rfl⟩⟩ := hx.cases
  · have hset : (Timepiece.mk (.running offset) (.manual now hundredths)).handle
        (.set f value coding)
        = ⟨.running (HostClock.moveOffset now f value offset coding), .manual now hundredths⟩ :=
      rfl
    rw [hset] at hnext
    have hsettled := settled_running hnext
    refine ⟨hsettled, ?_⟩
    have hbefore := shown_running_of_near hnear
    have htime : (HostClock.latchAt now offset).toInt = now.toInt + offset.toInt :=
      congrArg Stopwatch.time hbefore
    rw [hset, shown_running_of_near hnext, hbefore, Stopwatch.handle,
      toInt_moveOffset htime hoffset hsettled.offset, htime]
  · refine ⟨⟨⟨now, hundredths, rfl⟩, hoffset⟩, ?_⟩
    have hlatch : (HostClock.replaceIn f value latch coding).toInt
        = f.replace value latch.toInt coding := HostClock.toInt_replaceIn f value latch coding
    rw [shown_halted, Stopwatch.handle, ← hlatch]
    rfl

/-- When the host's clock moves, a running clock moves by as much and a halted one stands. -/
theorem shown_moved {x : Timepiece} (hx : x.Settled) (hnear : x.shown.Near) (later : Instant)
    (hundredths : UInt8)
    (hnext : (Timepiece.mk x.virtual (.manual later hundredths)).shown.Near) :
    (Timepiece.mk x.virtual (.manual later hundredths)).shown
      = x.shown.pass (later.toInt - x.source.host.now.toInt) := by
  obtain ⟨offset, now, before, hoffset, rfl | ⟨latch, rfl⟩⟩ := hx.cases
  · rw [shown_running_of_near hnext, shown_running_of_near hnear, Stopwatch.pass]
    simp only [ClockSource.host, HostClock.plain, Bool.false_eq_true, if_false]
    congr 1 <;> omega
  · rw [shown_halted, shown_halted, Stopwatch.pass]
    simp only [ClockSource.host, HostClock.plain, if_true]
    congr 1
    omega

/-- **One handling of a timepiece near the epoch is one handling of the stopwatch**, and sums with
the offset do not stop behind it either. -/
theorem handle_follows {x : Timepiece} {h : Handling} (hx : x.Settled) (hnear : x.shown.Near)
    (hnext : (x.handle h).shown.Near) : Follows x h := by
  cases h with
  | halt => exact halt_follows hx
  | resume => exact resume_follows hx hnear
  | haltIf stop =>
    cases stop with
    | true =>
      obtain ⟨hsettled, hshown⟩ := halt_follows hx
      exact ⟨hsettled, hshown⟩
    | false =>
      obtain ⟨hsettled, hshown⟩ := resume_follows hx hnear
      exact ⟨hsettled, hshown⟩
  | set f value coding => exact set_follows hx hnear hnext
  | advance seconds =>
    obtain ⟨virtual, source⟩ := x
    obtain ⟨now, hundredths, rfl⟩ := hx.manual
    have hsum : (now + seconds).toInt = now.toInt + seconds.toInt :=
      toInt_add_of_near hnear.1 hnext.1
    have hmoved := shown_moved hx hnear (now + seconds) hundredths hnext
    refine ⟨⟨⟨_, _, rfl⟩, hx.offset⟩, hmoved.trans ?_⟩
    show _ = Stopwatch.pass _ seconds.toInt
    congr 1
    show (now + seconds).toInt - now.toInt = seconds.toInt
    omega
  | setTime now =>
    obtain ⟨virtual, source⟩ := x
    obtain ⟨before, hundredths, rfl⟩ := hx.manual
    exact ⟨⟨⟨_, _, rfl⟩, hx.offset⟩, shown_moved hx hnear now hundredths hnext⟩

/-! ### Many handlings -/

theorem staysNear_cons {x : Timepiece} {h : Handling} {hs : List Handling} :
    x.StaysNear (h :: hs) ↔ x.shown.Near ∧ (x.handle h).StaysNear hs := by
  constructor
  · intro hnear
    exact ⟨hnear 0 (by omega), fun n hn => hnear (n + 1) (by simp only [List.length_cons]; omega)⟩
  · rintro ⟨hfirst, hrest⟩ (_ | n) hn
    · exact hfirst
    · exact hrest n (by simp only [List.length_cons] at hn; omega)

theorem StaysNear.shown_near {x : Timepiece} {hs : List Handling} (h : x.StaysNear hs) :
    x.shown.Near := h 0 (by omega)

/-- **A timepiece that stays near the epoch goes along with the stopwatch that it shows first.** -/
theorem shown_run {x : Timepiece} (hx : x.Settled) {hs : List Handling} (hnear : x.StaysNear hs) :
    (x.run hs).Settled ∧ (x.run hs).shown = x.shown.run hs := by
  induction hs generalizing x with
  | nil => exact ⟨hx, rfl⟩
  | cons h hs ih =>
    obtain ⟨hfirst, hrest⟩ := staysNear_cons.mp hnear
    obtain ⟨hsettled, hshown⟩ := handle_follows hx hfirst hrest.shown_near
    rw [run_cons, Stopwatch.run_cons, ← hshown]
    exact ih hsettled hrest

/-- Fields that are set on a halted clock replace the fields of its latch, however far away. -/
theorem shown_run_of_halted {hs : List Handling} (hset : ∀ h ∈ hs, h.isSet = true) :
    (run ⟨⟨offset, .halted latch⟩, .manual now hundredths⟩ hs).shown
      = Stopwatch.run ⟨now.toInt, latch.toInt, true⟩ hs := by
  induction hs generalizing latch with
  | nil => rfl
  | cons h hs ih =>
    obtain ⟨hfirst, hrest⟩ := List.forall_mem_cons.mp hset
    cases h with
    | set f value coding =>
      rw [run_cons, Stopwatch.run_cons, Stopwatch.handle, ← HostClock.toInt_replaceIn]
      exact ih hrest
    | halt | resume | haltIf | advance | setTime => exact absurd hfirst Bool.false_ne_true

/-- The same fields set on a clock that runs and on the same clock halted lead to the same time. -/
theorem time_run_halt {x : Timepiece} (hx : x.Settled) {hs : List Handling}
    (hnear : x.StaysNear hs) (hset : ∀ h ∈ hs, h.isSet = true) :
    ((x.handle .halt).run hs).shown.time = (x.run hs).shown.time := by
  have hhalt := halt_follows hx
  obtain ⟨offset, now, hundredths, -, hrunning | ⟨latch, hhalted⟩⟩ := hhalt.settled.cases
  · have hstands : (x.handle .halt).shown.halted = true := by rw [hhalt.shown]; rfl
    rw [hrunning] at hstands
    exact absurd hstands Bool.false_ne_true
  · have hstart : (x.handle .halt).shown = ⟨now.toInt, latch.toInt, true⟩ := by
      rw [hhalted, shown_halted]
    have htime : (Stopwatch.mk now.toInt latch.toInt true).time = x.shown.time := by
      rw [← hstart, hhalt.shown]
      rfl
    rw [hhalted, shown_run_of_halted hset, (shown_run hx hnear).2]
    exact Stopwatch.time_run_of_isSet htime hset

theorem virtual_handle_of_keepsHalt {x : Timepiece} (hx : x.virtual.isHalted = true)
    {h : Handling} (hkeeps : h.keepsHalt = true) : (x.handle h).virtual = x.virtual := by
  obtain ⟨⟨offset, mode⟩, source⟩ := x
  cases mode with
  | running => exact absurd hx Bool.false_ne_true
  | halted latch =>
    cases h with
    | halt | advance | setTime => rfl
    | haltIf stop =>
      cases stop with
      | true => rfl
      | false => exact absurd hkeeps Bool.false_ne_true
    | resume | set => exact absurd hkeeps Bool.false_ne_true

/-- A halted clock that is halted again keeps its first latch, whatever the host's clock does. -/
theorem virtual_run_of_keepsHalt {x : Timepiece} (hx : x.virtual.isHalted = true)
    {hs : List Handling} (hkeeps : ∀ h ∈ hs, h.keepsHalt = true) :
    (x.run hs).virtual = x.virtual := by
  induction hs generalizing x with
  | nil => rfl
  | cons h hs ih =>
    obtain ⟨hfirst, hrest⟩ := List.forall_mem_cons.mp hkeeps
    have hkept : (x.handle h).virtual = x.virtual := virtual_handle_of_keepsHalt hx hfirst
    rw [run_cons, ih (by rw [hkept]; exact hx) hrest, hkept]

theorem StaysNear.take {x : Timepiece} {hs : List Handling} (h : x.StaysNear hs) (n : Nat) :
    x.StaysNear (hs.take n) := by
  intro m hm
  rw [List.take_take]
  refine h (min m n) ?_
  simp only [List.length_take] at hm
  omega

theorem StaysNear.behind {x : Timepiece} {gs hs : List Handling} (h : x.StaysNear (gs ++ hs)) :
    (x.run gs).StaysNear hs := by
  intro n hn
  have hlater := h (gs.length + n) (by simp only [List.length_append]; omega)
  rwa [List.take_length_add_append, run_append] at hlater

/-- **From its start on a timepiece shows what a stopwatch shows**, behind each of the handlings, as
long as host time and virtual time stay near the epoch.  So a clock that is resumed goes on from the
time at which it stood; one that is halted keeps its first latch until it is resumed or set; and
fields lead to the same time whether they are set on the running clock or on the same clock halted
before. -/
theorem shown_eq_stopwatch (offset now : Instant) (hundredths : UInt8) (hs : List Handling)
    (hnear : (started offset now hundredths).StaysNear hs) :
    let x := started offset now hundredths
    (∀ n, (x.run (hs.take n)).shown
        = Stopwatch.run ⟨now.toInt, now.toInt + offset.toInt, false⟩ (hs.take n))
      ∧ ((x.run hs).handle .resume).shown.time = (x.run hs).shown.time
      ∧ (∀ ms, (∀ m ∈ ms, m.keepsHalt = true) →
          (((x.run hs).handle .halt).run ms).virtual = ((x.run hs).handle .halt).virtual)
      ∧ ∀ gs ws, hs = gs ++ ws → (∀ w ∈ ws, w.isSet = true) →
          (((x.run gs).handle .halt).run ws).shown.time = (x.run hs).shown.time := by
  intro x
  have hx : x.Settled := settled_running hnear.shown_near
  have hend : (x.run hs).shown.Near := by
    have hlast := hnear hs.length (by omega)
    rwa [List.take_length] at hlast
  have hsettled : (x.run hs).Settled := (shown_run hx hnear).1
  refine ⟨fun n => ?_, ?_, fun ms hkeeps => ?_, fun gs ws hsplit hset => ?_⟩
  · have hshown : x.shown = ⟨now.toInt, now.toInt + offset.toInt, false⟩ :=
      shown_running_of_near hnear.shown_near
    rw [← hshown]
    exact (shown_run hx (hnear.take n)).2
  · rw [(resume_follows hsettled hend).shown]
    rfl
  · exact virtual_run_of_keepsHalt (VirtualClock.isHalted_halt _ _) hkeeps
  · subst hsplit
    have hfirst : x.StaysNear gs := by
      have htake := hnear.take gs.length
      rwa [List.take_left] at htake
    rw [run_append]
    exact time_run_halt (shown_run hx hfirst).1 hnear.behind hset

/-- A clock is set while it runs, halted, set again, and resumed long before that time. -/
theorem shown_setAndResumed :
    let hs : List Handling := [.set .hour 0x12 .packed, .advance 7, .halt, .advance 1000,
      .set .year 0x99 .packed, .halt, .setTime 86400, .resume, .advance (-30), .haltIf true]
    (started (-5) 1000000000 0).StaysNear hs
      ∧ ((started (-5) 1000000000 0).run hs).shown = ⟨86370, 4092641172, true⟩ := by
  intro hs
  have hnear : (started (-5) 1000000000 0).StaysNear hs := by decide +kernel
  have hend : Stopwatch.run ⟨1000000000, 999999995, false⟩ hs = ⟨86370, 4092641172, true⟩ := by
    decide +kernel
  refine ⟨hnear, ?_⟩
  rw [← hend]
  exact (shown_eq_stopwatch (-5) 1000000000 0 hs hnear).1 10

end Timepiece

end ClockChip
