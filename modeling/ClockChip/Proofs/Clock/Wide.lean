import ClockChip.Proofs.Calendar.Words
import ClockChip.Proofs.Clock.Stopwatch

/-!
# A virtual clock without a bound

A virtual clock stops its sums at the ends of the 64-bit range in a few places only: where an offset
is added to host time, where elapsed time is folded into an offset, and where a field has moved an
instant.  A clock that keeps all of its numbers without a bound, and clamps them in these places,
goes the same way, from any offset and any latch and under any host times.  And so does a clock
whose other sums are made in words, be it that the words wrap around or that they refuse what does
not fit: none of them ever leaves the range.

## Main definitions

* `WideTimepiece`: a virtual clock in numbers without a bound, with `WideTimepiece.handle` and
  `WideTimepiece.run`.
* `Timepiece.handleIn`, `Timepiece.runIn`: a virtual clock with the sums of the calendar in words.

## Main results

* `Timepiece.widened_handle`, `Timepiece.widened_run`: the clock without a bound goes the same way.
* `Timepiece.handleIn_eq`, `Timepiece.runIn_eq`: so does one with any exact operations.
* `Timepiece.run_in_words`: **the clock is the same without a bound, in words that wrap around, and
  in words that refuse what does not fit.**
-/

namespace ClockChip

/-- The value of a field that is set fits 32 bits. -/
def Handling.FitsHalf : Handling → Prop
  | set _ value _ => ClockChip.FitsHalf value
  | _ => True

instance : ∀ h : Handling, Decidable h.FitsHalf
  | .set _ value _ => inferInstanceAs (Decidable (ClockChip.FitsHalf value))
  | .halt | .resume | .haltIf _ | .advance _ | .setTime _ => inferInstanceAs (Decidable True)

/-! ### Numbers without a bound -/

/-- A virtual clock in numbers without a bound, and the host's clock that it looks at.  However the
host's clock comes by its time, it is a word. -/
structure WideTimepiece where
  /-- Seconds by which the virtual time is ahead of the host's while the clock runs. -/
  offset : Int
  /-- The time at which the clock is halted, if it is. -/
  latch : Option Int
  /-- The host's clock. -/
  source : ClockSource

namespace WideTimepiece

/-- Host time. -/
def host (w : WideTimepiece) : Int := w.source.host.now.toInt

/-- The virtual time. -/
def now (w : WideTimepiece) : Int :=
  match w.latch with
  | none => clamp (w.host + w.offset)
  | some latch => latch

/-- The clock is frozen at the time that it shows. -/
def halt (w : WideTimepiece) : WideTimepiece := { w with latch := some w.now }

/-- A halted clock goes on from its latch. -/
def resume (w : WideTimepiece) : WideTimepiece :=
  match w.latch with
  | none => w
  | some latch =>
    let elapsed := clamp (clamp (w.host + 0) - clamp (latch - w.offset))
    { w with offset := clamp (w.offset - elapsed), latch := none }

/-- A field of the virtual time is set. -/
def set (w : WideTimepiece) (f : Field) (value : Int) (coding : Coding) : WideTimepiece :=
  match w.latch with
  | none => { w with offset := clamp (w.offset + clamp (f.replace value w.now coding - w.now)) }
  | some latch => { w with latch := some (f.replace value latch coding) }

/-- A handling of the virtual clock or of the host's. -/
def handle (w : WideTimepiece) : Handling → WideTimepiece
  | .halt => w.halt
  | .resume => w.resume
  | .haltIf stop => if stop then w.halt else w.resume
  | .set f value coding => w.set f value coding
  | .advance seconds => { w with source := w.source.advance seconds }
  | .setTime now => { w with source := w.source.setTime now }

/-- A list of handlings, in order. -/
def run (w : WideTimepiece) (hs : List Handling) : WideTimepiece := hs.foldl handle w

@[simp] theorem run_nil (w : WideTimepiece) : w.run [] = w := rfl

@[simp] theorem run_cons (w : WideTimepiece) (h : Handling) (hs : List Handling) :
    w.run (h :: hs) = (w.handle h).run hs := rfl

end WideTimepiece

namespace Timepiece

/-- The timepiece in numbers without a bound. -/
def widened (x : Timepiece) : WideTimepiece where
  offset := x.virtual.offset.toInt
  latch := match x.virtual.mode with
    | .running => none
    | .halted latch => some latch.toInt
  source := x.source

/-- The host's clock is one that is set by hand. -/
def Manual (x : Timepiece) : Prop := ∃ now hundredths, x.source = .manual now hundredths

variable {x : Timepiece}

theorem Manual.handle (hx : x.Manual) (h : Handling) : (x.handle h).Manual := by
  obtain ⟨virtual, source⟩ := x
  obtain ⟨now, hundredths, rfl⟩ := hx
  cases h with
  | advance | setTime => exact ⟨_, _, rfl⟩
  | halt | resume | haltIf | set => exact ⟨now, hundredths, rfl⟩

theorem Manual.run (hx : x.Manual) (hs : List Handling) : (x.run hs).Manual := by
  induction hs generalizing x with
  | nil => exact hx
  | cons h hs ih => exact ih (hx.handle h)

theorem now_widened (hx : x.Manual) : x.widened.now = (x.virtual.now x.source.host).toInt := by
  obtain ⟨⟨offset, mode⟩, source⟩ := x
  obtain ⟨now, hundredths, rfl⟩ := hx
  cases mode with
  | running => exact (Instant.toInt_plus now offset).symm
  | halted latch => rfl

/-- The clock is frozen at the same time. -/
theorem widened_halt (hx : x.Manual) : (x.handle .halt).widened = x.widened.halt := by
  rw [WideTimepiece.halt, now_widened hx]
  obtain ⟨⟨offset, mode⟩, source⟩ := x
  cases mode with
  | running => rfl
  | halted latch => rfl

theorem widened_resume (hx : x.Manual) : (x.handle .resume).widened = x.widened.resume := by
  obtain ⟨⟨offset, mode⟩, source⟩ := x
  obtain ⟨now, hundredths, rfl⟩ := hx
  cases mode with
  | running => rfl
  | halted latch =>
    simp only [handle, ClockSource.host, HostClock.plain, VirtualClock.resume,
      VirtualClock.running, widened, WideTimepiece.resume, WideTimepiece.host,
      HostClock.latchAt, Instant.toInt_minus, Instant.toInt_plus, Int64.toInt_zero]

theorem widened_set (hx : x.Manual) (f : Field) (value : Int) (coding : Coding) :
    (x.handle (.set f value coding)).widened = x.widened.set f value coding := by
  have hnow := now_widened hx
  unfold WideTimepiece.set
  rw [hnow]
  obtain ⟨⟨offset, mode⟩, source⟩ := x
  obtain ⟨now, hundredths, rfl⟩ := hx
  cases mode with
  | running =>
    simp only [handle, widened, VirtualClock.set, ClockSource.host, HostClock.plain,
      HostClock.toInt_moveOffset, VirtualClock.now]
  | halted latch =>
    simp only [handle, widened, VirtualClock.set, ClockSource.host, HostClock.plain,
      HostClock.toInt_replaceIn]

/-- **One handling of the clock is that handling without a bound.** -/
theorem widened_handle (hx : x.Manual) (h : Handling) :
    (x.handle h).widened = x.widened.handle h := by
  cases h with
  | halt => exact widened_halt hx
  | resume => exact widened_resume hx
  | haltIf stop =>
    cases stop with
    | true => exact widened_halt hx
    | false => exact widened_resume hx
  | set f value coding => exact widened_set hx f value coding
  | advance seconds => rfl
  | setTime now => rfl

theorem widened_run (hx : x.Manual) (hs : List Handling) :
    (x.run hs).widened = x.widened.run hs := by
  induction hs generalizing x with
  | nil => rfl
  | cons h hs ih =>
    rw [run_cons, WideTimepiece.run_cons, ← widened_handle hx h]
    exact ih (hx.handle h)

/-! ### Sums in words -/

variable {m : Type → Type} [Monad m]

/-- A field of the virtual clock set in words. -/
def setIn (A : Arithmetic m) (x : Timepiece) (f : Field) (value : Int32) (coding : Coding) :
    m Timepiece :=
  match x.virtual.mode with
  | .running => do
    let virtual := x.virtual.now x.source.host
    let moved ← A.replace f value virtual coding
    return { x with virtual.offset := x.virtual.offset.plus (moved.minus virtual) }
  | .halted latch => do
    let moved ← A.replace f value latch coding
    return { x with virtual.mode := .halted moved }

/-- A handling in words.  Apart from setting a field, every sum stops at the ends of the range. -/
def handleIn (A : Arithmetic m) (x : Timepiece) : Handling → m Timepiece
  | .set f value coding => x.setIn A f (Int32.ofInt value) coding
  | h => pure (x.handle h)

/-- A list of handlings in words. -/
def runIn (A : Arithmetic m) (x : Timepiece) (hs : List Handling) : m Timepiece :=
  hs.foldlM (handleIn A) x

variable [LawfulMonad m] {A : Arithmetic m}

theorem setIn_eq (hA : A.Exact) (hx : x.Manual) (f : Field) (value : Int32) (coding : Coding) :
    x.setIn A f value coding = pure (x.handle (.set f value.toInt coding)) := by
  obtain ⟨⟨offset, mode⟩, source⟩ := x
  obtain ⟨now, hundredths, rfl⟩ := hx
  cases mode with
  | running =>
    simp only [setIn, Arithmetic.replace_eq hA, pure_bind]
    rfl
  | halted latch =>
    simp only [setIn, Arithmetic.replace_eq hA, pure_bind]
    rfl

/-- **One handling in exact words is that handling.** -/
theorem handleIn_eq (hA : A.Exact) (hx : x.Manual) {h : Handling} (hh : h.FitsHalf) :
    x.handleIn A h = pure (x.handle h) := by
  cases h with
  | set f value coding =>
    obtain ⟨hfirst, hlast⟩ := hh
    have hvalue : (Int32.ofInt value).toInt = value :=
      Int32.toInt_ofInt_of_le hfirst (by omega)
    unfold handleIn
    dsimp only
    rw [setIn_eq hA hx, hvalue]
  | halt | resume | haltIf | advance | setTime => rfl

theorem runIn_eq (hA : A.Exact) (hx : x.Manual) {hs : List Handling}
    (hvalues : ∀ h ∈ hs, h.FitsHalf) : x.runIn A hs = pure (x.run hs) := by
  induction hs generalizing x with
  | nil => rfl
  | cons h hs ih =>
    obtain ⟨hfirst, hrest⟩ := List.forall_mem_cons.mp hvalues
    unfold runIn
    rw [List.foldlM_cons, handleIn_eq hA hx hfirst, pure_bind]
    exact ih (hx.handle h) hrest

/-- **A virtual clock is the same in words that wrap around, in words that refuse what does not fit,
and without a bound**, at any offset and latch and under any host times.  Setting a field refuses
neither a sum nor a product nor the year in 32 bits, so none of them wraps around either. -/
theorem run_in_words (v : VirtualClock) (now : Instant) (hundredths : UInt8) (hs : List Handling)
    (hvalues : ∀ h ∈ hs, h.FitsHalf) :
    let x : Timepiece := ⟨v, .manual now hundredths⟩
    x.runIn .wrapping hs = pure (x.run hs)
      ∧ x.runIn .checked hs = some (x.run hs)
      ∧ (x.run hs).widened = x.widened.run hs
      ∧ ((x.run hs).virtual.now (x.run hs).source.host).toInt = (x.widened.run hs).now := by
  intro x
  have hx : x.Manual := ⟨now, hundredths, rfl⟩
  have hend : (x.run hs).Manual := hx.run hs
  refine ⟨runIn_eq Arithmetic.wrapping_exact hx hvalues,
    runIn_eq Arithmetic.checked_exact hx hvalues, widened_run hx hs, ?_⟩
  rw [← widened_run hx hs]
  exact (now_widened hend).symm

/-- A clock that stops at the last instant is set, halted, set, resumed at the first instant of
its host, set and halted. -/
theorem run_in_words_atTheEnds :
    let x : Timepiece := ⟨.running 9223372036854775807, .manual 9223372036854775807 0⟩
    let hs : List Handling := [.set .weekday (-2147483648) .packed, .halt,
      .set .month 0x13 .packed, .setTime (-9223372036854775808), .resume, .set .year 0x99 .packed,
      .haltIf true, .set .weekday 2147483647 .packed]
    (x.runIn .checked hs).map virtual
        = some ⟨9223363703578923008, .halted 177209311248000⟩
      ∧ (x.widened.run hs).now = 177209311248000 := by
  intro x hs
  have hvalues : ∀ h ∈ hs, h.FitsHalf := by decide
  have hend : (x.run hs).virtual = ⟨9223363703578923008, .halted 177209311248000⟩ := by
    decide +kernel
  obtain ⟨-, hchecked, -, hnow⟩ :=
    run_in_words (.running 9223372036854775807) 9223372036854775807 0 hs hvalues
  refine ⟨?_, ?_⟩
  · rw [hchecked, Option.map_some, hend]
  · rw [← hnow, hend]
    decide

end Timepiece

end ClockChip
