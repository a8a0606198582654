import ClockChip.Calendar.Field

/-!
# The host's clock

A chip keeps no time of its own: it asks the machine it is plugged into.  A `HostClock` is that
machine's clock at one moment.  Most clocks only tell the time and treat calendar fields as the
calendar does (`HostClock.plain`), but any clock with the same questions can stand in for it.

Virtual time is handled in two forms: as an offset from host time while it runs, and as a fixed
latch while it stands.

## Main definitions

* `HostClock`: the questions a chip asks.
* `HostClock.plain`: a clock with the calendar's own answers.
* `HostClock.stuck`: a clock that answers every question in the same way.
* `ClockSource`: clocks that move when told to.
-/

namespace ClockChip

/-- A host clock at one moment. -/
structure HostClock where
  /-- The time of day and date on the host. -/
  now : Instant
  /-- Hundredths of the current host second. -/
  hundredths : UInt8
  /-- The virtual time of a clock that runs at an offset from the host. -/
  latch : (offset : Instant) → Instant
  /-- The byte that shows the hundredths. -/
  hundredthsByte : Coding → UInt8
  /-- The byte that shows a field of a virtual time. -/
  fieldByte : Field → Instant → Coding → UInt8
  /-- The offset at which a running clock shows another value in one field right now. -/
  setRunning : Field → (value : Int) → (offset : Instant) → Coding → Instant
  /-- The latch that shows another value in one field. -/
  setLatched : Field → (value : Int) → (latch : Instant) → Coding → Instant

namespace HostClock

/-- The virtual time at an offset from the host's. -/
def latchAt (now offset : Instant) : Instant := now.plus offset

/-- A field of a fixed virtual time set to a value. -/
def replaceIn (f : Field) (value : Int) (latch : Instant) (coding : Coding) : Instant :=
  Int64.ofInt (f.replace value latch.toInt coding)

/-- The offset moved by what setting a field moves the virtual time. -/
def moveOffset (now : Instant) (f : Field) (value : Int) (offset : Instant) (coding : Coding) :
    Instant :=
  let virtual := latchAt now offset
  offset.plus ((replaceIn f value virtual coding).minus virtual)

/-- A clock that tells the time and leaves fields to the calendar.  No more than 99 hundredths are
ever shown. -/
def plain (now : Instant) (hundredths : UInt8) : HostClock where
  now := now
  hundredths := hundredths
  latch offset := latchAt now offset
  hundredthsByte coding := coding.encode (min hundredths 99)
  fieldByte f t coding := f.get t.toInt coding
  setRunning f value offset coding := moveOffset now f value offset coding
  setLatched f value latch coding := replaceIn f value latch coding

/-- A clock that shows the same byte in every field, always has the same virtual time and cannot
be set. -/
def stuck (now latch : Instant) (hundredths field : UInt8) : HostClock where
  now := now
  hundredths := hundredths
  latch _ := latch
  hundredthsByte _ := hundredths
  fieldByte _ _ _ := field
  setRunning _ _ offset _ := offset
  setLatched _ _ latch _ := latch

end HostClock

/-- A clock that moves when told to. -/
inductive ClockSource where
  /-- A clock of whole seconds, with the hundredths set by hand. -/
  | manual (now : Instant) (hundredths : UInt8)
  /-- A stuck clock over a host time. -/
  | stuck (now latch : Instant) (hundredths field : UInt8)
  /-- A counter of milliseconds. -/
  | counter (milliseconds : Int)

namespace ClockSource

/-- The clock as it stands. -/
def host : ClockSource → HostClock
  | manual now hundredths => .plain now hundredths
  | stuck now latch hundredths field => .stuck now latch hundredths field
  | counter ms => .plain (Int64.ofInt (ms / 1000)) (UInt8.ofInt (ms % 1000 / 10))

/-- Moves the host time to `now`. -/
def setTime (now : Instant) : ClockSource → ClockSource
  | manual _ hundredths => manual now hundredths
  | stuck _ latch hundredths field => stuck now latch hundredths field
  | counter _ => counter (now.toInt * 1000)

/-- Moves the host time by a number of seconds. -/
def advance (seconds : Instant) (c : ClockSource) : ClockSource :=
  match c with
  | manual now hundredths => manual (now + seconds) hundredths
  | stuck now latch hundredths field => stuck (now + seconds) latch hundredths field
  | counter ms => counter (ms + seconds.toInt * 1000)

/-- Sets the hundredths of a clock that has them set by hand. -/
def setHundredths (hundredths : UInt8) : ClockSource → ClockSource
  | manual now _ => manual now hundredths
  | c => c

/-- Lets a number of milliseconds pass.  A clock of whole seconds moves by the whole seconds among
them and a stuck clock stays. -/
def pause (ms : Nat) : ClockSource → ClockSource
  | manual now hundredths => manual (now + Int64.ofInt (ms / 1000)) hundredths
  | stuck now latch hundredths field => stuck now latch hundredths field
  | counter count => counter (count + ms)

end ClockSource

end ClockChip
