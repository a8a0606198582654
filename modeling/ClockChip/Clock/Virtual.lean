import ClockChip.Clock.Host

/-!
# The virtual clock

The chip's time is kept as an offset from host time while the clock runs, and as a frozen latch
while it is halted.  Resuming folds the host time that passed in between into the offset, so that
the clock goes on from the instant at which it stopped.

## Main definitions

* `Mode`, `VirtualClock`: the state.
* `VirtualClock.now`: the virtual time.
* `VirtualClock.halt`, `VirtualClock.resume`, `VirtualClock.haltIf`: stopping and going on.
* `VirtualClock.set`: a field written to whichever form holds the time.
-/

namespace ClockChip

/-- Which form holds the virtual time. -/
inductive Mode where
  /-- Host time plus the offset. -/
  | running
  /-- Frozen at a latch until the clock is resumed. -/
  | halted (latch : Instant)
  deriving DecidableEq, Repr

/-- A virtual clock. -/
structure VirtualClock where
  /-- Seconds by which the virtual time is ahead of the host's while the clock runs. -/
  offset : Instant
  /-- Running or halted. -/
  mode : Mode
  deriving DecidableEq, Repr

namespace VirtualClock

/-- A clock that runs at an offset. -/
def running (offset : Instant) : VirtualClock := ⟨offset, .running⟩

/-- The clock is frozen. -/
def isHalted (v : VirtualClock) : Bool :=
  match v.mode with
  | .running => false
  | .halted _ => true

/-- The virtual time. -/
def now (v : VirtualClock) (clock : HostClock) : Instant :=
  match v.mode with
  | .running => clock.latch v.offset
  | .halted latch => latch

/-- Freezes a running clock; a halted one keeps its latch. -/
def halt (v : VirtualClock) (clock : HostClock) : VirtualClock :=
  match v.mode with
  | .running => { v with mode := .halted (clock.latch v.offset) }
  | .halted _ => v

/-- Lets a halted clock go on from its latch. -/
def resume (v : VirtualClock) (clock : HostClock) : VirtualClock :=
  match v.mode with
  | .running => v
  | .halted latch =>
    -- how far the host has moved past the instant at which the latch would have been its time
    let elapsed := (clock.latch 0).minus (latch.minus v.offset)
    running (v.offset.minus elapsed)

/-- Halts or resumes. -/
def haltIf (v : VirtualClock) (stop : Bool) (clock : HostClock) : VirtualClock :=
  if stop then v.halt clock else v.resume clock

/-- Sets one calendar field of the virtual time. -/
def set (v : VirtualClock) (clock : HostClock) (f : Field) (value : Int) (coding : Coding) :
    VirtualClock :=
  match v.mode with
  | .running => { v with offset := clock.setRunning f value v.offset coding }
  | .halted latch => { v with mode := .halted (clock.setLatched f value latch coding) }

@[simp] theorem isHalted_running (offset : Instant) : (running offset).isHalted = false := rfl

@[simp] theorem offset_running (offset : Instant) : (running offset).offset = offset := rfl

@[simp] theorem now_running (offset : Instant) (clock : HostClock) :
    (running offset).now clock = clock.latch offset := rfl

@[simp] theorem isHalted_halt (v : VirtualClock) (clock : HostClock) :
    (v.halt clock).isHalted = true := by
  cases hmode : v.mode <;> simp [halt, isHalted, hmode]

@[simp] theorem isHalted_resume (v : VirtualClock) (clock : HostClock) :
    (v.resume clock).isHalted = false := by
  cases hmode : v.mode <;> simp [resume, isHalted, running, hmode]

@[simp] theorem isHalted_haltIf (v : VirtualClock) (stop : Bool) (clock : HostClock) :
    (v.haltIf stop clock).isHalted = stop := by
  cases stop <;> simp [haltIf]

@[simp] theorem isHalted_set (v : VirtualClock) (clock : HostClock) (f : Field) (value : Int)
    (coding : Coding) : (v.set clock f value coding).isHalted = v.isHalted := by
  cases hmode : v.mode <;> simp [set, isHalted, hmode]

/-- Freezing a clock does not move it. -/
@[simp] theorem now_halt (v : VirtualClock) (clock : HostClock) :
    (v.halt clock).now clock = v.now clock := by
  cases hmode : v.mode <;> simp [halt, now, hmode]

end VirtualClock

end ClockChip
