/-!
# Events on a two-wire line

Two lines run between a controller and a device, one for the clock and one for data.  Everything
that happens on them is a line being set to a level, be it the level that it has already.

## Main definitions

* `LineEvent`: one line set to one level.
* `startEvents`, `stopEvents`, `bitEvents`: the events that frame a transfer and carry a bit.
-/

namespace ClockChip

/-- One of the two lines set to a level; `true` is high. -/
inductive LineEvent where
  /-- The clock line. -/
  | clock (level : Bool)
  /-- The data line. -/
  | data (level : Bool)
  deriving DecidableEq, Repr

/-- A START: data falls while the clock is high.  The clock is left low. -/
def startEvents : List LineEvent := [.data true, .clock true, .data false, .clock false]

/-- A STOP: data rises while the clock is high.  Both lines are left high. -/
def stopEvents : List LineEvent := [.data false, .clock true, .data true]

/-- One bit: the level is set while the clock is low and held through one clock pulse. -/
def bitEvents (level : Bool) : List LineEvent := [.data level, .clock true, .clock false]

end ClockChip
