import ClockChip.Wire.Controller

/-!
# Recorded and scripted wires

What a controller does to a wire is the list of its line events.  `Wire.recorded` keeps that list
beside any wire, and `Script` is a wire without a device, whose data line answers from a list.

## Main definitions

* `Wire.recorded`: a wire that keeps the events it was driven with.
* `Script`, `Script.wire`: a data line that answers from a list.
-/

namespace ClockChip

/-- The same wire, with the events so far beside its state. -/
def Wire.recorded {σ : Type} (w : Wire σ) : Wire (σ × List LineEvent) where
  drive e s := (w.drive e s.1, s.2 ++ [e])
  sample s := let (level, t) := w.sample s.1; (level, (t, s.2))

/-- A data line whose levels are given beforehand. -/
structure Script where
  /-- The level at each look; high behind the end. -/
  levels : List Bool
  /-- How often the line has been looked at. -/
  looks : Nat
  deriving DecidableEq, Repr

/-- A wire without a device. -/
def Script.wire : Wire Script where
  drive _ s := s
  sample s := (s.levels.getD s.looks true, { s with looks := s.looks + 1 })

end ClockChip
