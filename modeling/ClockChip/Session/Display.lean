import ClockChip.Chip.Basic
import ClockChip.Session.Host
import ClockChip.Session.Report

/-!
# Showing a chip

The clock registers and the memory are read over the chip's own two lines, like a controller
would, and printed.

## Main definitions

* `Chip.showAll`: the whole address space.
* `Chip.showTimes`: the time, again and again.
-/

namespace ClockChip.Chip

/-- The number of registers that make up the time line. -/
def timeRegisters : Nat := 7

section

variable {m : Type → Type} [Monad m] [Host m]

/-- Reads a burst of registers from the first one on, at the host's present time. -/
def readAll (n : Nat) (c : Chip) : m (Except TransferError (List UInt8) × Chip) := do
  let clock ← Host.clock
  return (wire clock).readBurst 0 n c

/-- Prints lines. -/
def printLines : List String → m Unit
  | [] => return ()
  | line :: lines => do
    Host.print line
    printLines lines

/-- Prints the time, the control register and the table of all bytes. -/
def showAll (c : Chip) : m (Except TransferError Unit × Chip) := do
  let (result, c) ← c.readAll addressCount
  match result with
  | .error e => return (.error e, c)
  | .ok bytes =>
    printLines ((Report.dump bytes).getD [])
    return (.ok (), c)

/-- Prints the time once. -/
def showTime (c : Chip) : m (Except TransferError Unit × Chip) := do
  let (result, c) ← c.readAll timeRegisters
  match result with
  | .error e => return (.error e, c)
  | .ok bytes =>
    printLines (Report.time? bytes).toList
    return (.ok (), c)

/-- Prints the time `n` more times, each time after a pause. -/
def showMore (interval : Nat) : (n : Nat) → Chip → m (Except TransferError Unit × Chip)
  | 0, c => return (.ok (), c)
  | n + 1, c => do
    Host.pause interval
    let (result, c) ← c.showTime
    match result with
    | .error e => return (.error e, c)
    | .ok () => showMore interval n c

/-- Prints the time `count` times, with a pause of `interval` milliseconds between two lines. -/
def showTimes (count interval : Nat) (c : Chip) : m (Except TransferError Unit × Chip) := do
  match count with
  | 0 => return (.ok (), c)
  | n + 1 =>
    let (result, c) ← c.showTime
    match result with
    | .error e => return (.error e, c)
    | .ok () => showMore interval n c

end

end ClockChip.Chip
