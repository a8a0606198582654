import ClockChip.Register.Bank
import ClockChip.Proofs.Clock.Fields

/-!
# Bytes written to the time registers

A byte that is written to a time register sets one field of the virtual clock, or two of them one
after the other.  This module names these fields, so that what holds of fields set on a clock
carries over to bytes written to a bank.

## Main definitions

* `Bank.fieldsOf`: the fields that a byte sets, with their numbers.
* `Bank.writeEach`: bytes written one after the other.

## Main results

* `Bank.drive_eq_setAll`: apart from the control register, a byte does nothing else to the clock.
-/

namespace ClockChip

namespace Bank

/-- The fields that a byte written to an address sets, in this order, with their numbers. -/
def fieldsOf (address : Nat) (val : UInt8) : List (Field × Int) :=
  match Register.at? address with
  | some .seconds => [(.second, val.toNat)]
  | some .minutes => [(.minute, val.toNat)]
  | some .hours =>
    [(if (Hours.unpack val).1 then .hourAmPm else .hour, (Hours.unpack val).2.toNat)]
  | some .yearDay =>
    [(.year, (YearDay.unpack val).1.toNat), (.dayOfMonth, (YearDay.unpack val).2.toNat)]
  | some .weekdayMonth =>
    [(.weekday, (WeekdayMonth.unpack val).1), (.month, (WeekdayMonth.unpack val).2.toNat)]
  | _ => []

/-- Bytes written to a bank one after the other, each to its address, while the host's clock stands
still. -/
def writeEach (clock : HostClock) (p : Bank × VirtualClock) (ws : List (Nat × UInt8)) :
    Bank × VirtualClock :=
  ws.foldl (fun p w => p.1.write p.2 clock w.1 w.2) p

@[simp] theorem writeEach_nil (clock : HostClock) (p : Bank × VirtualClock) :
    writeEach clock p [] = p := rfl

@[simp] theorem writeEach_cons (clock : HostClock) (p : Bank × VirtualClock) (w : Nat × UInt8)
    (ws : List (Nat × UInt8)) :
    writeEach clock p (w :: ws) = writeEach clock (p.1.write p.2 clock w.1 w.2) ws := rfl

/-- Apart from the control register, what a byte does to the clock is to set its fields. -/
theorem drive_eq_setAll {address : Nat} (h : Register.at? address ≠ some .control) (val : UInt8)
    (v : VirtualClock) (clock : HostClock) :
    drive address val v clock = v.setAll clock (fieldsOf address val) := by
  unfold drive fieldsOf
  cases hr : Register.at? address with
  | none => rfl
  | some r =>
    cases r with
    | control => exact absurd hr h
    | hundredths | seconds | minutes | hours | yearDay | weekdayMonth | timerDays | alarm => rfl

end Bank

end ClockChip
