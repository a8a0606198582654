import ClockChip.Wire.Responder

/-!
# A plain memory behind a responder

The simplest register map: bytes that stay as they were written, and a count of the STARTs.

## Main definitions

* `Memory`: the bytes and the count.
* `Memory.registers`: a memory as a register map of a given size.
-/

namespace ClockChip

/-- Bytes, and how many STARTs they have seen. -/
structure Memory where
  /-- The bytes. -/
  bytes : List UInt8
  /-- The number of STARTs. -/
  starts : Nat
  deriving DecidableEq, Repr

namespace Memory

/-- A memory in which each byte is the low byte of its address. -/
def counting (size : Nat) : Memory := ⟨(List.range size).map UInt8.ofNat, 0⟩

/-- A memory as a register map. -/
def registers (size : Nat) : RegisterMap Memory where
  count := size
  onStart m := { m with starts := m.starts + 1 }
  read m address := (m.bytes.getD address 0, m)
  write m address val := { m with bytes := m.bytes.set address val }

@[simp] theorem length_counting (size : Nat) : (counting size).bytes.length = size := by
  simp [counting]

end Memory

end ClockChip
