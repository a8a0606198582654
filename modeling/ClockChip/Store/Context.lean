import ClockChip.Byte.Encoding
import ClockChip.Calendar.Instant

/-!
# What the battery keeps

When the host is switched off a chip's battery keeps its memory, its stored registers and the
distance of its clock from the host's.  Saved contexts come from outside, so they may have any
size; only one that fits the chip is used.

## Main definitions

* `Context`: memory, registers and offset.
* `Context.Fits`: the sizes are those of the chip and the offset is within bounds.
* `Context.encode`, `Context.decoder`: its binary form.
-/

namespace ClockChip

/-- The largest distance, in seconds, that a saved clock may have from the host's: a little over
four hundred years either way. -/
def offsetBound : Int := 400 * 366 * 86400

/-- The offset lies within the bounds of a saved clock. -/
def OffsetInBounds (offset : Instant) : Prop :=
  -offsetBound ≤ offset.toInt ∧ offset.toInt ≤ offsetBound

instance (offset : Instant) : Decidable (OffsetInBounds offset) :=
  inferInstanceAs (Decidable (_ ∧ _))

/-- What a chip's battery keeps. -/
structure Context where
  /-- The memory. -/
  ram : List UInt8
  /-- The stored registers. -/
  registers : List UInt8
  /-- The offset of the clock from the host's. -/
  offset : Instant
  deriving DecidableEq, Repr

namespace Context

/-- A context of zeros. -/
def blank (ramSize registerSize : Nat) : Context :=
  ⟨List.replicate ramSize 0, List.replicate registerSize 0, 0⟩

/-- The context is one of a chip with memory and registers of the given sizes. -/
def Fits (c : Context) (ramSize registerSize : Nat) : Prop :=
  c.ram.length = ramSize ∧ c.registers.length = registerSize ∧ OffsetInBounds c.offset

instance (c : Context) (ramSize registerSize : Nat) : Decidable (c.Fits ramSize registerSize) :=
  inferInstanceAs (Decidable (_ ∧ _ ∧ _))

/-- The bytes of a saved context. -/
def encode (c : Context) : List UInt8 :=
  Encoding.bytes c.ram ++ Encoding.bytes c.registers ++ Encoding.int64 c.offset

/-- Reads a saved context. -/
def decoder : Decoder Context := do
  let ram ← Decoder.bytes
  let registers ← Decoder.bytes
  let offset ← Decoder.int64
  return ⟨ram, registers, offset⟩

/-- The context if it fits, and none otherwise. -/
def fitting (ramSize registerSize : Nat) (c : Option Context) : Option Context :=
  c.filter fun c => decide (c.Fits ramSize registerSize)

@[simp] theorem fitting_none (ramSize registerSize : Nat) :
    fitting ramSize registerSize none = none := rfl

theorem fitting_some (ramSize registerSize : Nat) (c : Context) :
    fitting ramSize registerSize (some c)
      = if c.Fits ramSize registerSize then some c else none := by
  simp [fitting, Option.filter]

theorem blank_fits (ramSize registerSize : Nat) :
    (blank ramSize registerSize).Fits ramSize registerSize := by
  refine ⟨List.length_replicate, List.length_replicate, ?_⟩
  show OffsetInBounds 0
  decide

end Context

end ClockChip
