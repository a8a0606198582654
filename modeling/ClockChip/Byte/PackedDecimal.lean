/-!
# Packed decimal bytes

The time registers hold two decimal digits in one byte, tens in the high half and units in the
low half.  Calendar values are asked for either in this form or as plain binary numbers.

## Main definitions

* `PackedDecimal.ofBinary`, `PackedDecimal.toBinary`: the two directions.
* `Coding`: the form a calendar byte is written in, with `Coding.encode` and `Coding.decode`.
-/

namespace ClockChip

namespace PackedDecimal

/-- Two decimal digits in one byte.  A value above 159 has no room for its tens and loses them
modulo sixteen. -/
def ofBinary (v : UInt8) : UInt8 := ((v / 10) <<< 4) ||| (v % 10)

/-- The number that a pair of half bytes stands for.  Either half may exceed nine. -/
def toBinary (v : UInt8) : UInt8 := (v >>> 4) * 10 + (v &&& 0x0f)

end PackedDecimal

/-- The form in which a calendar byte is written. -/
inductive Coding where
  /-- A plain binary number. -/
  | binary
  /-- Two decimal digits, one in each half. -/
  | packed
  deriving DecidableEq, Repr

namespace Coding

/-- Writes a number in the given form. -/
def encode : Coding → UInt8 → UInt8
  | binary, v => v
  | packed, v => PackedDecimal.ofBinary v

/-- Reads a byte in the given form. -/
def decode : Coding → UInt8 → UInt8
  | binary, v => v
  | packed, v => PackedDecimal.toBinary v

@[simp] theorem encode_binary (v : UInt8) : binary.encode v = v := rfl

@[simp] theorem encode_packed (v : UInt8) : packed.encode v = PackedDecimal.ofBinary v := rfl

@[simp] theorem decode_binary (v : UInt8) : binary.decode v = v := rfl

@[simp] theorem decode_packed (v : UInt8) : packed.decode v = PackedDecimal.toBinary v := rfl

end Coding

end ClockChip
