/-!
# The bits of a byte

A two-wire line carries a byte as eight levels, the most significant bit first, and several
registers pack two or three small numbers into one byte.  This module names the bits.

## Main definitions

* `bitsUpTo width n`: the low `width` bits of a number, the least significant first.
* `Byte.bit`: one bit of a byte.
* `Byte.levels`, `Byte.ofLevels`: a byte as the levels of a line, and back.
-/

namespace ClockChip

/-- The low `width` bits of `n`, the least significant first. -/
def bitsUpTo (width n : Nat) : List Bool := (List.range width).map n.testBit

@[simp] theorem length_bitsUpTo (width n : Nat) : (bitsUpTo width n).length = width := by
  simp [bitsUpTo]

/-- The number of a level: high counts one. -/
def levelBit (level : Bool) : UInt8 := if level then 1 else 0

@[simp] theorem levelBit_true : levelBit true = 1 := rfl

@[simp] theorem levelBit_false : levelBit false = 0 := rfl

namespace Byte

/-- Bit `i` of a byte, bit 0 being the least significant; a byte has no bit above the seventh. -/
def bit (b : UInt8) (i : Nat) : Bool := b.toNat.testBit i

/-- The positions of a byte in the order in which a line carries them. -/
def lineOrder : List Nat := [7, 6, 5, 4, 3, 2, 1, 0]

/-- The eight levels that carry a byte, the most significant bit first. -/
def levels (b : UInt8) : List Bool := lineOrder.map (bit b)

@[simp] theorem length_levels (b : UInt8) : (levels b).length = 8 := rfl

/-- One more level behind those already received. -/
def append (b : UInt8) (level : Bool) : UInt8 := (b <<< 1) ||| levelBit level

/-- The byte that a list of levels carries; of more than eight levels the last eight count. -/
def ofLevels (ls : List Bool) : UInt8 := ls.foldl append 0

@[simp] theorem ofLevels_nil : ofLevels [] = 0 := rfl

@[simp] theorem ofLevels_concat (ls : List Bool) (level : Bool) :
    ofLevels (ls ++ [level]) = append (ofLevels ls) level := by
  simp [ofLevels]

end Byte

end ClockChip
