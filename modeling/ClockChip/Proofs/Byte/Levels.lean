import ClockChip.Byte.Bits

/-!
# Bytes level by level

A byte on a line is taken in and given out one level at a time.  While it is taken in, the levels
so far stand at the top of the byte and zeros below them; this module gives that byte in the
making a name, `Byte.filled`, and says how one more level changes it.  In the other direction a
level is looked up in the byte through a mask.

## Main definitions

* `Byte.filled`: the byte that starts with the given levels and goes on with low ones.

## Main results

* `Byte.filled_concat`: one more level is one more bit set from the top.
* `Byte.ofLevels_levels`, `Byte.levels_ofLevels`: a byte and the eight levels that carry it.
* `Byte.and_mask_ne_zero`: the bit that a mask picks out.
-/

namespace ClockChip

namespace Byte

/-- What holds of every number below 256 as a byte holds of every byte. -/
theorem forall_of_lt {p : UInt8 → Prop} (h : ∀ n < 256, p (UInt8.ofNat n)) (b : UInt8) : p b := by
  simpa using h b.toNat b.toNat_lt

/-! ### Bytes in the making -/

/-- The levels so far, from the top of the byte on, and zeros below. -/
def filled (ls : List Bool) : UInt8 := ofLevels (ls ++ List.replicate (8 - ls.length) false)

theorem filled_eq_ofLevels {ls : List Bool} (h : ls.length = 8) : filled ls = ofLevels ls := by
  simp [filled, h]

theorem ofLevels_append (ls ms : List Bool) :
    ofLevels (ls ++ ms) = ms.foldl append (ofLevels ls) := by
  simp [ofLevels]

theorem append_eq_or (b : UInt8) (level : Bool) :
    append b level = append b false ||| levelBit level := by
  simp [append]

/-- Levels behind two bytes that were put together are behind each of them. -/
theorem foldl_append_or (b x : UInt8) (n : Nat) :
    (List.replicate n false).foldl append (b ||| x)
      = (List.replicate n false).foldl append b ||| (List.replicate n false).foldl append x := by
  induction n generalizing b x with
  | zero => rfl
  | succ n ih =>
    have step : append (b ||| x) false = append b false ||| append x false := by
      simp [append, UInt8.shiftLeft_or]
    rw [List.replicate_succ, List.foldl_cons, List.foldl_cons, List.foldl_cons, step, ih]

theorem foldl_append_levelBit : ∀ k < 8, ∀ level : Bool,
    (List.replicate (7 - k) false).foldl append (levelBit level)
      = levelBit level <<< (7 - UInt8.ofNat k) := by
  decide

/-- One more level sets the highest bit that was still open. -/
theorem filled_concat {ls : List Bool} (h : ls.length < 8) (level : Bool) :
    filled (ls ++ [level]) = filled ls ||| (levelBit level <<< (7 - UInt8.ofNat ls.length)) := by
  have hnew : filled (ls ++ [level])
      = (List.replicate (7 - ls.length) false).foldl append (append (ofLevels ls) level) := by
    rw [filled, ofLevels_append, ofLevels_concat, List.length_append, List.length_singleton,
      show 8 - (ls.length + 1) = 7 - ls.length by omega]
  have hold : filled ls
      = (List.replicate (7 - ls.length) false).foldl append (append (ofLevels ls) false) := by
    rw [filled, ofLevels_append, show 8 - ls.length = 7 - ls.length + 1 by omega,
      List.replicate_succ, List.foldl_cons]
  rw [hnew, hold, append_eq_or, foldl_append_or, foldl_append_levelBit _ h]

/-! ### Whole bytes -/

/-- Every byte is one of 256, so that its eight levels can be looked at in each of them. -/
theorem ofLevels_levels : ∀ b : UInt8, ofLevels (levels b) = b :=
  forall_of_lt (by decide +kernel)

/-- Eight levels are the levels of the byte that they carry. -/
theorem levels_ofLevels {ls : List Bool} (h : ls.length = 8) : levels (ofLevels ls) = ls := by
  have all : ∀ l₇ l₆ l₅ l₄ l₃ l₂ l₁ l₀, levels (ofLevels [l₇, l₆, l₅, l₄, l₃, l₂, l₁, l₀])
      = [l₇, l₆, l₅, l₄, l₃, l₂, l₁, l₀] := by decide +kernel
  match ls, h with
  | [l₇, l₆, l₅, l₄, l₃, l₂, l₁, l₀], _ => exact all l₇ l₆ l₅ l₄ l₃ l₂ l₁ l₀

/-- The mask of the bit that is sent after `k` others picks that bit out. -/
theorem and_mask_ne_zero (b : UInt8) {k : Nat} (hk : k < 8) :
    (b &&& (1 <<< (7 - UInt8.ofNat k)) != 0) = bit b (7 - k) := by
  have all : ∀ b : UInt8, ∀ k < 8, (b &&& (1 <<< (7 - UInt8.ofNat k)) != 0) = bit b (7 - k) :=
    forall_of_lt (by decide +kernel)
  exact all b k hk

end Byte

end ClockChip
