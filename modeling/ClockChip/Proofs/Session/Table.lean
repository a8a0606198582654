import ClockChip.Session.Report

/-!
# Reading a dump

The table of a dump is read by position.  Behind two lines for the time and the control register
there is one line for each sixteen addresses: the first address, a colon and a space, and then two
digits for each byte with a space between them.

## Main definitions

* `Report.rowOf`: the line of a dump that shows an address.
* `Report.Shows`: a dump shows a byte at an address.

## Main results

* `Report.take_drop_row`: the digits of one byte of a row.
* `Report.dump_shows`: **a dump shows each byte at its address.**
-/

namespace ClockChip

namespace Report

/-! ### Rows -/

/-- Pieces of two characters with one between them are found three characters apart. -/
theorem take_drop_intercalate (sep : Char) {pieces : List (List Char)}
    (h : ∀ piece ∈ pieces, piece.length = 2) {j : Nat} (hj : j < pieces.length) :
    (([sep].intercalate pieces).drop (3 * j)).take 2 = pieces[j] := by
  induction pieces generalizing j with
  | nil => cases hj
  | cons piece pieces ih =>
    have hpiece : piece.length = 2 := h piece (List.mem_cons_self ..)
    have hrest := fun p hp => h p (List.mem_cons_of_mem piece hp)
    cases pieces with
    | nil =>
      obtain rfl : j = 0 := by simpa using hj
      rw [List.intercalate_singleton, Nat.mul_zero, List.drop_zero,
        List.take_of_length_le (Nat.le_of_eq hpiece)]
      rfl
    | cons next pieces =>
      rw [List.intercalate_cons_cons]
      cases j with
      | zero => simp [hpiece]
      | succ j =>
        have hlen : (piece ++ [sep]).length = 3 := by rw [List.length_append, hpiece]; rfl
        rw [Nat.mul_succ, Nat.add_comm, ← List.drop_drop, ← hlen, List.drop_left, hlen,
          ih hrest (Nat.lt_of_succ_lt_succ hj)]
        rfl

theorem toList_row (address : Nat) (bytes : List UInt8) :
    (row address bytes).toList
      = (Hex.byte (UInt8.ofNat address) ++ [':', ' '])
        ++ [' '].intercalate (bytes.map Hex.byte) := by
  have hsep : (" " : String).toList = [' '] := rfl
  have hcolon : (": " : String).toList = [':', ' '] := rfl
  rw [row, String.toList_append, String.toList_append, String.toList_ofList, hcolon,
    String.toList_intercalate, hsep, List.map_map]
  congr 3
  exact funext fun b => String.toList_ofList

/-- A row starts with the address of its first byte. -/
theorem take_row (address : Nat) (bytes : List UInt8) :
    (row address bytes).toList.take 4 = Hex.byte (UInt8.ofNat address) ++ [':', ' '] := by
  rw [toList_row]
  rfl

/-- The digits of one byte of a row. -/
theorem take_drop_row (address : Nat) {bytes : List UInt8} {j : Nat} (hj : j < bytes.length) :
    ((row address bytes).toList.drop (4 + 3 * j)).take 2 = Hex.byte bytes[j] := by
  have hfront : (Hex.byte (UInt8.ofNat address) ++ [':', ' ']).length = 4 := rfl
  rw [toList_row, ← List.drop_drop, ← hfront, List.drop_left,
    take_drop_intercalate ' ' (by simp [Hex.byte]) (by simpa using hj), List.getElem_map]

/-! ### Dumps -/

/-- The line of a dump that shows an address. -/
def rowOf (lines : List String) (address : Nat) : List Char :=
  (lines.getD (2 + address / 16) "").toList

/-- A dump shows a byte at an address: in the row that starts with the multiple of sixteen below it,
at the place of the remainder. -/
structure Shows (lines : List String) (address : Nat) (b : UInt8) : Prop where
  label : (rowOf lines address).take 4
    = Hex.byte (UInt8.ofNat (16 * (address / 16))) ++ [':', ' ']
  digits : ((rowOf lines address).drop (4 + 3 * (address % 16))).take 2 = Hex.byte b

theorem exists_time? {bytes : List UInt8} (h : 7 ≤ bytes.length) :
    ∃ line, time? bytes = some line := by
  match bytes, h with
  | _ :: _ :: _ :: _ :: _ :: _ :: _ :: _, _ => exact ⟨_, rfl⟩

/-- **A dump of an address space shows each byte at its address.** -/
theorem dump_shows {bytes : List UInt8} (h : bytes.length = addressCount) :
    ∃ lines, dump bytes = some lines ∧ ∀ a (ha : a < bytes.length), Shows lines a bytes[a] := by
  have hlen : bytes.length = 256 := h
  obtain ⟨line, htime⟩ := exists_time? (show 7 ≤ bytes.length by omega)
  refine ⟨line :: control (bytes.headD 0) :: table bytes, by rw [dump, htime]; rfl, ?_⟩
  intro a ha
  have hrow : rowOf (line :: control (bytes.headD 0) :: table bytes) a
      = (row (16 * (a / 16)) ((bytes.drop (16 * (a / 16))).take 16)).toList := by
    have hi : a / 16 < 16 := by omega
    rw [rowOf, Nat.add_comm]
    simp [table, hi]
  have hj : a % 16 < ((bytes.drop (16 * (a / 16))).take 16).length := by
    rw [List.length_take, List.length_drop]
    omega
  constructor
  · rw [hrow, take_row]
  · rw [hrow, take_drop_row _ hj, List.getElem_take, List.getElem_drop]
    simp only [Nat.div_add_mod]

end Report

end ClockChip
