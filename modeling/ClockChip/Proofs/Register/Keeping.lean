import ClockChip.Register.Bank

/-!
# The bytes that a bank keeps

Sixteen registers and a memory make one address space.  Behind the control register, the alarm
registers and the memory there is a byte that stays as it was written.  The seven registers between
control and alarm show the clock and a timer that stands at zero; what is written to them is not
kept.  Registers are read from a snapshot and the memory is not, but behind a START both show what
is kept.

## Main definitions

* `Keeps`: the addresses with a byte of their own.
* `Bank.kept`: that byte.

## Main results

* `Bank.kept_keep_of_not_keeps`: a write to the clock or the timer replaces no byte.
* `Bank.kept_keep`: **a write replaces the byte at its address and no other.**
* `Bank.read_latch`: behind a START that byte is read.
-/

namespace ClockChip

/-- An address with a byte of its own: the control register, an alarm register or the memory. -/
def Keeps (address : Nat) : Prop := address = 0 ∨ 8 ≤ address

instance (address : Nat) : Decidable (Keeps address) :=
  inferInstanceAs (Decidable (address = 0 ∨ 8 ≤ address))

/-- Behind the timer there are the alarm registers. -/
theorem Register.at?_alarm {address : Nat} (hlow : 8 ≤ address) (hhigh : address < 16) :
    at? address = some .alarm := by
  obtain ⟨k, rfl⟩ : ∃ k, address = k + 8 := ⟨address - 8, by omega⟩
  exact if_pos hhigh

/-- Behind the registers there is the memory. -/
theorem Register.at?_memory {address : Nat} (h : 16 ≤ address) : at? address = none := by
  obtain ⟨k, rfl⟩ : ∃ k, address = k + 8 := ⟨address - 8, by omega⟩
  exact if_neg (Nat.not_lt.mpr h)

namespace Bank

variable {b : Bank} {a address : Nat}

/-! ### The size of the memory -/

@[simp] theorem ram_store (b : Bank) (address : Nat) (val : UInt8) :
    (b.store address val).ram = b.ram := by
  unfold store
  split <;> rfl

/-- Bytes of the memory are replaced, never added or taken away. -/
theorem length_ram_keep (b : Bank) (address : Nat) (val : UInt8) :
    (b.keep address val).ram.length = b.ram.length := by
  unfold keep
  split
  · rw [ram_store]
  · rw [ram_store]
  · rfl
  · rfl
  · exact List.length_set

/-! ### Bytes -/

/-- The byte behind an address. -/
def kept (b : Bank) (address : Nat) : UInt8 :=
  if h : address < 16 then b.stored[address] else b.ram.getD (address - 16) 0

theorem kept_store (h : address < 16) (val : UInt8) :
    (b.store address val).kept a = if address = a then val else b.kept a := by
  rw [store, dif_pos h]
  by_cases ha : a < 16
  · simp only [kept, dif_pos ha, Vector.getElem_set]
  · have hne : address ≠ a := by omega
    rw [if_neg hne, kept, kept, dif_neg ha, dif_neg ha]

theorem kept_storeRam (hmemory : 16 ≤ address) (hsize : address < b.size) (val : UInt8) :
    (b.storeRam address val).kept a = if address = a then val else b.kept a := by
  by_cases ha : a < 16
  · have hne : address ≠ a := by omega
    rw [if_neg hne, kept, kept, dif_pos ha, dif_pos ha]
    rfl
  · have hlen : address - 16 < b.ram.length := by
      rw [size, registerCount] at hsize
      omega
    have hindex : address - 16 = a - 16 ↔ address = a := by omega
    simp only [kept, dif_neg ha, storeRam, List.getD_eq_getElem?_getD, List.getElem?_set, hlen,
      hindex, if_true]
    split <;> rfl

/-- What is written to an address that keeps nothing replaces no byte at all. -/
theorem kept_keep_of_not_keeps (h : ¬ Keeps address) (val : UInt8) :
    (b.keep address val).kept a = b.kept a := by
  have hregister : address = 1 ∨ address = 2 ∨ address = 3 ∨ address = 4 ∨ address = 5
      ∨ address = 6 ∨ address = 7 := by
    unfold Keeps at h
    omega
  -- of the bank at most the mode changes, which is no byte
  rcases hregister with rfl | rfl | rfl | rfl | rfl | rfl | rfl
  all_goals rfl

theorem kept_keep_of_keeps (h : Keeps address) (hsize : address < b.size) (val : UInt8) :
    (b.keep address val).kept a = if address = a then val else b.kept a := by
  rcases h with rfl | h
  · exact kept_store (by decide) val
  · by_cases halarm : address < 16
    · have hkeep : b.keep address val = b.store address val := by
        rw [keep, Register.at?_alarm h halarm]
      rw [hkeep, kept_store halarm]
    · have hmemory : 16 ≤ address := Nat.not_lt.mp halarm
      have hkeep : b.keep address val = b.storeRam address val := by
        rw [keep, Register.at?_memory hmemory]
      rw [hkeep, kept_storeRam hmemory hsize]

/-- **A write replaces the byte at its address and no other**, as far as bytes are kept. -/
theorem kept_keep (hkeeps : Keeps a) (hsize : address < b.size) (val : UInt8) :
    (b.keep address val).kept a = if address = a then val else b.kept a := by
  by_cases h : Keeps address
  · exact kept_keep_of_keeps h hsize val
  · have hne : address ≠ a := by
      rintro rfl
      exact h hkeeps
    rw [kept_keep_of_not_keeps h, if_neg hne]

@[simp] theorem kept_latch (b : Bank) (v : VirtualClock) (clock : HostClock) (address : Nat) :
    (b.latch v clock).kept address = b.kept address := rfl

/-- Behind a START a register shows the byte that it keeps, and the memory always does. -/
theorem read_latch (hkeeps : Keeps a) (v : VirtualClock) (clock : HostClock) :
    (b.latch v clock).read a = b.kept a := by
  by_cases ha : a < 16
  · have hregister : a = 0 ∨ a = 8 ∨ a = 9 ∨ a = 10 ∨ a = 11 ∨ a = 12 ∨ a = 13 ∨ a = 14
        ∨ a = 15 := by
      unfold Keeps at hkeeps
      omega
    rcases hregister with rfl | rfl | rfl | rfl | rfl | rfl | rfl | rfl | rfl
    all_goals rfl
  · rw [read, kept, dif_neg ha, dif_neg ha, ram_latch]

/-- The timer is not kept. -/
theorem read_latch_timerDays (b : Bank) (v : VirtualClock) (clock : HostClock) :
    (b.latch v clock).read 7 = 0 := rfl

end Bank

end ClockChip
