import ClockChip.Proofs.Calendar.Range
import ClockChip.Proofs.Chip.LinearMemory
import ClockChip.Proofs.Register.Independence

/-!
# A chip whose clock was never set

As long as nothing is written to the five clock registers, the clock of a chip runs along with the
host's, or stands at the host time at which it was halted.  Its offset stays zero: halting does not
move it, and under one host clock there is nothing to make up for when it is resumed.  What the
battery would keep is then made of bytes alone, those behind the addresses that keep one, and a
burst replaces just those that it writes.

## Main definitions

* `SetsClock`, `PastClock`: the addresses of the clock, and bursts that write to none of them.
* `Context.unset`: the context that is made of given bytes.
* `Unset`: a bank and a virtual clock that was never set.

## Main results

* `Unset.write`, `Unset.writeAll`: one write, and a burst, leave the clock unset.
* `Chip.context_writeBurst`: **what the battery would keep behind a burst past the clock.**
-/

namespace ClockChip

/-! ### Addresses and contexts -/

/-- What is written to the address sets the clock. -/
def SetsClock (address : Nat) : Prop := 2 ≤ address ∧ address ≤ 6

instance (address : Nat) : Decidable (SetsClock address) :=
  inferInstanceAs (Decidable (2 ≤ address ∧ address ≤ 6))

/-- None of the addresses of a burst sets the clock. -/
def PastClock (start n : Nat) : Prop := ∀ i < n, ¬ SetsClock ((start + i) % addressCount)

instance (start n : Nat) : Decidable (PastClock start n) :=
  inferInstanceAs (Decidable (∀ i < n, ¬ SetsClock ((start + i) % addressCount)))

theorem PastClock.tail {start n : Nat} (h : PastClock start (n + 1)) : PastClock (start + 1) n := by
  intro i hi
  have hnext : start + 1 + i = start + (i + 1) := by omega
  rw [hnext]
  exact h (i + 1) (by omega)

/-- The context of a chip whose clock was never set, with given bytes at the addresses that keep
one. -/
def Context.unset (f : Nat → UInt8) : Context where
  ram := (List.range ramSize).map fun i => f (registerCount + i)
  registers := (List.range registerCount).map fun a => if Keeps a then f a else 0
  offset := 0

theorem Context.unset_fits (f : Nat → UInt8) : (unset f).Fits ramSize registerCount := by
  refine ⟨by simp [unset], by simp [unset], ?_⟩
  show OffsetInBounds 0
  decide

/-- The context is made of the bytes at the addresses that keep one, and of no others. -/
theorem Context.unset_congr {f g : Nat → UInt8} (h : ∀ a < addressCount, Keeps a → f a = g a) :
    unset f = unset g := by
  rw [unset, unset, Context.mk.injEq]
  refine ⟨List.map_congr_left fun i hi => ?_, List.map_congr_left fun a ha => ?_, rfl⟩
  · have hi : i < 240 := List.mem_range.mp hi
    refine h _ ?_ (.inr ?_)
    · show 16 + i < 256
      omega
    · show 8 ≤ 16 + i
      omega
  · have ha : a < 16 := List.mem_range.mp ha
    by_cases hkeeps : Keeps a
    · rw [if_pos hkeeps, if_pos hkeeps, h a (show a < 256 by omega) hkeeps]
    · rw [if_neg hkeeps, if_neg hkeeps]

/-- Blank contexts are made of zeros. -/
theorem Context.unset_zero : unset (fun _ => 0) = blank ramSize registerCount := by
  simp [unset, blank, List.map_const']

/-! ### Clocks at offset zero -/

/-- A virtual clock that was never set, and that was not halted before the present host time. -/
structure VirtualClock.Fresh (clock : HostClock) (v : VirtualClock) : Prop where
  offset_eq : v.offset = 0
  mode_eq : v.mode = .running ∨ v.mode = .halted (clock.latch 0)

namespace VirtualClock.Fresh

variable {clock : HostClock} {v : VirtualClock}

theorem halt (h : v.Fresh clock) : (v.halt clock).Fresh clock := by
  rcases h.mode_eq with hmode | hmode
  · refine ⟨?_, .inr ?_⟩ <;> simp [VirtualClock.halt, hmode, h.offset_eq]
  · rw [VirtualClock.halt, hmode]
    exact h

/-- A clock that goes on at the host time at which it was halted has lost no time. -/
theorem resume (h : v.Fresh clock) : (v.resume clock).Fresh clock := by
  rcases h.mode_eq with hmode | hmode
  · rw [VirtualClock.resume, hmode]
    exact h
  · rw [VirtualClock.resume, hmode, h.offset_eq]
    refine ⟨?_, .inl rfl⟩
    rw [offset_running, Instant.minus_zero, Instant.minus_self, Instant.minus_zero]

/-- Beside the five clock registers only the control register drives the clock. -/
theorem drive (h : v.Fresh clock) {address : Nat} (hpast : ¬ SetsClock address) (val : UInt8) :
    (Bank.drive address val v clock).Fresh clock := by
  by_cases hcontrol : address = 0
  · subst hcontrol
    cases hbit : Byte.bit val haltBit with
    | false => simpa [Bank.drive, Register.at?, Bank.setTime, haltIf, hbit] using h.resume
    | true => simpa [Bank.drive, Register.at?, Bank.setTime, haltIf, hbit] using h.halt
  · have hquiet : ¬ DrivesClock address := not_or.mpr ⟨hcontrol, hpast⟩
    rw [Bank.drive_of_not_drivesClock hquiet]
    exact h

end VirtualClock.Fresh

/-! ### Banks beside them -/

/-- A bank with its whole memory beside a clock that was never set.  No byte is behind the clock
registers and the timer. -/
structure Unset (clock : HostClock) (s : Bank × VirtualClock) : Prop where
  fresh : s.2.Fresh clock
  size_eq : s.1.size = addressCount
  kept_eq : ∀ a, ¬ Keeps a → s.1.kept a = 0

namespace Unset

variable {clock : HostClock} {s : Bank × VirtualClock}

/-- A START latches, which changes nothing that is kept. -/
theorem latch (h : Unset clock s) (v : VirtualClock) : Unset clock (s.1.latch v clock, s.2) :=
  ⟨h.fresh, h.size_eq, h.kept_eq⟩

/-- **One write leaves the clock unset.** -/
theorem write (h : Unset clock s) {start : Nat} (hpast : ¬ SetsClock (start % addressCount))
    (val : UInt8) : Unset clock (s.1.write s.2 clock (start % addressCount) val) where
  fresh := h.fresh.drive hpast val
  size_eq := by
    show (s.1.keep _ val).size = addressCount
    rw [Bank.size, Bank.length_ram_keep]
    exact h.size_eq
  kept_eq := by
    intro a ha
    show (s.1.keep _ val).kept a = 0
    by_cases haddress : Keeps (start % addressCount)
    · have hsize : start % addressCount < s.1.size := by
        rw [h.size_eq]
        exact Nat.mod_lt _ (by decide)
      have hne : start % addressCount ≠ a := by
        rintro rfl
        exact ha haddress
      rw [Bank.kept_keep_of_keeps haddress hsize, if_neg hne, h.kept_eq a ha]
    · rw [Bank.kept_keep_of_not_keeps haddress, h.kept_eq a ha]

/-- **A burst leaves the clock unset.** -/
theorem writeAll (h : Unset clock s) {start : Nat} {vals : List UInt8}
    (hpast : PastClock start vals.length) :
    Unset clock ((Chip.registers clock).writeAll start vals s) := by
  induction vals generalizing start s with
  | nil => exact h
  | cons val vals ih =>
    rw [RegisterMap.writeAll_cons]
    exact ih (h.write (hpast 0 (Nat.succ_pos _)) val) hpast.tail

end Unset

/-! ### What the battery would keep -/

namespace Chip

variable {clock : HostClock} {c : Chip}

/-- The context of a chip whose clock was never set is made of the bytes that its bank keeps. -/
theorem context_of_unset (h : Unset clock (c.bank, c.time)) :
    c.context = .unset c.bank.kept := by
  have hlen : c.bank.ram.length = ramSize := by
    have hsize := h.size_eq
    rw [Bank.size, addressCount] at hsize
    exact Nat.add_left_cancel hsize
  rw [context, Context.unset, Context.mk.injEq]
  refine ⟨List.ext_getElem (by simp [hlen]) fun i hi hi' => ?_,
    List.ext_getElem (by simp [registerCount]) fun a ha ha' => ?_, h.fresh.offset_eq⟩
  · have hmemory : ¬ registerCount + i < 16 := by
      unfold registerCount
      omega
    rw [List.getElem_map, List.getElem_range, Bank.kept, dif_neg hmemory]
    simp [registerCount, hi]
  · have ha : a < 16 := by simpa [registerCount] using ha'
    rw [List.getElem_map, List.getElem_range, Vector.getElem_toList]
    have hkept : c.bank.kept a = c.bank.stored[a] := by rw [Bank.kept, dif_pos ha]
    by_cases hkeeps : Keeps a
    · rw [if_pos hkeeps, hkept]
    · rw [if_neg hkeeps, ← hkept]
      exact h.kept_eq a hkeeps

/-- A chip that starts from such a context keeps the bytes that the context is made of. -/
theorem kept_ofContext (device : String) (f : Nat → UInt8) {a : Nat} (ha : a < addressCount) :
    (ofContext device (.unset f)).bank.kept a = if Keeps a then f a else 0 := by
  have ha : a < 256 := ha
  by_cases hregister : a < 16
  · rw [Bank.kept, dif_pos hregister]
    simp [ofContext, Bank.ofStored, Context.unset, registerCount]
  · have hkeeps : Keeps a := .inr (by omega)
    have hindex : 16 + (a - 16) = a := by omega
    rw [Bank.kept, dif_neg hregister, if_pos hkeeps]
    simp [ofContext, Bank.ofStored, Context.unset, registerCount, ramSize, hindex,
      show a - 16 < 240 by omega]

theorem ofContext_unset (clock : HostClock) (device : String) (f : Nat → UInt8) :
    Unset clock ((ofContext device (.unset f)).bank, (ofContext device (.unset f)).time) where
  fresh := ⟨rfl, .inl rfl⟩
  size_eq := by simp [Bank.size, ofContext, Bank.ofStored, Context.unset, addressCount]
  kept_eq := by
    intro a ha
    have hlow : a < addressCount := by
      unfold Keeps at ha
      show a < 256
      omega
    rw [kept_ofContext device f hlow, if_neg ha]

/-- **A burst past the clock replaces the bytes that it writes**, the last one at each address, in
what the battery would keep. -/
theorem context_writeBurst (clock : HostClock) (device : String) (f : Nat → UInt8)
    {pointer : UInt8} {vals : List UInt8} (h : PastClock pointer.toNat vals.length) :
    ((wire clock).writeBurst pointer vals (ofContext device (.unset f))).2.context
      = .unset fun a => (bytesAt a pointer.toNat vals).getLastD (f a) := by
  have hopen := ofContext_unset clock device f
  have hlatched := hopen.latch (ofContext device (.unset f)).time
  have hparts := parts_writeBurst clock pointer vals (ofContext device (.unset f))
  generalize ((wire clock).writeBurst pointer vals (ofContext device (.unset f))).2 = c
    at hparts ⊢
  have hwritten := hlatched.writeAll h
  rw [← hparts] at hwritten
  rw [context_of_unset hwritten]
  refine Context.unset_congr fun a ha hkeeps => ?_
  have hkept := (kept_writeAll clock hkeeps pointer.toNat vals hlatched.size_eq).1
  rw [← hparts, Bank.kept_latch, kept_ofContext device f ha, if_pos hkeeps] at hkept
  exact hkept

end Chip

end ClockChip
