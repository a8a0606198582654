import ClockChip.Chip.Basic
import ClockChip.Proofs.Wire.Burst
import ClockChip.Proofs.Wire.Translation

/-!
# Transfers to and from a chip

While the host clock stands still, a chip on its lines is a responder in front of its bank and its
virtual clock; the rest of the chip takes no part.  A transfer with a chip is therefore the
transfer with that responder, and this module reads off what it does to the chip.

## Main definitions

* `Chip.withParts`: a chip with another responder, bank and clock.

## Main results

* `Chip.writeBurst_eq_latch_write`: **a burst of writes latches once, stores its bytes in order and
  leaves the lines released**, whatever the responder was doing.
* `Chip.readBurst_eq_shown`: **a burst of reads returns one snapshot and the memory behind it** and
  changes nothing that the battery would keep.
-/

namespace ClockChip

namespace Chip

/-- The chip with another responder, bank and virtual clock. -/
def withParts (c : Chip) (x : Responder × Bank × VirtualClock) : Chip :=
  { c with responder := x.1, bank := x.2.1, time := x.2.2 }

/-- The wire of a chip is that of its responder. -/
theorem wire_translates (clock : HostClock) (c : Chip) :
    (Responder.wire (registers clock)).Translates (wire clock) c.withParts :=
  ⟨fun _ _ => rfl, fun _ => rfl⟩

/-- A burst of writes takes a chip in any state to the same chip with one snapshot latched, the
bytes written from the pointer on in order, and a released responder with its pointer behind the
last byte. -/
theorem writeBurst_eq_latch_write (clock : HostClock) (pointer : UInt8) (vals : List UInt8)
    (c : Chip) :
    let written := (vals.zipIdx pointer.toNat).foldl
      (fun parts x => parts.1.write parts.2 clock (x.2 % addressCount) x.1)
      (c.bank.latch c.time clock, c.time)
    (wire clock).writeBurst pointer vals c =
      (.ok (), { c with
        bank := written.1
        time := written.2
        responder := { Responder.released with
          pointer := (pointer.toNat + vals.length) % addressCount } }) := by
  have hburst :=
    Responder.writeBurst_wire (registers clock) pointer vals c.responder (c.bank, c.time)
  have hsame := (wire_translates clock c).writeBurst pointer vals (c.responder, c.bank, c.time)
  rw [hburst] at hsame
  exact hsame

theorem read_registers (clock : HostClock) (s : Bank × VirtualClock) (address : Nat) :
    ((registers clock).read s address).2 = s := rfl

/-- A burst of `n` reads returns, for an address below sixteen, what the registers show at its
START, and the memory for the others.  The chip is left with that snapshot and a responder that
points at the byte that was read last. -/
theorem readBurst_eq_shown (clock : HostClock) (pointer : UInt8) (n : Nat) (c : Chip) :
    let shown := c.bank.shown clock (c.now clock)
    ∃ bit shift,
      let after := { c with
        bank := { c.bank with snapshot := shown }
        responder := ⟨true, true, .idle, bit, shift,
          if n = 0 then pointer.toNat else (pointer.toNat + n - 1) % addressCount⟩ }
      (wire clock).readBurst pointer n c =
        (.ok ((List.range n).map fun i =>
          let address := (pointer.toNat + i) % addressCount
          if h : address < 16 then shown[address] else c.bank.ram.getD (address - 16) 0), after)
      ∧ after.context = c.context ∧ after.hasUnsaved = c.hasUnsaved := by
  obtain ⟨bit, shift, hburst⟩ :=
    Responder.readBurst_wire (registers clock) pointer n c.responder (c.bank, c.time)
  have hsame := (wire_translates clock c).readBurst pointer n (c.responder, c.bank, c.time)
  rw [hburst] at hsame
  cases n with
  | zero =>
    have hpointer : pointer.toNat % addressCount = pointer.toNat :=
      Nat.mod_eq_of_lt pointer.toNat_lt
    refine ⟨0, 0, ?_, rfl, rfl⟩
    rw [if_pos rfl] at hsame ⊢
    refine hsame.trans ?_
    rw [show (registers clock).count = addressCount from rfl, hpointer]
    rfl
  | succ n =>
    refine ⟨bit, shift, ?_, rfl, rfl⟩
    rw [if_neg (Nat.succ_ne_zero n), RegisterMap.readAll_of_quiet (read_registers clock)] at hsame
    rw [if_neg (Nat.succ_ne_zero n)]
    exact hsame

end Chip

end ClockChip
