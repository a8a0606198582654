import ClockChip.Proofs.Wire.Agreement
import ClockChip.Proofs.Wire.Position

/-!
# How far a responder has come with a byte

The check of a restored responder accepts more positions than a responder comes to by itself.  From
released lines on, the phase says nearly everything about the bit count: it is at most seven while
bits pass, eight while a byte is acknowledged, and zero behind a START.  While a byte is taken in,
those of its bits that have not passed are still zero, since every phase that takes one in is
entered with an empty byte.  Where a transfer breaks off the count stays as it is, and nothing looks
at it there.

## Main definitions

* `Phase.acknowledges`: the five phases in which a byte is acknowledged.
* `Responder.Unfilled`: the bits that have not passed are zero.
* `Responder.Regular`: a position that a responder comes to by itself.

## Main results

* `Responder.unfilled_takeBit`: one more bit leaves those behind it zero.
* `Responder.step_regular`: **every line event keeps a position regular.**
-/

namespace ClockChip

namespace Phase

/-- A byte is acknowledged, by the responder or by the controller. -/
def acknowledges : Phase → Bool
  | writeChosen | readChosen | pointed | sent | received => true
  | _ => false

theorem shifts_of_takesIn {phase : Phase} (h : phase.takesIn = true) : phase.shifts = true := by
  cases phase <;> simp_all [takesIn, shifts]

end Phase

namespace Byte

theorem bit_or (a b : UInt8) (i : Nat) : bit (a ||| b) i = (bit a i || bit b i) := by
  simp [bit]

/-- A level that is set behind `k` others leaves the bits below it alone. -/
theorem bit_levelBit_below : ∀ k < 8, ∀ i < 7 - k, ∀ level : Bool,
    bit (levelBit level <<< (7 - UInt8.ofNat k)) i = false := by
  decide

end Byte

namespace Responder

variable {σ : Type}

/-- The bits of the byte that have not passed are zero. -/
def Unfilled (r : Responder) : Prop := ∀ i < 8 - r.bit.toNat, Byte.bit r.shift i = false

/-- A position in front of `count` registers that a responder comes to by itself. -/
structure Regular (count : Nat) (r : Responder) : Prop where
  /-- The pointer is one of the registers. -/
  pointer : r.pointer < count
  /-- There is room for the bit that passes next. -/
  shifting : r.phase.shifts = true → r.bit ≤ 7
  /-- A byte that is acknowledged is complete. -/
  acknowledging : r.phase.acknowledges = true → r.bit = 8
  /-- No bit has passed since the START. -/
  started : r.phase = .started → r.bit = 0
  /-- The bits that have not passed are zero while a byte is taken in, or is about to be. -/
  unfilled : r.phase = .started ∨ r.phase.takesIn = true → r.Unfilled

/-! ### Positions by their phase -/

section

variable {count : Nat} {r : Responder}

theorem regular_of_idle (hpointer : r.pointer < count) (hphase : r.phase = .idle) :
    Regular count r := by
  refine ⟨hpointer, ?_, ?_, ?_, ?_⟩ <;>
    simp [hphase, Phase.shifts, Phase.acknowledges, Phase.takesIn]

theorem regular_of_acknowledges (hpointer : r.pointer < count)
    (hphase : r.phase.acknowledges = true) (hbit : r.bit = 8) : Regular count r := by
  refine ⟨hpointer, ?_, fun _ => hbit, ?_, ?_⟩ <;>
    cases hp : r.phase <;> simp_all [Phase.shifts, Phase.acknowledges, Phase.takesIn]

theorem regular_of_takesIn (hpointer : r.pointer < count) (hphase : r.phase.takesIn = true)
    (hbit : r.bit ≤ 7) (hunfilled : r.Unfilled) : Regular count r := by
  refine ⟨hpointer, fun _ => hbit, ?_, ?_, fun _ => hunfilled⟩ <;>
    cases hp : r.phase <;> simp_all [Phase.acknowledges, Phase.takesIn]

theorem regular_of_sending (hpointer : r.pointer < count) (hphase : r.phase = .sending)
    (hbit : r.bit ≤ 7) : Regular count r := by
  refine ⟨hpointer, fun _ => hbit, ?_, ?_, ?_⟩ <;>
    simp [hphase, Phase.acknowledges, Phase.takesIn]

/-- An empty byte has nothing in it. -/
theorem unfilled_of_clear (hshift : r.shift = 0) : r.Unfilled := by
  intro i _
  simp [hshift, Byte.bit]

theorem regular_of_started (hpointer : r.pointer < count) (hphase : r.phase = .started)
    (hbit : r.bit = 0) (hshift : r.shift = 0) : Regular count r := by
  refine ⟨hpointer, ?_, ?_, fun _ => hbit, fun _ => unfilled_of_clear hshift⟩ <;>
    simp [hphase, Phase.shifts, Phase.acknowledges]

theorem released_regular (h : 0 < count) : Regular count released := regular_of_idle h rfl

end

/-! ### Steps -/

section

variable {f : RegisterMap σ} {r : Responder}

/-- One more bit leaves those behind it zero. -/
theorem unfilled_takeBit (hbit : r.bit ≤ 7) (h : r.Unfilled) : r.takeBit.Unfilled := by
  intro i hi
  have hle : r.bit.toNat ≤ 7 := UInt8.le_iff_toNat_le.mp hbit
  have hpassed : r.takeBit.bit.toNat = r.bit.toNat + 1 := toNat_bit_add_one hbit
  have hbelow := Byte.bit_levelBit_below r.bit.toNat (by omega) i (by omega) r.data
  rw [UInt8.ofNat_toNat] at hbelow
  rw [takeBit, Byte.bit_or, h i (by omega), hbelow]
  rfl

/-- A complete byte is acknowledged, unless it is the address of another device. -/
theorem byteTaken_regular (hphase : r.phase.takesIn = true) (hpointer : r.pointer < f.count)
    (hbit : r.bit = 8) (s : σ) : Regular f.count (byteTaken f r s).1 := by
  have hcount : 0 < f.count := by omega
  cases hp : r.phase <;> simp only [hp, Phase.takesIn, Bool.false_eq_true] at hphase
  case addressing =>
    simp only [byteTaken, hp, choose]
    split
    · exact regular_of_acknowledges hpointer rfl hbit
    · split
      · exact regular_of_acknowledges hpointer rfl hbit
      · exact regular_of_idle hpointer rfl
  case pointing =>
    simp only [byteTaken, hp]
    exact regular_of_acknowledges (Nat.mod_lt _ hcount) rfl hbit
  case receiving =>
    simp only [byteTaken, hp]
    exact regular_of_acknowledges (Nat.mod_lt _ hcount) rfl hbit

theorem fall_regular_of_takesIn (h : Regular f.count r) (hphase : r.phase.takesIn = true) (s : σ) :
    Regular f.count (fall f r s).1 := by
  have hbit := h.shifting (Phase.shifts_of_takesIn hphase)
  rw [fall_of_takesIn hphase]
  cases hfull : r.takeBit.complete with
  | true =>
    have hcomplete : r.takeBit.bit = 8 := by simpa [complete] using hfull
    exact byteTaken_regular (r := r.takeBit) hphase h.pointer hcomplete s
  | false =>
    have hne : r.bit + 1 ≠ 8 := by simpa [complete, takeBit] using hfull
    have hroom : r.takeBit.bit ≤ 7 := (bit_add_one hbit).2 hne
    have hunfilled := unfilled_takeBit hbit (h.unfilled (.inr hphase))
    exact regular_of_takesIn (r := r.takeBit) h.pointer hphase hroom hunfilled

theorem fall_regular_of_sending (h : Regular f.count r) (hphase : r.phase = .sending) (s : σ) :
    Regular f.count (fall f r s).1 := by
  have hbit := h.shifting (by rw [hphase]; rfl)
  rw [fall_of_sending hphase]
  cases hfull : r.passBit.complete with
  | true =>
    have hcomplete : r.bit + 1 = 8 := by simpa [complete, passBit] using hfull
    exact regular_of_acknowledges h.pointer rfl hcomplete
  | false =>
    have hne : r.bit + 1 ≠ 8 := by simpa [complete, passBit] using hfull
    exact regular_of_sending h.pointer hphase ((bit_add_one hbit).2 hne)

/-- The fall of the clock keeps a position regular, whatever the phase. -/
theorem fall_regular (h : Regular f.count r) (s : σ) : Regular f.count (fall f r s).1 := by
  have hcount : 0 < f.count := Nat.lt_of_le_of_lt (Nat.zero_le _) h.pointer
  have hempty (bit : UInt8) (hbit : bit = 0) : bit ≤ 7 := by rw [hbit]; decide
  cases hp : r.phase with
  | idle => simpa only [fall, hp] using h
  | started =>
    -- the bit count and the empty byte are handed on to the address
    simp only [fall, hp]
    exact regular_of_takesIn h.pointer rfl (hempty _ (h.started hp)) (h.unfilled (.inl hp))
  | addressing | pointing | receiving => exact fall_regular_of_takesIn h (by rw [hp]; rfl) s
  | sending => exact fall_regular_of_sending h hp s
  | writeChosen | pointed | received =>
    simp only [fall, hp]
    exact regular_of_takesIn h.pointer rfl (hempty _ rfl) (unfilled_of_clear rfl)
  | readChosen =>
    simp only [fall, hp, load]
    exact regular_of_sending h.pointer rfl (hempty _ rfl)
  | sent =>
    simp only [fall, hp]
    split
    · exact regular_of_idle h.pointer rfl
    · exact regular_of_sending (Nat.mod_lt _ hcount) rfl (hempty _ rfl)

/-- Only the levels of the lines change. -/
theorem Regular.with_lines {count : Nat} (h : Regular count r) (clock data : Bool) :
    Regular count { r with clock := clock, data := data } :=
  ⟨h.pointer, h.shifting, h.acknowledging, h.started, h.unfilled⟩

/-- **Every line event keeps a position regular.**  A START empties the byte, a STOP leads out of
it, and everything else is done by the fall of the clock. -/
theorem step_regular (h : Regular f.count r) (e : LineEvent) (s : σ) :
    Regular f.count (step f e r s).1 := by
  rcases step_cases f e r s with ⟨-, hstep⟩ | ⟨-, hstep⟩ | ⟨-, hstep⟩ | ⟨-, clock, data, hstep⟩
  · rw [hstep]
    exact fall_regular (h.with_lines false r.data) s
  · rw [hstep]
    exact regular_of_started h.pointer rfl rfl rfl
  · rw [hstep]
    exact regular_of_idle h.pointer rfl
  · rw [hstep]
    exact h.with_lines clock data

end

end Responder

end ClockChip
