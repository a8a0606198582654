import ClockChip.Wire.Controller

/-!
# Controllers on related wires

A controller sees nothing of a device but the data line.  If the states of one wire are translated
to states of another so that events and looks at the line agree, every transfer on the first wire
is therefore the same transfer on the second, with the same outcome.

## Main definitions

* `Wire.Translates`: events and looks commute with a translation of states.

## Main results

* `Wire.Translates.writeBurst`, `Wire.Translates.readBurst`: **whole transfers commute with it.**
-/

namespace ClockChip

namespace Wire

variable {σ τ : Type}

/-- A translation of states that keeps what a controller does and sees. -/
structure Translates (w : Wire σ) (v : Wire τ) (φ : σ → τ) : Prop where
  drive : ∀ e s, v.drive e (φ s) = φ (w.drive e s)
  sample : ∀ s, v.sample (φ s) = Prod.map id φ (w.sample s)

namespace Translates

variable {w : Wire σ} {v : Wire τ} {φ : σ → τ}

theorem driveAll (h : w.Translates v φ) (es : List LineEvent) (s : σ) :
    v.driveAll es (φ s) = φ (w.driveAll es s) := by
  induction es generalizing s with
  | nil => rfl
  | cons e es ih => rw [driveAll_cons, driveAll_cons, h.drive, ih]

theorem start (h : w.Translates v φ) (s : σ) : v.start (φ s) = φ (w.start s) := h.driveAll _ s

theorem stop (h : w.Translates v φ) (s : σ) : v.stop (φ s) = φ (w.stop s) := h.driveAll _ s

theorem sendByte (h : w.Translates v φ) (b : UInt8) (s : σ) :
    v.sendByte b (φ s) = Prod.map id φ (w.sendByte b s) := by
  simp only [Wire.sendByte, h.driveAll, h.sample, Prod.map_fst, Prod.map_snd, h.drive]
  rfl

theorem readLevels (h : w.Translates v φ) (n : Nat) (s : σ) :
    v.readLevels n (φ s) = Prod.map id φ (w.readLevels n s) := by
  induction n generalizing s with
  | zero => rfl
  | succ n ih =>
    simp only [Wire.readLevels, h.drive, h.sample, Prod.map_fst, Prod.map_snd, ih]
    rfl

theorem receiveByte (h : w.Translates v φ) (ack : Bool) (s : σ) :
    v.receiveByte ack (φ s) = Prod.map id φ (w.receiveByte ack s) := by
  simp only [Wire.receiveByte, h.drive, h.readLevels, Prod.map_fst, Prod.map_snd, h.driveAll]
  rfl

theorem sendBytes (h : w.Translates v φ) (bs : List UInt8) (s : σ) :
    v.sendBytes bs (φ s) = Prod.map id φ (w.sendBytes bs s) := by
  induction bs generalizing s with
  | nil => rfl
  | cons b bs ih =>
    simp only [Wire.sendBytes, h.sendByte, Prod.map_fst, Prod.map_snd, ih, id]
    split <;> rfl

theorem receiveBytes (h : w.Translates v φ) (n : Nat) (s : σ) :
    v.receiveBytes n (φ s) = Prod.map id φ (w.receiveBytes n s) := by
  induction n generalizing s with
  | zero => rfl
  | succ n ih =>
    simp only [Wire.receiveBytes, h.receiveByte, Prod.map_fst, Prod.map_snd, ih]
    rfl

theorem writeBurst (h : w.Translates v φ) (pointer : UInt8) (vals : List UInt8) (s : σ) :
    v.writeBurst pointer vals (φ s) = Prod.map id φ (w.writeBurst pointer vals s) := by
  simp only [Wire.writeBurst, h.start, h.stop, h.sendByte, h.sendBytes, Prod.map_fst,
    Prod.map_snd, id]
  split <;> rfl

theorem readBurst (h : w.Translates v φ) (pointer : UInt8) (n : Nat) (s : σ) :
    v.readBurst pointer n (φ s) = Prod.map id φ (w.readBurst pointer n s) := by
  simp only [Wire.readBurst, h.start, h.stop, h.sendByte, h.receiveBytes, Prod.map_fst,
    Prod.map_snd, id]
  -- the address, the pointer and the length decide how far the transfer goes
  split
  · split
    · split
      · rfl
      · split <;> rfl
    · rfl
  · rfl

end Translates

end Wire

end ClockChip
