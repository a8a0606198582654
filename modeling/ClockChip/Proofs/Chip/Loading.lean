import ClockChip.Proofs.Byte.Canonical
import ClockChip.Proofs.Chip.Restoring
import Mathlib.Logic.ExistsUnique

/-!
# Which images a chip takes over

Bytes from outside may be anything.  A chip takes an image over from exactly those bytes that start
with the binary form of an image that could be its own: its memory has the right size, its offset is
within bounds and its responder is accepted.  The binary form leaves no choice, so that there is
never more than one such image; what stands behind it in the bytes does not matter.

Taking an image over replaces three parts of a chip.  All that can fail is done before the first of
them is replaced, so that a chip is never left with one part of an image and not the others.

## Main definitions

* `Image.Acceptable`: an image that could be a chip's own.
* `Chip.restore`: an image taken over in place, part after part.

## Main results

* `Image.takesOnly`: an image is read from nothing but its own bytes.
* `Image.read_eq_ok_iff`: what is read from bytes.
* `Chip.run_restore`: in place, an image is taken over as a whole or not at all.
* `Chip.loadImage_iff_acceptable`: **a chip takes over exactly the acceptable images, each of them
  from its own bytes, and an attempt that fails leaves it as it was.**
-/

namespace ClockChip

open Decoder

variable {bs rest : List UInt8}

/-! ### The parts of an image -/

namespace VirtualClock

/-- A mode is read from the bytes that follow the offset of a clock. -/
theorem encode_of_run_modeDecoder {mode : Mode} (h : modeDecoder.run bs = .ok (mode, rest))
    (offset : Instant) :
    Encoding.int64 offset ++ bs = (VirtualClock.mk offset mode).encode ++ rest := by
  obtain ⟨halted, mid, hvariant, h⟩ := run_bind_eq_ok.mp h
  rw [takesOnly_variant (by decide) hvariant]
  cases halted with
  | false =>
    obtain ⟨rfl, rfl⟩ := run_pure_eq_ok.mp h
    rw [encode, List.append_assoc]
    rfl
  | true =>
    obtain ⟨latch, mid, hlatch, h⟩ := run_bind_eq_ok.mp h
    obtain ⟨rfl, rfl⟩ := run_pure_eq_ok.mp h
    rw [takesOnly_int64 hlatch, encode, List.append_assoc, List.append_assoc]
    rfl

theorem takesOnly : TakesOnly decoder encode := by
  intro bs v rest h
  obtain ⟨offset, bs₁, hoffset, h⟩ := run_bind_eq_ok.mp h
  obtain ⟨mode, bs₂, hmode, h⟩ := run_bind_eq_ok.mp h
  obtain ⟨rfl, rfl⟩ := run_pure_eq_ok.mp h
  rw [takesOnly_int64 hoffset, encode_of_run_modeDecoder hmode]

end VirtualClock

namespace Responder

theorem takesOnly : TakesOnly decoder encode := by
  intro bs r rest h
  obtain ⟨clock, bs₁, hclock, h⟩ := run_bind_eq_ok.mp h
  obtain ⟨data, bs₂, hdata, h⟩ := run_bind_eq_ok.mp h
  obtain ⟨phase, bs₃, hphase, h⟩ := run_bind_eq_ok.mp h
  obtain ⟨bit, bs₄, hbit, h⟩ := run_bind_eq_ok.mp h
  obtain ⟨shift, bs₅, hshift, h⟩ := run_bind_eq_ok.mp h
  obtain ⟨pointer, bs₆, hpointer, h⟩ := run_bind_eq_ok.mp h
  obtain ⟨rfl, rfl⟩ := run_pure_eq_ok.mp h
  rw [takesOnly_bool hclock, takesOnly_bool hdata, takesOnly_variant (by decide) hphase,
    takesOnly_byte hbit, takesOnly_byte hshift, takesOnly_count hpointer]
  simp only [encode, List.append_assoc, List.cons_append, List.nil_append]

/-- A responder takes sixteen bytes, the numbers in them with their lowest byte first. -/
example : encode ⟨true, false, .addressing, 3, 0xa0, 258⟩
    = [1, 0, 2, 0, 0, 0, 3, 0xa0, 2, 1, 0, 0, 0, 0, 0, 0] := by decide

end Responder

namespace Bank

theorem takesOnly : TakesOnly decoder encode := by
  intro bs b rest h
  obtain ⟨stored, bs₁, hstored, h⟩ := run_bind_eq_ok.mp h
  obtain ⟨snapshot, bs₂, hsnapshot, h⟩ := run_bind_eq_ok.mp h
  obtain ⟨ram, bs₃, hram, h⟩ := run_bind_eq_ok.mp h
  obtain ⟨twelveHour, bs₄, hmode, h⟩ := run_bind_eq_ok.mp h
  obtain ⟨rfl, rfl⟩ := run_pure_eq_ok.mp h
  rw [takesOnly_vector 16 hstored, takesOnly_vector 16 hsnapshot, takesOnly_bytes hram,
    takesOnly_bool hmode]
  simp only [encode, List.append_assoc]

end Bank

/-! ### Images -/

namespace Image

/-- An image is read from nothing but its own bytes. -/
theorem takesOnly : TakesOnly decoder encode := by
  intro bs i rest h
  obtain ⟨bank, bs₁, hbank, h⟩ := run_bind_eq_ok.mp h
  obtain ⟨time, bs₂, htime, h⟩ := run_bind_eq_ok.mp h
  obtain ⟨responder, bs₃, hresponder, h⟩ := run_bind_eq_ok.mp h
  obtain ⟨rfl, rfl⟩ := run_pure_eq_ok.mp h
  rw [Bank.takesOnly hbank, VirtualClock.takesOnly htime, Responder.takesOnly hresponder]
  simp only [encode, List.append_assoc]

/-- An image that could be a chip's own. -/
structure Acceptable (i : Image) : Prop where
  /-- The memory has its size. -/
  length_ram : i.bank.ram.length = ramSize
  /-- The offset is within the bounds of a saved clock. -/
  offset : OffsetInBounds i.time.offset
  /-- The responder is accepted in front of the chip's addresses. -/
  responder : i.responder.check addressCount = .ok ()

theorem check_eq_ok_iff {i : Image} : i.check = .ok () ↔ i.Acceptable := by
  rw [check]
  constructor
  · intro h
    split at h
    case isTrue => cases h
    case isFalse hram =>
      split at h
      case isTrue => cases h
      case isFalse hoffset =>
        split at h
        case h_1 => cases h
        case h_2 hresponder =>
          exact ⟨Decidable.not_not.mp hram, Decidable.not_not.mp hoffset, hresponder⟩
  · intro h
    rw [if_neg (not_not_intro h.length_ram), if_neg (not_not_intro h.offset), h.responder]

/-- The sizes of an acceptable image are so small that they are counted right. -/
theorem Acceptable.decode {i : Image} (h : i.Acceptable) (rest : List UInt8) :
    decoder.decode (i.encode ++ rest) = .ok i := by
  obtain ⟨hpointer, -⟩ := (Responder.check_eq_ok_iff i.responder addressCount).mp h.responder
  refine (reads ?_ ?_).decode rest
  · rw [h.length_ram]
    decide
  · exact Nat.lt_trans hpointer (by decide)

/-- Reading an image is decoding it and then looking at it. -/
theorem read_eq_ok_iff_decode {i : Image} :
    read bs = .ok i ↔ decoder.decode bs = .ok i ∧ i.Acceptable := by
  rw [read]
  constructor
  · intro h
    split at h
    case h_1 => cases h
    case h_2 j hdecode =>
      split at h
      case h_1 => cases h
      case h_2 hcheck =>
        cases h
        exact ⟨hdecode, check_eq_ok_iff.mp hcheck⟩
  · rintro ⟨hdecode, hacceptable⟩
    simp only [hdecode, check_eq_ok_iff.mpr hacceptable]

/-- What is read from bytes is the acceptable image at their front. -/
theorem read_eq_ok_iff {i : Image} : read bs = .ok i ↔ i.Acceptable ∧ i.encode <+: bs := by
  rw [read_eq_ok_iff_decode]
  constructor
  · rintro ⟨hdecode, hacceptable⟩
    exact ⟨hacceptable, takesOnly.encode_of_decode hdecode⟩
  · rintro ⟨hacceptable, rest, rfl⟩
    exact ⟨hacceptable.decode rest, hacceptable⟩

end Image

/-! ### Taking an image over -/

namespace Chip

variable {c d : Chip}

/-- A chip takes an image over in place.  Its parts are replaced one after the other, and an error
leaves the chip as far as it has come. -/
def restore (bs : List UInt8) : ExceptT ImageError (StateM Chip) Unit := do
  let i ← MonadExcept.ofExcept (Image.read bs)
  modify fun c => { c with bank := i.bank }
  modify fun c => { c with time := i.time }
  modify fun c => { c with responder := i.responder }

/-- In place, an image is taken over as a whole or not at all. -/
theorem run_restore (bs : List UInt8) (c : Chip) :
    (restore bs).run.run c = match c.loadImage bs with
      | .ok d => (.ok (), d)
      | .error e => (.error e, c) := by
  rw [restore, loadImage]
  cases Image.read bs <;> rfl

theorem loadImage_eq_ok_iff :
    c.loadImage bs = .ok d ↔ ∃ i, Image.read bs = .ok i ∧ c.withImage i = d := by
  rw [loadImage]
  cases Image.read bs with
  | error e => simp
  | ok i => simp

/-- Chips that differ in their images differ. -/
theorem withImage_inj {i j : Image} (h : c.withImage i = c.withImage j) : i = j :=
  congrArg image h

/-- **A chip takes over exactly the acceptable images.**  It does so if its bytes start with the
bytes of one, which is then the only one.  Bank, clock and responder are those of the image, and
everything else about the chip stays.  Carried out in place, part after part, an attempt that fails
leaves the chip as it was. -/
theorem loadImage_iff_acceptable (c : Chip) (bs : List UInt8) :
    ((∃ d, c.loadImage bs = .ok d) ↔ ∃! i : Image, i.Acceptable ∧ i.encode <+: bs)
      ∧ (∀ i : Image, c.loadImage bs
            = .ok { c with bank := i.bank, time := i.time, responder := i.responder }
          ↔ i.Acceptable ∧ i.encode <+: bs)
      ∧ (restore bs).run.run c = match c.loadImage bs with
          | .ok d => (.ok (), d)
          | .error e => (.error e, c) := by
  refine ⟨⟨?_, ?_⟩, ?_, run_restore bs c⟩
  · rintro ⟨d, hd⟩
    obtain ⟨i, hread, -⟩ := loadImage_eq_ok_iff.mp hd
    refine ⟨i, Image.read_eq_ok_iff.mp hread, fun j hj => ?_⟩
    have hsame := (Image.read_eq_ok_iff.mpr hj).symm.trans hread
    exact Except.ok.inj hsame
  · rintro ⟨i, hi, -⟩
    exact ⟨c.withImage i, loadImage_eq_ok_iff.mpr ⟨i, Image.read_eq_ok_iff.mpr hi, rfl⟩⟩
  · intro i
    rw [← Image.read_eq_ok_iff]
    constructor
    · intro h
      obtain ⟨j, hread, hj⟩ := loadImage_eq_ok_iff.mp h
      obtain rfl : j = i := withImage_inj hj
      exact hread
    · intro h
      exact loadImage_eq_ok_iff.mpr ⟨i, h, rfl⟩

end Chip

end ClockChip
