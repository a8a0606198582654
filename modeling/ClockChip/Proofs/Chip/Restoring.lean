import ClockChip.Chip.Image
import ClockChip.Proofs.Byte.Decoding
import ClockChip.Proofs.Chip.Persistence
import ClockChip.Proofs.Wire.Position

/-!
# Images are transparent

The image of a chip can be taken at any instant, also in the middle of a byte, and any other chip
that takes it over goes on as the first one would have.  This needs two things of an image: its
bytes read back, and the chip's own check accepts it.  The first is a matter of the binary form; the
second needs what every chip keeps from its power up on, since the check is made for images from
outside.

## Main definitions

* `Chip.Savable`: the size of the memory and the position of the responder are those of a chip.

## Main results

* `Image.reads`: the bytes of an image read back.
* `Chip.follow_savable`: a chip is savable behind any line events.
* `Chip.loadImage_saveImage`: **a chip that takes over an image goes on as the chip that it was
  taken of**, whenever the offset is within bounds.
-/

namespace ClockChip

open Decoder

/-! ### The parts of an image -/

namespace VirtualClock

theorem reads_running : Reads modeDecoder (Encoding.variant 0) .running := by
  rw [← List.append_nil (Encoding.variant 0)]
  exact (reads_variant (a := false) rfl (by decide)).bind (.pure Mode.running)

theorem reads_halted (latch : Instant) :
    Reads modeDecoder (Encoding.variant 1 ++ Encoding.int64 latch) (.halted latch) :=
  (reads_variant (a := true) rfl (by decide)).bind ((reads_int64 latch).last Mode.halted)

theorem reads (v : VirtualClock) : Reads decoder v.encode v := by
  obtain ⟨offset, mode⟩ := v
  refine (reads_int64 offset).bind ?_
  cases mode with
  | running => exact reads_running.last (VirtualClock.mk offset)
  | halted latch => exact (reads_halted latch).last (VirtualClock.mk offset)

end VirtualClock

namespace Responder

/-- A phase has a number, and the number is that of the phase. -/
theorem reads_phase (phase : Phase) :
    Reads (variant Phase.all) (Encoding.variant (Phase.all.idxOf phase)) phase := by
  have hphase : Phase.all[Phase.all.idxOf phase]? = some phase := by cases phase <;> rfl
  have hnumber : Phase.all.idxOf phase < Nat.pow 256 4 := by cases phase <;> decide
  exact reads_variant hphase hnumber

theorem reads {r : Responder} (h : r.pointer < countBound) : Reads decoder r.encode r := by
  have hbytes : r.encode = Encoding.bool r.clock ++ (Encoding.bool r.data
      ++ (Encoding.variant (Phase.all.idxOf r.phase) ++ ([r.bit] ++ ([r.shift]
        ++ Encoding.count r.pointer)))) := by
    simp only [encode, List.append_assoc, List.cons_append, List.nil_append]
  rw [hbytes]
  refine (reads_bool r.clock).bind ((reads_bool r.data).bind ((reads_phase r.phase).bind ?_))
  refine (reads_byte r.bit).bind ((reads_byte r.shift).bind ?_)
  exact (reads_count h).last (Responder.mk r.clock r.data r.phase r.bit r.shift)

end Responder

namespace Bank

theorem reads {b : Bank} (h : b.ram.length < countBound) : Reads decoder b.encode b := by
  have hbytes : b.encode = Encoding.vector b.stored ++ (Encoding.vector b.snapshot
      ++ (Encoding.bytes b.ram ++ Encoding.bool b.twelveHour)) := by
    simp only [encode, List.append_assoc]
  rw [hbytes]
  refine (reads_vector b.stored).bind ((reads_vector b.snapshot).bind ((reads_bytes h).bind ?_))
  exact (reads_bool b.twelveHour).last (Bank.mk b.stored b.snapshot b.ram)

end Bank

namespace Image

/-- **The bytes of an image read back** if its memory and its pointer can be counted in 64 bits. -/
theorem reads {i : Image} (hram : i.bank.ram.length < countBound)
    (hpointer : i.responder.pointer < countBound) : Reads decoder i.encode i := by
  rw [encode, List.append_assoc]
  refine (Bank.reads hram).bind ((VirtualClock.reads i.time).bind ?_)
  exact (Responder.reads hpointer).last (Image.mk i.bank i.time)

theorem decode_encode {i : Image} (hram : i.bank.ram.length < countBound)
    (hpointer : i.responder.pointer < countBound) : decoder.decode i.encode = .ok i := by
  have hdecode := (reads hram hpointer).decode []
  rwa [List.append_nil] at hdecode

end Image

/-! ### What a chip keeps from its power up on -/

namespace Chip

variable {c : Chip}

/-- The memory of a chip has its size, and its responder can go on. -/
structure Savable (c : Chip) : Prop where
  length_ram : c.bank.ram.length = ramSize
  responder : c.responder.Sound addressCount

theorem ofContext_savable (device : String) {saved : Context}
    (h : saved.Fits ramSize registerCount) : (ofContext device saved).Savable :=
  ⟨h.1, Responder.released_sound (by decide)⟩

theorem step_savable (h : c.Savable) (clock : HostClock) (e : LineEvent) :
    (c.step clock e).Savable := by
  have hdescends : Descends c.device c.baseline c := ⟨rfl, rfl, h.length_ram⟩
  exact ⟨(step_descends hdescends clock e).length_ram,
    Responder.step_sound (f := registers clock) h.responder e (c.bank, c.time)⟩

/-- A chip is savable behind any line events under any clocks. -/
theorem follow_savable (h : c.Savable) (es : List (HostClock × LineEvent)) :
    (c.follow es).Savable := by
  induction es generalizing c with
  | nil => exact h
  | cons x es ih => exact ih (step_savable h x.1 x.2)

/-- The image of a savable chip is accepted if the offset is within bounds. -/
theorem Savable.check_image (h : c.Savable) (hbounds : OffsetInBounds c.time.offset) :
    c.image.check = .ok () := by
  have hram : c.image.bank.ram.length = ramSize := h.length_ram
  have hoffset : OffsetInBounds c.image.time.offset := hbounds
  have hresponder : c.image.responder.check addressCount = .ok () := h.responder.inRange.check
  rw [Image.check, if_neg (not_not_intro hram), if_neg (not_not_intro hoffset), hresponder]

theorem Savable.read_saveImage (h : c.Savable) (hbounds : OffsetInBounds c.time.offset) :
    Image.read c.saveImage = .ok c.image := by
  have hram : c.image.bank.ram.length < countBound := by
    show c.bank.ram.length < countBound
    rw [h.length_ram]
    decide
  have hpointer : c.image.responder.pointer < countBound :=
    Nat.lt_trans h.responder.pointer (by decide)
  have hdecode : Image.decoder.decode c.saveImage = .ok c.image :=
    Image.decode_encode hram hpointer
  rw [Image.read, hdecode]
  simp only [h.check_image hbounds]

/-! ### Going on from an image -/

/-- What an event does to an image does not depend on the rest of the chip. -/
theorem image_step {c d : Chip} (h : d.image = c.image) (clock : HostClock) (e : LineEvent) :
    (d.step clock e).image = (c.step clock e).image := by
  obtain ⟨_, bank, time, responder, _⟩ := c
  obtain ⟨_, _, _, _, _⟩ := d
  simp only [image, Image.mk.injEq] at h
  obtain ⟨rfl, rfl, rfl⟩ := h
  rfl

theorem image_follow {c d : Chip} (h : d.image = c.image) (es : List (HostClock × LineEvent)) :
    (d.follow es).image = (c.follow es).image := by
  induction es generalizing c d with
  | nil => exact h
  | cons x es ih => exact ih (image_step h x.1 x.2)

/-- Whatever its store does, a chip that is powered up starts from a context that fits. -/
theorem powerUp_savable {σ : Type} {store : Store (StateM σ)} {device : String} {x y : σ}
    (h : (powerUp store device).run x = (.ok c, y)) : c.Savable := by
  obtain ⟨found, -, rfl⟩ := exists_of_powerUp h
  exact ofContext_savable device (adopted_fits found)

/-- **A chip that takes over an image goes on as the chip that it was taken of.**  The image may be
taken behind any line events under any clocks, as long as the offset is within bounds.  Any chip
accepts it and has the same image from then on, and behind any further events both are in the same
state, send the same level and show the same time. -/
theorem loadImage_saveImage {σ : Type} {store : Store (StateM σ)} {device : String} {x y : σ}
    {c₀ : Chip} (hpower : (powerUp store device).run x = (.ok c₀, y))
    (es : List (HostClock × LineEvent)) (hbounds : OffsetInBounds (c₀.follow es).time.offset)
    (d : Chip) :
    ∃ d', d.loadImage (c₀.follow es).saveImage = .ok d'
      ∧ d'.saveImage = (c₀.follow es).saveImage
      ∧ ∀ fs, (d'.follow fs).image = ((c₀.follow es).follow fs).image
        ∧ (d'.follow fs).responder.sends = ((c₀.follow es).follow fs).responder.sends
        ∧ ∀ clock, (d'.follow fs).now clock = ((c₀.follow es).follow fs).now clock := by
  have hsavable := follow_savable (powerUp_savable hpower) es
  have himage : (d.withImage (c₀.follow es).image).image = (c₀.follow es).image := rfl
  refine ⟨d.withImage (c₀.follow es).image, ?_, congrArg Image.encode himage, fun fs => ?_⟩
  · rw [loadImage, hsavable.read_saveImage hbounds]
  · have hfollow := image_follow himage fs
    exact ⟨hfollow, congrArg (fun i => i.responder.sends) hfollow,
      fun clock => congrArg (fun i => i.time.now clock) hfollow⟩

/-- The clock is halted, and a write to the memory is broken off in the middle of a byte. -/
def brokenOff : List (HostClock × LineEvent) :=
  ((writeEvents [0x00, 0x80]).map fun e => (.plain 5 0, e))
    ++ ((writeEvents [0x10, 0x5a, 0x33]).take 100).map fun e => (.plain 77 0, e)

/-- Another chip, which has been written to, takes over five bits of that byte, and when the others
have followed it has the byte in its memory. -/
theorem loadImage_brokenOff :
    let c := (ofContext "rtc" (.blank ramSize registerCount)).follow brokenOff
    let d := (ofContext "other" (.blank ramSize registerCount)).run (.plain 9 0)
      (writeEvents [0x11, 0x44])
    let fs := ((writeEvents [0x10, 0x5a, 0x33]).drop 100).map fun e => (HostClock.plain 80 0, e)
    OffsetInBounds c.time.offset ∧ c.responder.phase = .receiving ∧ c.responder.bit = 5
      ∧ c.time.isHalted = true
      ∧ ∃ d', d.loadImage c.saveImage = .ok d' ∧ d'.saveImage = c.saveImage
        ∧ (d'.follow fs).bank.ram.take 2 = [0x5a, 0x33] := by
  intro c d fs
  have hpower : (powerUp MemoryStore.store "rtc").run .empty
      = (.ok (ofContext "rtc" (.blank ramSize registerCount)), .empty) :=
    powerUp_memory "rtc" .empty
  have hc : c = (ofContext "rtc" (.blank ramSize registerCount)).follow brokenOff := rfl
  have hoffset : c.time.offset = 0 := by decide +kernel
  have hbounds : OffsetInBounds c.time.offset := by
    rw [hoffset]
    decide
  rw [hc] at hbounds ⊢
  obtain ⟨d', hload, hsave, hfollow⟩ := loadImage_saveImage hpower brokenOff hbounds d
  have hbank := congrArg Image.bank (hfollow fs).1
  simp only [image] at hbank
  refine ⟨hbounds, ?_, ?_, ?_, d', hload, hsave, ?_⟩
  · decide +kernel
  · decide +kernel
  · decide +kernel
  · rw [hbank]
    decide +kernel

end Chip

end ClockChip
