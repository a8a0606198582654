import ClockChip.Proofs.Chip.Loading
import ClockChip.Proofs.Wire.Progress

/-!
# What holds of every chip in use

A chip comes into being when it is powered up.  From then on line events happen under a host clock
that moves as it likes, changes are saved, and images of other chips are taken over.  Nothing is
assumed about the store: it may find a context of any size, refuse, or answer differently each time.
Nor is anything assumed about the host clock, whose answers may be anything.

Whatever happens, the memory keeps its size and the responder stays in a position that it comes to
by itself.  So a chip never reaches behind its memory and never shifts by more than a byte is wide.

## Main definitions

* `Chip.Reachable`: a chip that was powered up and then used.
* `Chip.InOrder`: the invariant of such a chip.
* `Chip.calls`: the calls that a chip's responder makes at an event.

## Main results

* `Chip.step_inOrder`, `Chip.saveChanges_inOrder`, `Chip.loadImage_inOrder`: each kind of use keeps
  the invariant.
* `Chip.inOrder_of_reachable`: **a chip in use is in order, and no event reaches an address that it
  does not have.**
-/

namespace ClockChip

namespace Chip

variable {c d : Chip}

/-- A chip that was powered up and then used. -/
inductive Reachable : Chip → Prop where
  /-- A chip is powered up with any store. -/
  | powerUp {σ : Type} {store : Store (StateM σ)} {device : String} {x y : σ} {c : Chip}
      (h : (powerUp store device).run x = (.ok c, y)) : Reachable c
  /-- A line is set to a level under any host clock. -/
  | step {c : Chip} (h : Reachable c) (clock : HostClock) (e : LineEvent) :
      Reachable (c.step clock e)
  /-- Changes are saved, in any store and whether or not it takes them. -/
  | saveChanges {σ : Type} {c : Chip} (h : Reachable c) (store : Store (StateM σ)) (x : σ) :
      Reachable ((c.saveChanges store).run x).1.2
  /-- An image that a chip in use has given is taken over.  One that is not leaves the chip. -/
  | loadImage {c d c' : Chip} (hc : Reachable c) (hd : Reachable d)
      (h : c.loadImage d.saveImage = .ok c') : Reachable c'

/-- The memory of a chip has its size, and its responder is where it comes to by itself. -/
structure InOrder (c : Chip) : Prop where
  /-- The memory has its size. -/
  length_ram : c.bank.ram.length = ramSize
  /-- The responder is where it comes to by itself. -/
  responder : c.responder.Regular addressCount

/-- The calls that the responder of a chip makes at an event. -/
def calls (clock : HostClock) (e : LineEvent) (c : Chip) : List Call :=
  (c.responder.step (registers clock).recorded e ((c.bank, c.time), [])).2.2

/-! ### One use -/

theorem ofContext_inOrder (device : String) {saved : Context}
    (h : saved.Fits ramSize registerCount) : (ofContext device saved).InOrder :=
  ⟨h.1, Responder.released_regular (by decide)⟩

theorem step_inOrder (h : c.InOrder) (clock : HostClock) (e : LineEvent) :
    (c.step clock e).InOrder := by
  have hdescends : Descends c.device c.baseline c := ⟨rfl, rfl, h.length_ram⟩
  exact ⟨(step_descends hdescends clock e).length_ram,
    Responder.step_regular (f := registers clock) h.responder e (c.bank, c.time)⟩

/-- Saving may move what a chip knows of its store, and nothing else. -/
theorem image_saveChanges {σ : Type} (store : Store (StateM σ)) (c : Chip) (x : σ) :
    ((c.saveChanges store).run x).1.2.image = c.image := by
  cases hunsaved : c.hasUnsaved with
  | false => rw [saveChanges_of_saved store hunsaved]
  | true =>
    rcases hsave : (store.save c.device c.context).run x with ⟨e | ⟨⟩, y⟩
    · rw [saveChanges_of_refused hunsaved hsave]
    · rw [saveChanges_of_taken hunsaved hsave]
      rfl

/-- The invariant is one of the image. -/
theorem inOrder_of_image_eq (h : c.InOrder) (himage : d.image = c.image) : d.InOrder := by
  have hbank : d.bank = c.bank := congrArg Image.bank himage
  have hresponder : d.responder = c.responder := congrArg Image.responder himage
  exact ⟨by rw [hbank]; exact h.length_ram, by rw [hresponder]; exact h.responder⟩

theorem saveChanges_inOrder {σ : Type} (h : c.InOrder) (store : Store (StateM σ)) (x : σ) :
    ((c.saveChanges store).run x).1.2.InOrder :=
  inOrder_of_image_eq h (image_saveChanges store c x)

/-- The bytes of a chip in order are read back as its image. -/
theorem InOrder.decode_saveImage (h : c.InOrder) :
    Image.decoder.decode c.saveImage = .ok c.image := by
  have hram : c.bank.ram.length < countBound := by
    rw [h.length_ram]
    decide
  have hpointer : c.responder.pointer < countBound :=
    Nat.lt_trans h.responder.pointer (by decide)
  exact Image.decode_encode hram hpointer

/-- A chip that takes over the image of a chip in order is in order itself. -/
theorem loadImage_inOrder {c' : Chip} (hd : d.InOrder) (h : c.loadImage d.saveImage = .ok c') :
    c'.InOrder := by
  obtain ⟨i, hread, rfl⟩ := loadImage_eq_ok_iff.mp h
  obtain ⟨hdecode, -⟩ := Image.read_eq_ok_iff_decode.mp hread
  obtain rfl : d.image = i := Except.ok.inj (hd.decode_saveImage.symm.trans hdecode)
  exact inOrder_of_image_eq hd rfl

/-- A chip is powered up with a context that fits, whatever its store answers. -/
theorem powerUp_inOrder {σ : Type} {store : Store (StateM σ)} {device : String} {x y : σ}
    (h : (powerUp store device).run x = (.ok c, y)) : c.InOrder := by
  obtain ⟨found, -, rfl⟩ := exists_of_powerUp h
  exact ofContext_inOrder device (adopted_fits found)

/-! ### All of them -/

theorem Reachable.follow (h : c.Reachable) (es : List (HostClock × LineEvent)) :
    (c.follow es).Reachable := by
  induction es generalizing c with
  | nil => exact h
  | cons x es ih => exact ih (h.step x.1 x.2)

/-- A chip in order has all of its addresses, so that no call of its responder is about another. -/
theorem InOrder.calls_within (h : c.InOrder) (clock : HostClock) (e : LineEvent) :
    ∀ call ∈ c.calls clock e, call.Within c.bank.size := by
  have hsize : c.bank.size = addressCount := by rw [Bank.size, h.length_ram, addressCount]
  rw [hsize]
  exact Responder.calls_within (f := registers clock) h.responder.pointer e (c.bank, c.time)

/-- **A chip in use is in order, and no event reaches an address that it does not have.**  This
holds for any store and any host clock, behind any line events, saves and images taken over from
other chips in use. -/
theorem inOrder_of_reachable (h : c.Reachable) :
    c.InOrder ∧ ∀ clock e, ∀ call ∈ c.calls clock e, call.Within c.bank.size := by
  have hinOrder : c.InOrder := by
    induction h with
    | powerUp hpower => exact powerUp_inOrder hpower
    | step _ clock e ih => exact step_inOrder ih clock e
    | saveChanges _ store x ih => exact saveChanges_inOrder ih store x
    | loadImage _ _ hload _ ih => exact loadImage_inOrder ih hload
  exact ⟨hinOrder, hinOrder.calls_within⟩

/-- A chip whose store finds a context of three bytes halts its clock and breaks off a write in the
middle of a byte.  Another chip takes its image over.  Five bits of the byte have passed, and the
three below them are zero. -/
theorem inOrder_of_reachable_brokenOff :
    let found : UncheckedStore := ⟨[("rtc", ⟨[1, 2, 3], [], 5⟩)], false⟩
    ∃ c d d', ((powerUp UncheckedStore.store "rtc").run found).1 = .ok c
      ∧ ((powerUp MemoryStore.store "other").run .empty).1 = .ok d
      ∧ d.loadImage (c.follow brokenOff).saveImage = .ok d'
      ∧ d'.Reachable ∧ d'.responder.phase = .receiving ∧ d'.responder.bit = 5
      ∧ d'.responder.shift = 0x30 ∧ d'.InOrder
      ∧ ∀ clock e, ∀ call ∈ d'.calls clock e, call.Within d'.bank.size := by
  intro found
  have hpower : (powerUp UncheckedStore.store "rtc").run found
      = (.ok (ofContext "rtc" (.blank ramSize registerCount)), found) := by rfl
  have hother : (powerUp MemoryStore.store "other").run .empty
      = (.ok (ofContext "other" (.blank ramSize registerCount)), .empty) := by rfl
  have hoffset : ((ofContext "rtc" (.blank ramSize registerCount)).follow brokenOff).time.offset
      = 0 := by decide +kernel
  have hload := (follow_savable (powerUp_savable hpower) brokenOff).read_saveImage
    (by rw [hoffset]; decide)
  have hreachable : ((ofContext "other" (.blank ramSize registerCount)).withImage
      ((ofContext "rtc" (.blank ramSize registerCount)).follow brokenOff).image).Reachable :=
    .loadImage (.powerUp hother) ((Reachable.powerUp hpower).follow brokenOff)
      (loadImage_eq_ok_iff.mpr ⟨_, hload, rfl⟩)
  obtain ⟨hinOrder, hcalls⟩ := inOrder_of_reachable hreachable
  refine ⟨_, _, _, congrArg Prod.fst hpower, congrArg Prod.fst hother,
    loadImage_eq_ok_iff.mpr ⟨_, hload, rfl⟩, hreachable, ?_, ?_, ?_, hinOrder, hcalls⟩
  · decide +kernel
  · decide +kernel
  · decide +kernel

end Chip

end ClockChip
