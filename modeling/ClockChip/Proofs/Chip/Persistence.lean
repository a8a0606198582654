import ClockChip.Chip.Basic
import ClockChip.Proofs.Program
import ClockChip.Proofs.Register.Keeping
import ClockChip.Proofs.Wire.Call
import ClockChip.Store.Memory

/-!
# What is left after a chip is powered down

A chip that is powered down with saving leaves what its battery would keep in its store, and the
next chip of that name starts from there.  Saving takes any offset, but a context whose offset is
out of bounds does not fit a chip and is not adopted: then the next chip is blank, and the memory
is lost together with the offset.

## Main definitions

* `Chip.follow`: line events with the host clock at each of them.
* `Chip.cycle`: power up, line events, power down with saving, and power up again.
* `Chip.Descends`: what stays the same in a chip from its power up on.

## Main results

* `Chip.follow_take`: what every event keeps holds behind each of them.
* `Chip.follow_descends`: what stays the same along any line events.
* `Chip.cycle_run`: what is found after a power cycle, with or without a save.
* `Chip.kept_iff_offsetInBounds`: **a power cycle keeps memory, registers and offset exactly if
  the offset is within bounds.**
-/

namespace ClockChip

namespace Chip

variable {device : String} {saved : Context} {c : Chip}

/-! ### Starting from a context -/

/-- The context that a chip starts from fits, whatever was found. -/
theorem adopted_fits (found : Option Context) : (adopted found).Fits ramSize registerCount := by
  cases found with
  | none => exact Context.blank_fits ramSize registerCount
  | some saved =>
    rw [adopted, Context.fitting_some]
    split
    · assumption
    · exact Context.blank_fits ramSize registerCount

/-- A chip that was just started has the context that it started from. -/
theorem context_ofContext (device : String) (h : saved.Fits ramSize registerCount) :
    (ofContext device saved).context = saved := by
  have hlen : saved.registers.length = 16 := h.2.1
  have hregisters : (Vector.ofFn fun i : Fin 16 => saved.registers.getD i 0).toList
      = saved.registers := by
    refine List.ext_getElem (by simp [hlen]) fun i hi hi' => ?_
    simp [List.getD_eq_getElem?_getD, hi']
  simp only [context, ofContext, Bank.ofStored, hregisters, VirtualClock.offset_running]

/-! ### Powering up and saving in any store -/

section

variable {σ : Type} {store : Store (StateM σ)} {x y : σ}

/-- A chip that is powered up starts from what its store found. -/
theorem exists_of_powerUp (h : (powerUp store device).run x = (.ok c, y)) :
    ∃ found, (store.load device ramSize registerCount).run x = (.ok found, y)
      ∧ ofContext device (adopted found) = c := by
  rcases hload : (store.load device ramSize registerCount).run x with ⟨e | found, z⟩
  · rw [powerUp, run_bind_of hload] at h
    cases h
  · rw [powerUp, run_bind_of hload] at h
    cases h
    exact ⟨found, rfl, rfl⟩

/-- A chip that has nothing to save leaves its store alone. -/
theorem saveChanges_of_saved (store : Store (StateM σ)) (h : c.hasUnsaved = false) (x : σ) :
    (c.saveChanges store).run x = ((.ok false, c), x) := by
  rw [saveChanges, h]
  rfl

/-- What the store takes is what the chip takes for saved. -/
theorem saveChanges_of_taken (h : c.hasUnsaved = true)
    (hsave : (store.save c.device c.context).run x = (.ok (), y)) :
    (c.saveChanges store).run x = ((.ok true, { c with baseline := c.context }), y) := by
  rw [saveChanges, if_pos h, run_bind_of hsave]
  rfl

/-- A chip whose store refuses is as it was. -/
theorem saveChanges_of_refused {e : StoreError} (h : c.hasUnsaved = true)
    (hsave : (store.save c.device c.context).run x = (.error e, y)) :
    (c.saveChanges store).run x = ((.error e, c), y) := by
  rw [saveChanges, if_pos h, run_bind_of hsave]
  rfl

end

/-! ### Line events under a moving clock -/

/-- Line events, with the host clock at each of them. -/
def follow : List (HostClock × LineEvent) → Chip → Chip
  | [], c => c
  | (clock, e) :: es, c => follow es (c.step clock e)

/-- What holds of a chip and the events ahead of it holds all the way, if every event keeps it. -/
theorem follow_take {P : List (HostClock × LineEvent) → Chip → Prop}
    (hstep : ∀ clock e es c, P ((clock, e) :: es) c → P es (c.step clock e))
    {es : List (HostClock × LineEvent)} (h : P es c) (n : Nat) :
    P (es.drop n) (c.follow (es.take n)) := by
  induction es generalizing c n with
  | nil =>
    rw [List.take_nil, List.drop_nil]
    exact h
  | cons x es ih =>
    cases n with
    | zero => exact h
    | succ n => exact ih (hstep x.1 x.2 es c h) n

/-- What a chip keeps from its power up on: its name, what it started from, and the size of its
memory. -/
structure Descends (device : String) (saved : Context) (c : Chip) : Prop where
  device_eq : c.device = device
  baseline_eq : c.baseline = saved
  length_ram : c.bank.ram.length = ramSize

theorem ofContext_descends (device : String) (h : saved.Fits ramSize registerCount) :
    Descends device saved (ofContext device saved) :=
  ⟨rfl, rfl, h.1⟩

/-- No call that a responder makes changes the size of the memory. -/
theorem length_ram_call (clock : HostClock) (n : Nat) (call : Call) (s : Bank × VirtualClock)
    (h : s.1.ram.length = n) : ((registers clock).call s call).1.ram.length = n := by
  cases call with
  | start => exact h
  | read address => exact h
  | write address val => exact (Bank.length_ram_keep s.1 address val).trans h

theorem step_descends (h : Descends device saved c) (clock : HostClock) (e : LineEvent) :
    Descends device saved (c.step clock e) := by
  have hram := Responder.step_invariant (length_ram_call clock ramSize) e c.responder
    (s := (c.bank, c.time)) h.length_ram
  exact ⟨h.device_eq, h.baseline_eq, hram⟩

/-- Along any line events, under any clocks, a chip stays a descendant of its power up. -/
theorem follow_descends (h : Descends device saved c) (es : List (HostClock × LineEvent)) :
    Descends device saved (c.follow es) := by
  induction es generalizing c with
  | nil => exact h
  | cons x es ih => exact ih (step_descends h x.1 x.2)

/-! ### A power cycle -/

/-- A chip is powered up, follows line events, is powered down with saving, and powered up again.
The outcome is the chip before the power down, whether it was saved, and the chip behind it. -/
def cycle {m : Type → Type} [Monad m] (store : Store m) (device : String)
    (es : List (HostClock × LineEvent)) : m (Except StoreError (Chip × Bool × Chip)) := do
  match ← powerUp store device with
  | .error e => return .error e
  | .ok c =>
    match ← powerDown store true (c.follow es) with
    | .error e => return .error e
    | .ok saved =>
      match ← powerUp store device with
      | .error e => return .error e
      | .ok d => return .ok (c.follow es, saved, d)

theorem powerUp_memory (device : String) (s : MemoryStore) :
    (powerUp MemoryStore.store device).run s
      = (.ok (ofContext device (adopted (s.get device ramSize registerCount))), s) := rfl

theorem powerDown_memory (c : Chip) (s : MemoryStore) :
    (powerDown MemoryStore.store true c).run s
      = (.ok c.hasUnsaved, if c.hasUnsaved then s.put c.device c.context else s) := by
  unfold powerDown saveChanges
  cases c.hasUnsaved <;> rfl

theorem get_put (s : MemoryStore) (device : String) (context : Context) (m n : Nat) :
    (s.put device context).get device m n = if context.Fits m n then some context else none := by
  rw [MemoryStore.get, MemoryStore.put, Shelf.find?_insert, Context.fitting_some]

theorem adopted_put (s : MemoryStore) (device : String) (context : Context) :
    adopted ((s.put device context).get device ramSize registerCount)
      = if context.Fits ramSize registerCount then context
        else Context.blank ramSize registerCount := by
  rw [get_put]
  split
  · rw [adopted, Context.fitting_some, if_pos (by assumption)]
    rfl
  · rfl

/-- The context of a descendant fits as soon as its offset is within bounds. -/
theorem Descends.fits_iff (h : Descends device saved c) :
    c.context.Fits ramSize registerCount ↔ OffsetInBounds c.time.offset := by
  have hregisters : c.context.registers.length = registerCount := c.bank.stored.length_toList
  exact ⟨fun hfits => hfits.2.2, fun hbounds => ⟨h.length_ram, hregisters, hbounds⟩⟩

/-- What a cycle in a memory store comes to, whether or not something was to be saved. -/
theorem cycle_run (device : String) (es : List (HostClock × LineEvent)) (s : MemoryStore) :
    let c := (ofContext device (adopted (s.get device ramSize registerCount))).follow es
    let t := if c.hasUnsaved then s.put c.device c.context else s
    ((cycle MemoryStore.store device es).run s).1
      = .ok (c, c.hasUnsaved, ofContext device (adopted (t.get device ramSize registerCount))) := by
  rw [cycle, run_bind_of (powerUp_memory device s)]
  dsimp only
  rw [run_bind_of (powerDown_memory _ s)]
  dsimp only
  rw [run_bind_of (powerUp_memory device _)]
  rfl

/-- A descendant that has nothing to save still has the context that it started from. -/
theorem Descends.context_eq (h : Descends device saved c) (hunsaved : c.hasUnsaved = false) :
    c.context = saved := by
  rw [hasUnsaved, h.baseline_eq] at hunsaved
  simpa using hunsaved

/-- The context that is adopted behind a power down is the one before it, if its offset is within
bounds, and blank otherwise. -/
theorem adopted_powerDown {s : MemoryStore}
    (h : Descends device (adopted (s.get device ramSize registerCount)) c) :
    adopted ((if c.hasUnsaved then s.put c.device c.context else s).get device ramSize
        registerCount)
      = if OffsetInBounds c.time.offset then c.context
        else Context.blank ramSize registerCount := by
  cases hunsaved : c.hasUnsaved with
  | true => simp only [if_true, h.device_eq, adopted_put, h.fits_iff]
  | false =>
    have hsame := h.context_eq hunsaved
    have hbounds := h.fits_iff.mp (by rw [hsame]; exact adopted_fits _)
    rw [if_neg (by simp), if_pos hbounds, hsame]

theorem context_eq_context_iff (d c : Chip) :
    d.context = c.context ↔
      d.bank.ram = c.bank.ram ∧ d.bank.stored = c.bank.stored ∧ d.time.offset = c.time.offset := by
  rw [context, context, Context.mk.injEq, Vector.toList_inj]

/-- **A power cycle keeps memory, registers and offset exactly if the offset is within bounds.**
This holds for any contexts in the store, any line events and any host clocks between them, and
whether or not something was saved.  If the offset is out of bounds a save is reported and the
next chip is blank. -/
theorem kept_iff_offsetInBounds (device : String) (es : List (HostClock × LineEvent))
    (s : MemoryStore) :
    ∃ c d, ((cycle MemoryStore.store device es).run s).1 = .ok (c, c.hasUnsaved, d)
      ∧ (d.bank.ram = c.bank.ram ∧ d.bank.stored = c.bank.stored ∧ d.time.offset = c.time.offset
          ↔ OffsetInBounds c.time.offset)
      ∧ (¬ OffsetInBounds c.time.offset →
          c.hasUnsaved = true ∧ d.context = Context.blank ramSize registerCount) := by
  have hfits := adopted_fits (s.get device ramSize registerCount)
  have hdescends := follow_descends (ofContext_descends device hfits) es
  refine ⟨_, _, cycle_run device es s, ?_⟩
  rw [← context_eq_context_iff, context_ofContext device (adopted_fits _),
    adopted_powerDown hdescends]
  generalize (ofContext device (adopted (s.get device ramSize registerCount))).follow es = c
    at hdescends ⊢
  by_cases hbounds : OffsetInBounds c.time.offset
  · rw [if_pos hbounds]
    exact ⟨iff_of_true rfl hbounds, fun hout => absurd hbounds hout⟩
  · rw [if_neg hbounds]
    refine ⟨iff_of_false (fun hblank => hbounds ?_) hbounds, fun _ => ⟨?_, rfl⟩⟩
    · -- the offset of a blank chip is within bounds
      have hfit := Context.blank_fits ramSize registerCount
      rw [hblank] at hfit
      exact hfit.2.2
    · cases hunsaved : c.hasUnsaved with
      | true => rfl
      | false =>
        have hsame := hdescends.context_eq hunsaved
        exact absurd (hdescends.fits_iff.mp (by rw [hsame]; exact hfits)) hbounds

/-! ### Memory lost through a halted clock -/

/-- The events of a write transfer to a chip, its address included. -/
def writeEvents (vals : List UInt8) : List LineEvent :=
  startEvents
    ++ (writeSelect :: vals).flatMap (fun b => (Byte.levels b ++ [true]).flatMap bitEvents)
    ++ stopEvents

/-- A byte is written to the memory and the clock is halted; while it stands the host clock moves
on by a second more than the bound of an offset; then the clock is resumed. -/
def haltedAcrossBound : List (HostClock × LineEvent) :=
  ((writeEvents [0x10, 0x5a] ++ writeEvents [0x00, 0x80]).map fun e => (.plain 0 0, e))
    ++ (writeEvents [0x00, 0x00]).map fun e => (.plain 12648960001 0, e)

/-- The context of that chip is saved, and neither memory nor offset are found again. -/
theorem not_kept_haltedAcrossBound :
    ∃ c d, ((cycle MemoryStore.store "rtc" haltedAcrossBound).run .empty).1
        = .ok (c, c.hasUnsaved, d)
      ∧ c.hasUnsaved = true ∧ d.bank.ram ≠ c.bank.ram ∧ d.time.offset ≠ c.time.offset := by
  refine ⟨_, _, cycle_run "rtc" haltedAcrossBound .empty, ?_, ?_, ?_⟩
  · decide +kernel
  · decide +kernel
  · decide +kernel

end Chip

end ClockChip
