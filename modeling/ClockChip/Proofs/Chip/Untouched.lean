import ClockChip.Proofs.Chip.Persistence
import ClockChip.Proofs.Wire.Bystander

/-!
# A chip beside transfers for other devices

A chip that is idle when others begin to talk sees all of their transfers, under a host clock that
moves as it likes.  As long as none of these transfers carries its address it keeps the data line
high and everything that it holds, but for the snapshot, which each START latches anew.  Where there
is no START either, the snapshot stays and the chip waits as it did.

## Main definitions

* `Chip.Untouched`: a chip as it was, but for the snapshot and its place in a transfer.
* `Chip.Aside`: a chip that takes no part in what is ahead.

## Main results

* `Chip.step_aside`, `Chip.follow_aside`: one event, and a run.
* `Chip.follow_idle`: before the first START.
* `Chip.untouched_of_foreign`: **without being addressed a chip does nothing.**
-/

namespace ClockChip

namespace Chip

open Responder (Aloof Spared)

variable {b c d : Chip}

/-- A chip as it was, but for the snapshot and its place in a transfer. -/
structure Untouched (c d : Chip) : Prop where
  device : d.device = c.device
  ram : d.bank.ram = c.bank.ram
  stored : d.bank.stored = c.bank.stored
  twelveHour : d.bank.twelveHour = c.bank.twelveHour
  time : d.time = c.time
  pointer : d.responder.pointer = c.responder.pointer
  baseline : d.baseline = c.baseline

theorem Untouched.refl (c : Chip) : Untouched c c := ⟨rfl, rfl, rfl, rfl, rfl, rfl, rfl⟩

theorem Untouched.trans (h : Untouched b c) (h' : Untouched c d) : Untouched b d where
  device := h'.device.trans h.device
  ram := h'.ram.trans h.ram
  stored := h'.stored.trans h.stored
  twelveHour := h'.twelveHour.trans h.twelveHour
  time := h'.time.trans h.time
  pointer := h'.pointer.trans h.pointer
  baseline := h'.baseline.trans h.baseline

/-- What the battery would keep is untouched, and so is what the store has. -/
theorem Untouched.hasUnsaved (h : Untouched c d) : d.hasUnsaved = c.hasUnsaved := by
  have hcontext : d.context = c.context := by rw [context, h.ram, h.stored, h.time, context]
  rw [Chip.hasUnsaved, hcontext, h.baseline, Chip.hasUnsaved]

/-- Of what the registers of a chip may be asked, noting a START moves the snapshot only. -/
theorem untouched_of_spared {clock : HostClock} {e : LineEvent}
    (h : Spared (registers clock) c.responder (c.bank, c.time)
      (c.responder.step (registers clock) e (c.bank, c.time))) :
    Untouched c (c.step clock e) := by
  obtain ⟨hpointer, hregisters⟩ := h
  have hparts : ((c.step clock e).bank, (c.step clock e).time)
      = (c.responder.step (registers clock) e (c.bank, c.time)).2 := rfl
  rcases hregisters with hsame | hlatched
  · obtain ⟨hbank, htime⟩ := Prod.mk.inj (hparts.trans hsame)
    exact ⟨rfl, by rw [hbank], by rw [hbank], by rw [hbank], htime, hpointer, rfl⟩
  · obtain ⟨hbank, htime⟩ := Prod.mk.inj (hparts.trans hlatched)
    exact ⟨rfl, by rw [hbank, Bank.ram_latch], by rw [hbank, Bank.stored_latch],
      by rw [hbank, Bank.twelveHour_latch], htime, hpointer, rfl⟩

/-! ### Runs -/

/-- A chip that takes no part in what is ahead on its lines. -/
structure Aside (es : List LineEvent) (c : Chip) : Prop where
  aloof : Aloof (signals c.responder.clock c.responder.data es) c.responder
  foreign : ∀ ls ∈ transfers (signals c.responder.clock c.responder.data es), Foreign ls

theorem step_aside {e : LineEvent} {es : List LineEvent} (h : Aside (e :: es) c)
    (clock : HostClock) : Aside es (c.step clock e) ∧ Untouched c (c.step clock e) := by
  obtain ⟨haloof, hspared, hforeign⟩ :=
    Responder.step_aloof (registers clock) (c.bank, c.time) h.aloof h.foreign
  exact ⟨⟨haloof, hforeign⟩, untouched_of_spared hspared⟩

/-- A chip takes no part in any piece of what is ahead. -/
theorem follow_aside {es : List (HostClock × LineEvent)} (h : Aside (es.map Prod.snd) c)
    (n : Nat) : Aside ((es.drop n).map Prod.snd) (c.follow (es.take n))
      ∧ Untouched c (c.follow (es.take n)) := by
  refine follow_take (P := fun es d => Aside (es.map Prod.snd) d ∧ Untouched c d) ?_
    ⟨h, .refl c⟩ n
  rintro clock e es d ⟨haside, huntouched⟩
  obtain ⟨hnext, hstep⟩ := step_aside haside clock
  exact ⟨hnext, huntouched.trans hstep⟩

/-- Before the first START a chip waits, and its bank stays as it is with its snapshot. -/
theorem follow_idle {es : List (HostClock × LineEvent)} (hphase : c.responder.phase = .idle)
    (hstart : Signal.start ∉ signals c.responder.clock c.responder.data (es.map Prod.snd))
    (n : Nat) : (c.follow (es.take n)).responder.phase = .idle
      ∧ (c.follow (es.take n)).bank = c.bank := by
  refine (follow_take (P := fun es d =>
    Signal.start ∉ signals d.responder.clock d.responder.data (es.map Prod.snd)
      ∧ d.responder.phase = .idle ∧ d.bank = c.bank) ?_ ⟨hstart, hphase, rfl⟩ n).2
  rintro clock e es d ⟨hquiet, hidle, hbank⟩
  rw [List.map_cons, Responder.signals_cons_step (registers clock) _ _ _ (d.bank, d.time),
    List.mem_append, not_or] at hquiet
  obtain ⟨hnext, hregisters⟩ :=
    Responder.step_idle (registers clock) (d.bank, d.time) hidle hquiet.1
  exact ⟨hquiet.2, hnext, (congrArg Prod.fst hregisters).trans hbank⟩

/-- **Without being addressed a chip does nothing.**  If a chip is idle, and the first byte of every
transfer ahead is cut short or is another address, then behind every event the data line is left
alone and memory, registers, clock, mode and pointer are as they were, as is whether there is
something to save.  If there is no START at all, the chip stays idle with the same snapshot. -/
theorem untouched_of_foreign {es : List (HostClock × LineEvent)}
    (hphase : c.responder.phase = .idle)
    (hforeign : ∀ ls ∈ transfers
      (signals c.responder.clock c.responder.data (es.map Prod.snd)), Foreign ls) (n : Nat) :
    let d := c.follow (es.take n)
    d.responder.sends = true ∧ Untouched c d ∧ d.hasUnsaved = c.hasUnsaved
      ∧ (Signal.start ∉ signals c.responder.clock c.responder.data (es.map Prod.snd) →
          d.bank.snapshot = c.bank.snapshot ∧ d.responder.phase = .idle) := by
  intro d
  obtain ⟨haside, huntouched⟩ := follow_aside (c := c) ⟨.idle hphase, hforeign⟩ n
  refine ⟨haside.aloof.sends, huntouched, huntouched.hasUnsaved, fun hstart => ?_⟩
  obtain ⟨hidle, hbank⟩ := follow_idle hphase hstart n
  exact ⟨congrArg Bank.snapshot hbank, hidle⟩

/-- Bytes for the device at `0xa2`, and behind a repeated START all but the last bit of the chip's
own address, which a STOP cuts off. -/
def neighbourEvents : List LineEvent :=
  startEvents ++ [0xa2, 0x10, 0xff].flatMap (fun b => (Byte.levels b ++ [true]).flatMap bitEvents)
    ++ startEvents ++ ((Byte.levels writeSelect).take 7).flatMap bitEvents ++ stopEvents

/-- A chip with a byte to save sees them under another host time than that of its last START.  Its
snapshot moves, the byte and the pointer do not. -/
theorem untouched_of_foreign_neighbour :
    let c := (ofContext "rtc" (.blank ramSize registerCount)).run (.plain 0 0)
      (writeEvents [0x10, 0x5a])
    let es := neighbourEvents.map fun e => (HostClock.plain 1000000 50, e)
    c.responder.phase = .idle
      ∧ (∀ ls ∈ transfers (signals c.responder.clock c.responder.data (es.map Prod.snd)),
          Foreign ls)
      ∧ Untouched c (c.follow es) ∧ (c.follow es).hasUnsaved = true
      ∧ (c.follow es).bank.ram.head? = some 0x5a ∧ (c.follow es).responder.pointer = 17
      ∧ (c.follow es).bank.snapshot ≠ c.bank.snapshot := by
  intro c es
  have hphase : c.responder.phase = .idle := by decide +kernel
  have hforeign : ∀ ls ∈ transfers
      (signals c.responder.clock c.responder.data (es.map Prod.snd)), Foreign ls := by
    decide +kernel
  obtain ⟨-, huntouched, hunsaved, -⟩ := untouched_of_foreign hphase hforeign es.length
  rw [List.take_length] at huntouched hunsaved
  have hram : c.bank.ram.head? = some 0x5a := by decide +kernel
  have hpointer : c.responder.pointer = 17 := by decide +kernel
  refine ⟨hphase, hforeign, huntouched, ?_, ?_, ?_, ?_⟩
  · rw [hunsaved]
    decide +kernel
  · rw [huntouched.ram, hram]
  · rw [huntouched.pointer, hpointer]
  · decide +kernel

end Chip

end ClockChip
