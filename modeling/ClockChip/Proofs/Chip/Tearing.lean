import ClockChip.Proofs.Chip.Persistence
import ClockChip.Proofs.Wire.Agreement

/-!
# Transfers are not torn

The host clock may move between any two events of a transfer.  What a chip sends, and what it keeps
in its registers and its memory, does not depend on it before the next START: the time is looked at
when a START latches it, and all that a write to a time register changes is the virtual clock.

Two runs of the same events under different clocks are compared.  Their virtual clocks soon differ,
but both stand or both run, since halting is decided by what is written.

## Main definitions

* `Chip.AgreeButTime`: two chips that differ at most in their virtual time.

## Main results

* `Chip.step_agreeButTime`: an event that is no START keeps chips in agreement.
* `Chip.follow_agreeButTime`: **up to the next START a chip goes the same way under any clocks.**
-/

namespace ClockChip

namespace Chip

/-- Two chips that differ at most in their virtual time.  They stand or run alike. -/
structure AgreeButTime (c d : Chip) : Prop where
  device : c.device = d.device
  bank : c.bank = d.bank
  isHalted : c.time.isHalted = d.time.isHalted
  responder : c.responder = d.responder
  baseline : c.baseline = d.baseline

theorem AgreeButTime.refl (c : Chip) : AgreeButTime c c := ⟨rfl, rfl, rfl, rfl, rfl⟩

/-- The same bank, and clocks that stand or run alike, under two host clocks.  A START would tell
them apart. -/
theorem registers_alike (clock₁ clock₂ : HostClock) :
    (registers clock₁).Alike (registers clock₂)
      fun s t => s.1 = t.1 ∧ s.2.isHalted = t.2.isHalted where
  count := rfl
  shown h address := congrArg (fun b => Bank.read b address) h.1
  read h _ := h
  write h address val := by
    refine ⟨congrArg (fun b => Bank.keep b address val) h.1, ?_⟩
    show (Bank.drive address val _ _).isHalted = (Bank.drive address val _ _).isHalted
    rw [Bank.isHalted_drive, Bank.isHalted_drive, h.2]

variable {c d : Chip}

/-- An event that is no START keeps chips in agreement. -/
theorem step_agreeButTime (h : AgreeButTime c d) {e : LineEvent}
    (hstart : Signal.start ∉ signals c.responder.clock c.responder.data [e])
    (clock₁ clock₂ : HostClock) : AgreeButTime (c.step clock₁ e) (d.step clock₂ e) := by
  obtain ⟨device, bank, time₁, responder, baseline⟩ := c
  obtain ⟨_, _, time₂, _, _⟩ := d
  obtain ⟨rfl, rfl, hhalted, rfl, rfl⟩ := h
  obtain ⟨hresponder, hbank, hhalted⟩ :=
    Responder.step_alike (registers_alike clock₁ clock₂) (s := (bank, time₁))
      (t := (bank, time₂)) ⟨rfl, hhalted⟩ hstart
  exact ⟨rfl, hbank, hhalted, hresponder, rfl⟩

/-- The same events under any clocks keep chips in agreement up to the next START. -/
theorem agreeButTime_follow_take (h : AgreeButTime c d) {es fs : List (HostClock × LineEvent)}
    (hevents : fs.map Prod.snd = es.map Prod.snd)
    (hstart : Signal.start ∉ signals c.responder.clock c.responder.data (es.map Prod.snd))
    (n : Nat) : AgreeButTime (c.follow (es.take n)) (d.follow (fs.take n)) := by
  induction es generalizing c d fs n with
  | nil =>
    obtain rfl : fs = [] := List.map_eq_nil_iff.mp hevents
    rw [List.take_nil]
    exact h
  | cons x es ih =>
    obtain ⟨y, fs, rfl, hevent, hrest⟩ := List.map_eq_cons_iff.mp hevents
    obtain ⟨clock₁, e⟩ := x
    obtain ⟨clock₂, _⟩ := y
    obtain rfl := hevent
    cases n with
    | zero => exact h
    | succ n =>
      rw [List.map_cons, Responder.signals_cons_step (registers clock₁) _ _ _ (c.bank, c.time),
        List.mem_append, not_or] at hstart
      have hstep := step_agreeButTime h hstart.1 clock₁ clock₂
      exact ih hstep hrest hstart.2 n

/-- **Up to the next START a chip goes the same way under any clocks.**  Behind every event it
sends the same level, and everything but its virtual time is the same: where in a transfer it is,
the memory, the stored registers and their snapshot, the mode, and whether the clock stands. -/
theorem follow_agreeButTime (c : Chip) {es fs : List (HostClock × LineEvent)}
    (hevents : fs.map Prod.snd = es.map Prod.snd)
    (hstart : Signal.start ∉ signals c.responder.clock c.responder.data (es.map Prod.snd))
    (n : Nat) :
    AgreeButTime (c.follow (es.take n)) (c.follow (fs.take n))
      ∧ (c.follow (es.take n)).responder.sends = (c.follow (fs.take n)).responder.sends := by
  have hagree := agreeButTime_follow_take (.refl c) hevents hstart n
  exact ⟨hagree, congrArg Responder.sends hagree.responder⟩

/-- Behind a START, a burst from the last byte of the memory over the control register to the
seconds: it halts the clock and sets it, and on the way the host clock is read at two different
times. -/
theorem follow_writtenUnderTwoClocks :
    let c := (ofContext "rtc" (.blank ramSize registerCount)).run (.plain 0 0) startEvents
    let events := (writeEvents [0xff, 0x5a, 0x80, 0x00, 0x30]).drop startEvents.length
    let es := events.map fun e => (HostClock.plain 0 0, e)
    let fs := events.map fun e => (HostClock.plain 1000000 50, e)
    Signal.start ∉ signals c.responder.clock c.responder.data events
      ∧ AgreeButTime (c.follow es) (c.follow fs)
      ∧ (c.follow es).time ≠ (c.follow fs).time
      ∧ (c.follow es).bank.ram.getLast? = some 0x5a ∧ (c.follow es).time.isHalted = true := by
  intro c events es fs
  have hevents (clock : HostClock) : (events.map fun e => (clock, e)).map Prod.snd = events := by
    rw [List.map_map]
    exact List.map_id events
  have htake (clock : HostClock) : (events.map fun e => (clock, e)).take events.length
      = events.map fun e => (clock, e) := List.take_of_length_le (by simp)
  have hstart : Signal.start ∉ signals c.responder.clock c.responder.data events := by
    decide +kernel
  have hagree := (follow_agreeButTime c ((hevents (.plain 1000000 50)).trans
    (hevents (.plain 0 0)).symm) (by rw [hevents]; exact hstart) events.length).1
  rw [htake, htake] at hagree
  refine ⟨hstart, hagree, ?_, ?_, ?_⟩
  · decide +kernel
  · decide +kernel
  · decide +kernel

end Chip

end ClockChip
