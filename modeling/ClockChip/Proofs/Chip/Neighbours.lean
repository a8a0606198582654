import ClockChip.Proofs.Chip.Bookkeeping
import ClockChip.Proofs.Chip.Transfer
import Mathlib.Logic.Function.Basic

/-!
# Chips that share a store

Several chips of different names may be in use side by side, with one store in memory behind them
and one host clock in front.  All that is done to a chip of one name reads and writes what the store
has under that name only.  So each chip answers as if it were alone, in whatever order the chips are
used, and the number of saves is what the chips add up to.

## Main definitions

* `Transfer`, `Job`, `Answer`: what can be done to a chip, and what it answers.
* `Rack`, `Happening`, `Rack.after`: chips, their store and their clock, and what happens to them.
* `withoutDevice`: a run without all that is done under one name.
* `Effect`: what is left of a happening for one name.
* `Rack.Alike`: two racks look the same from one name.

## Main results

* `Rack.exists_effect`: what happens under a name depends on what is seen from it.
* `Rack.alike_leave_of_ne`, `Rack.Alike.leave`: an effect under another name is not seen, and one
  under the same name is seen alike.
* `Rack.afterAll_eq_without`: **a chip and its saved context are what they would be without its
  neighbour, and the store counts the saves of both.**
-/

namespace ClockChip

/-! ### What is done to a chip -/

/-- What a controller does on a wire. -/
inductive Transfer where
  /-- A START is made. -/
  | start
  /-- A STOP is made. -/
  | stop
  /-- One byte is sent. -/
  | sendByte (b : UInt8)
  /-- One byte is received, and acknowledged or not. -/
  | receiveByte (ack : Bool)
  /-- Bytes are written from a register on. -/
  | write (pointer : UInt8) (vals : List UInt8)
  /-- A number of bytes is read from a register on. -/
  | read (pointer : UInt8) (n : Nat)

/-- What can be done to a chip. -/
inductive Job where
  /-- A line is set to a level. -/
  | line (e : LineEvent)
  /-- A controller does something on the wire of the chip. -/
  | transfer (t : Transfer)
  /-- Changes are saved. -/
  | save
  /-- The chip gives out its image. -/
  | giveImage
  /-- Bytes are given to the chip as an image. -/
  | takeImage (bs : List UInt8)
  /-- The chip is powered down, and its changes are saved or not. -/
  | powerDown (saving : Bool)
  /-- The chip is taken away without being powered down. -/
  | remove

/-- What is answered. -/
inductive Answer where
  /-- There is no chip. -/
  | noChip
  /-- A chip was powered up, or its context could not be loaded. -/
  | poweredUp (outcome : Except StoreError Unit)
  /-- The level that the chip leaves on the data line. -/
  | level (data : Bool)
  /-- A START or a STOP was made. -/
  | framed
  /-- A byte was sent, and acknowledged or not. -/
  | acknowledged (acked : Bool)
  /-- A byte was received. -/
  | received (b : UInt8)
  /-- What came of a write. -/
  | written (outcome : Except TransferError Unit)
  /-- What came of a read. -/
  | read (outcome : Except TransferError (List UInt8))
  /-- What came of a save: whether anything was saved. -/
  | saved (outcome : Except StoreError Bool)
  /-- An image was given out. -/
  | image (bs : List UInt8)
  /-- An image was taken, or refused. -/
  | tookImage (outcome : Except ImageError Unit)
  /-- A chip was taken away, with changes that were not saved or without. -/
  | removed (unsaved : Bool)

/-- The answer reports that a context was saved. -/
def Answer.reportsSave : Answer → Bool
  | saved outcome => ClockChip.reportsSave outcome
  | _ => false

namespace Transfer

/-- The transfer on a wire. -/
def run {σ : Type} (w : Wire σ) (s : σ) : Transfer → Answer × σ
  | start => (.framed, w.start s)
  | stop => (.framed, w.stop s)
  | sendByte b => ((w.sendByte b s).map .acknowledged id)
  | receiveByte ack => ((w.receiveByte ack s).map .received id)
  | write pointer vals => ((w.writeBurst pointer vals s).map .written id)
  | read pointer n => ((w.readBurst pointer n s).map .read id)

theorem run_of_translates {σ τ : Type} {w : Wire σ} {v : Wire τ} {φ : σ → τ}
    (h : w.Translates v φ) (t : Transfer) (s : σ) :
    t.run v (φ s) = Prod.map id φ (t.run w s) := by
  cases t with
  | start => simp only [run, h.start, Prod.map, id]
  | stop => simp only [run, h.stop, Prod.map, id]
  | sendByte b => simp only [run, h.sendByte, Prod.map, id]
  | receiveByte ack => simp only [run, h.receiveByte, Prod.map, id]
  | write pointer vals => simp only [run, h.writeBurst, Prod.map, id]
  | read pointer n => simp only [run, h.readBurst, Prod.map, id]

/-- No transfer answers that a context was saved. -/
theorem reportsSave_run {σ : Type} (t : Transfer) (w : Wire σ) (s : σ) :
    (t.run w s).1.reportsSave = false := by
  cases t <;> rfl

/-- A transfer leaves the name of a chip. -/
theorem device_run (t : Transfer) (clock : HostClock) (c : Chip) :
    (t.run (Chip.wire clock) c).2.device = c.device := by
  have hparts : t.run (Chip.wire clock) c = Prod.map id c.withParts _ :=
    run_of_translates (Chip.wire_translates clock c) t (c.responder, c.bank, c.time)
  rw [hparts]
  rfl

end Transfer

/-- A job on a chip under a host clock: the answer, and the chip if there still is one. -/
def Job.perform {m : Type → Type} [Monad m] (store : Store m) (clock : HostClock) (c : Chip) :
    Job → m (Answer × Option Chip)
  | line e => return (.level (c.step clock e).responder.sends, some (c.step clock e))
  | transfer t => return (t.run (Chip.wire clock) c).map id some
  | save => return (← c.saveChanges store).map .saved some
  | giveImage => return (.image c.saveImage, some c)
  | takeImage bs =>
    match c.loadImage bs with
    | .ok d => return (.tookImage (.ok ()), some d)
    | .error e => return (.tookImage (.error e), some c)
  | powerDown saving => return (.saved (← c.powerDown store saving), none)
  | remove => return (.removed c.hasUnsaved, none)

/-! ### Chips side by side -/

/-- What happens where chips are in use. -/
inductive Happening where
  /-- The host clock moves. -/
  | tick (clock : HostClock)
  /-- A chip is powered up under a name.  One that is there makes room for it. -/
  | powerUp (device : String)
  /-- Something is done to the chip of a name. -/
  | job (device : String) (j : Job)

/-- The name that a happening is about. -/
def Happening.device? : Happening → Option String
  | tick _ => none
  | powerUp device => some device
  | job device _ => some device

/-- Only the clock belongs to no name. -/
theorem Happening.exists_tick {e : Happening} (h : e.device? = none) : ∃ clock, e = tick clock := by
  cases e with
  | tick clock => exact ⟨clock, rfl⟩
  | powerUp device => cases h
  | job device j => cases h

/-- A run without all that is done under a name.  The clock moves as before. -/
def withoutDevice (device : String) (es : List Happening) : List Happening :=
  es.filter fun e => e.device? != some device

/-- Chips in use, with their store and their host clock. -/
structure Rack where
  /-- The host clock of all chips. -/
  clock : HostClock
  /-- The store of all chips. -/
  store : MemoryStore
  /-- The chips by their names. -/
  chips : String → Option Chip
  /-- All answers so far by the names that they are about, the latest last. -/
  answers : List (String × Answer)

/-- What a happening leaves under its name. -/
structure Effect where
  /-- What is answered. -/
  answer : Answer
  /-- The chip, if there still is one. -/
  chip : Option Chip
  /-- The context that was saved, if one was. -/
  kept : Option Context

namespace Rack

/-- A rack without chips. -/
def fresh (clock : HostClock) (s : MemoryStore) : Rack := ⟨clock, s, fun _ => none, []⟩

/-- The rack behind a happening. -/
def after (x : Rack) : Happening → Rack
  | .tick clock => { x with clock := clock }
  | .powerUp device =>
    match (Chip.powerUp MemoryStore.store device).run x.store with
    | (.ok c, s) =>
      { x with
        store := s
        chips := Function.update x.chips device (some c)
        answers := x.answers ++ [(device, .poweredUp (.ok ()))] }
    | (.error e, s) =>
      { x with store := s, answers := x.answers ++ [(device, .poweredUp (.error e))] }
  | .job device j =>
    match x.chips device with
    | none => { x with answers := x.answers ++ [(device, .noChip)] }
    | some c =>
      let ((answer, chip), s) := (j.perform MemoryStore.store x.clock c).run x.store
      { x with
        store := s
        chips := Function.update x.chips device chip
        answers := x.answers ++ [(device, answer)] }

/-- The rack behind a run. -/
def afterAll (x : Rack) (es : List Happening) : Rack := es.foldl after x

/-- The answers given under a name. -/
def answersOf (x : Rack) (device : String) : List Answer :=
  (x.answers.filter fun p => p.1 == device).map Prod.snd

/-- The saves that were reported under a name. -/
def savesOf (x : Rack) (device : String) : Nat := (x.answersOf device).countP Answer.reportsSave

/-- The rack with an effect under a name. -/
def leave (x : Rack) (device : String) (f : Effect) : Rack where
  clock := x.clock
  store := f.kept.elim x.store (x.store.put device)
  chips := Function.update x.chips device f.chip
  answers := x.answers ++ [(device, f.answer)]

/-- Each chip has the name under which it is found. -/
def Labelled (x : Rack) : Prop := ∀ device, ∀ c ∈ x.chips device, c.device = device

/-- From a name, two racks look the same. -/
structure Alike (device : String) (x y : Rack) : Prop where
  clock_eq : x.clock = y.clock
  chip_eq : x.chips device = y.chips device
  saved_eq : x.store.shelf.find? device = y.store.shelf.find? device
  answers_eq : x.answersOf device = y.answersOf device

theorem Alike.refl (device : String) (x : Rack) : Alike device x x := ⟨rfl, rfl, rfl, rfl⟩

theorem Alike.symm {device : String} {x y : Rack} (h : Alike device x y) : Alike device y x :=
  ⟨h.clock_eq.symm, h.chip_eq.symm, h.saved_eq.symm, h.answers_eq.symm⟩

theorem Alike.trans {device : String} {x y z : Rack} (h : Alike device x y)
    (h' : Alike device y z) : Alike device x z :=
  ⟨h.clock_eq.trans h'.clock_eq, h.chip_eq.trans h'.chip_eq, h.saved_eq.trans h'.saved_eq,
    h.answers_eq.trans h'.answers_eq⟩

end Rack

/-- An effect that can come of a chip of a name: the chip that is left has that name, and what was
saved was reported. -/
structure Effect.Faithful (device : String) (f : Effect) : Prop where
  chip : ∀ c ∈ f.chip, c.device = device
  kept : f.kept.isSome = f.answer.reportsSave

theorem Effect.Faithful.of_some {device : String} {answer : Answer} {d : Chip}
    {kept : Option Context} (hdevice : d.device = device)
    (hkept : kept.isSome = answer.reportsSave) : Faithful device ⟨answer, some d, kept⟩ := by
  refine ⟨?_, hkept⟩
  rintro c ⟨⟩
  exact hdevice

theorem Effect.Faithful.of_none {device : String} {answer : Answer} {kept : Option Context}
    (hkept : kept.isSome = answer.reportsSave) : Faithful device ⟨answer, none, kept⟩ := by
  refine ⟨?_, hkept⟩
  rintro c ⟨⟩

/-! ### One job -/

/-- Saving in memory cannot fail.  It is told from the chip alone what is saved. -/
theorem Chip.exists_run_saveChanges (c : Chip) :
    ∃ (outcome : Except StoreError Bool) (d : Chip) (kept : Option Context), d.device = c.device
      ∧ kept.isSome = reportsSave outcome
      ∧ ∀ s : MemoryStore, (c.saveChanges MemoryStore.store).run s
        = ((outcome, d), kept.elim s (s.put c.device)) := by
  cases hunsaved : c.hasUnsaved with
  | false =>
    exact ⟨.ok false, c, none, rfl, rfl, saveChanges_of_saved MemoryStore.store hunsaved⟩
  | true =>
    exact ⟨.ok true, { c with baseline := c.context }, some c.context, rfl, rfl,
      fun s => saveChanges_of_taken hunsaved rfl⟩

/-- **What a job does to a store in memory.**  It saves one context under the name of its chip, or
none, and says so.  Neither this nor the answer depends on the store. -/
theorem Job.exists_effect (j : Job) (clock : HostClock) (c : Chip) :
    ∃ f : Effect, f.Faithful c.device ∧ ∀ s : MemoryStore,
      (j.perform MemoryStore.store clock c).run s
        = ((f.answer, f.chip), f.kept.elim s (s.put c.device)) := by
  cases j with
  | line e => exact ⟨⟨_, some (c.step clock e), none⟩, .of_some rfl rfl, fun s => rfl⟩
  | transfer t =>
    have hquiet := t.reportsSave_run (Chip.wire clock) c
    exact ⟨⟨_, some (t.run (Chip.wire clock) c).2, none⟩,
      .of_some (t.device_run clock c) hquiet.symm, fun s => rfl⟩
  | save =>
    obtain ⟨outcome, d, kept, hdevice, hkept, hrun⟩ := c.exists_run_saveChanges
    refine ⟨⟨.saved outcome, some d, kept⟩, .of_some hdevice hkept, fun s => ?_⟩
    rw [perform, run_bind_of (hrun s)]
    rfl
  | giveImage => exact ⟨⟨_, some c, none⟩, .of_some rfl rfl, fun s => rfl⟩
  | takeImage bs =>
    rw [perform]
    split
    case h_1 d hload =>
      obtain ⟨i, -, rfl⟩ := Chip.loadImage_eq_ok_iff.mp hload
      exact ⟨⟨_, some (c.withImage i), none⟩, .of_some rfl rfl, fun s => rfl⟩
    case h_2 e hload => exact ⟨⟨_, some c, none⟩, .of_some rfl rfl, fun s => rfl⟩
  | powerDown saving =>
    cases saving with
    | false => exact ⟨⟨_, none, none⟩, .of_none rfl, fun s => rfl⟩
    | true =>
      obtain ⟨outcome, d, kept, -, hkept, hrun⟩ := c.exists_run_saveChanges
      have hdown (s : MemoryStore) : (c.powerDown MemoryStore.store true).run s
          = (outcome, kept.elim s (s.put c.device)) := by
        rw [Chip.powerDown, if_pos rfl, run_bind_of (hrun s)]
        rfl
      refine ⟨⟨.saved outcome, none, kept⟩, .of_none hkept, fun s => ?_⟩
      rw [perform, run_bind_of (hdown s)]
      rfl
  | remove => exact ⟨⟨_, none, none⟩, .of_none rfl, fun s => rfl⟩

namespace Rack

variable {a b device : String} {x y : Rack} {f : Effect}

/-! ### One happening -/

@[simp] theorem chips_leave_self (x : Rack) (device : String) (f : Effect) :
    (x.leave device f).chips device = f.chip := by
  simp [leave]

@[simp] theorem answersOf_leave_self (x : Rack) (device : String) (f : Effect) :
    (x.leave device f).answersOf device = x.answersOf device ++ [f.answer] := by
  simp [answersOf, leave]

@[simp] theorem find?_leave_self (x : Rack) (device : String) (f : Effect) :
    (x.leave device f).store.shelf.find? device = f.kept.or (x.store.shelf.find? device) := by
  rcases f with ⟨answer, chip, _ | c⟩
  · rfl
  · exact Shelf.find?_insert _ _ _

/-- An effect under another name is not seen. -/
theorem alike_leave_of_ne (h : a ≠ b) (x : Rack) (f : Effect) : Alike a (x.leave b f) x where
  clock_eq := rfl
  chip_eq := Function.update_of_ne h _ _
  saved_eq := by
    rcases f with ⟨answer, chip, _ | c⟩
    · rfl
    · exact Shelf.find?_insert_of_ne h _ _
  answers_eq := by simp [answersOf, leave, h.symm]

/-- An effect under the name from which two racks look the same leaves them looking the same. -/
theorem Alike.leave (h : Alike a x y) (f : Effect) : Alike a (x.leave a f) (y.leave a f) where
  clock_eq := h.clock_eq
  chip_eq := by rw [chips_leave_self, chips_leave_self]
  saved_eq := by rw [find?_leave_self, find?_leave_self, h.saved_eq]
  answers_eq := by rw [answersOf_leave_self, answersOf_leave_self, h.answers_eq]

theorem Labelled.leave (h : x.Labelled) (hf : f.Faithful device) :
    (x.leave device f).Labelled := by
  intro other c hc
  by_cases hother : other = device
  · subst hother
    rw [chips_leave_self] at hc
    exact hf.chip c hc
  · rw [(alike_leave_of_ne hother x f).chip_eq] at hc
    exact h other c hc

/-- The saves of a store go up by one if a save was reported. -/
theorem saves_leave (hf : f.Faithful device) (x : Rack) :
    (x.leave device f).store.saves = x.store.saves + f.answer.reportsSave.toNat := by
  rw [← hf.kept]
  rcases f with ⟨answer, chip, _ | c⟩ <;> rfl

theorem savesOf_leave_self (x : Rack) (device : String) (f : Effect) :
    (x.leave device f).savesOf device = x.savesOf device + f.answer.reportsSave.toNat := by
  rw [savesOf, answersOf_leave_self, List.countP_append, savesOf, List.countP_singleton]
  cases f.answer.reportsSave <;> rfl

theorem savesOf_leave_of_ne (h : a ≠ b) (x : Rack) (f : Effect) :
    (x.leave b f).savesOf a = x.savesOf a := by
  rw [savesOf, (alike_leave_of_ne h x f).answers_eq, savesOf]

/-- **What happens under a name depends on what is seen from it**, and is the same effect on every
rack that looks the same. -/
theorem exists_effect {e : Happening} (he : e.device? = some device) (hx : x.Labelled) :
    ∃ f : Effect, f.Faithful device ∧ ∀ y, Alike device x y → y.after e = y.leave device f := by
  cases e with
  | tick clock => cases he
  | powerUp device' =>
    obtain rfl : device' = device := Option.some.inj he
    let found := x.store.get device' ramSize registerCount
    refine ⟨⟨.poweredUp (.ok ()), some (Chip.ofContext device' (Chip.adopted found)), none⟩,
      .of_some rfl rfl, ?_⟩
    intro y hy
    have hfound : y.store.get device' ramSize registerCount = found := by
      rw [MemoryStore.get, ← hy.saved_eq]
      rfl
    rw [after, Chip.powerUp_memory, hfound]
    rfl
  | job device' j =>
    obtain rfl : device' = device := Option.some.inj he
    cases hchip : x.chips device' with
    | none =>
      refine ⟨⟨.noChip, none, none⟩, .of_none rfl, ?_⟩
      intro y hy
      have hempty : y.chips device' = none := hy.chip_eq.symm.trans hchip
      have hchips : Function.update y.chips device' none = y.chips := by
        rw [← hempty, Function.update_eq_self]
      rw [after, hempty, leave, hchips]
      rfl
    | some c =>
      obtain ⟨f, hf, hrun⟩ := j.exists_effect x.clock c
      rw [hx device' c hchip] at hf hrun
      refine ⟨f, hf, ?_⟩
      intro y hy
      rw [after, ← hy.chip_eq, hchip]
      dsimp only
      rw [← hy.clock_eq, hrun, hy.clock_eq]
      rfl

/-- What happens under another name is not seen. -/
theorem alike_after_of_ne (hne : a ≠ b) (hx : x.Labelled) {e : Happening}
    (he : e.device? = some b) : Alike a (x.after e) x := by
  obtain ⟨f, -, hafter⟩ := exists_effect he hx
  rw [hafter x (.refl b x)]
  exact alike_leave_of_ne hne x f

/-- What happens to two racks that look the same from a name leaves them looking the same from
there, whatever name it is about. -/
theorem Alike.after (h : Alike a x y) (hx : x.Labelled) (hy : y.Labelled) (e : Happening) :
    Alike a (x.after e) (y.after e) := by
  cases hdevice : e.device? with
  | none =>
    obtain ⟨clock, rfl⟩ := Happening.exists_tick hdevice
    exact ⟨rfl, h.chip_eq, h.saved_eq, h.answers_eq⟩
  | some b =>
    by_cases hb : a = b
    · subst hb
      obtain ⟨f, -, hafter⟩ := exists_effect hdevice hx
      rw [hafter x (.refl a x), hafter y h]
      exact h.leave f
    · -- neither of them is changed as far as is seen
      have hleft := alike_after_of_ne hb hx hdevice
      have hright := alike_after_of_ne hb hy hdevice
      exact hleft.trans (h.trans hright.symm)

theorem Labelled.after (h : x.Labelled) (e : Happening) : (x.after e).Labelled := by
  cases hdevice : e.device? with
  | none =>
    obtain ⟨clock, rfl⟩ := Happening.exists_tick hdevice
    exact h
  | some b =>
    obtain ⟨f, hf, hafter⟩ := exists_effect hdevice h
    rw [hafter x (.refl b x)]
    exact h.leave hf

/-! ### Runs -/

theorem fresh_labelled (clock : HostClock) (s : MemoryStore) : (fresh clock s).Labelled := by
  intro device c hc
  cases hc

/-- Leaving out what is done under another name is not seen from a name. -/
theorem Alike.afterAll_without (hne : a ≠ b) (h : Alike a x y) (hx : x.Labelled)
    (hy : y.Labelled) (es : List Happening) :
    Alike a (x.afterAll es) (y.afterAll (withoutDevice b es)) := by
  induction es generalizing x y with
  | nil => exact h
  | cons e es ih =>
    by_cases he : e.device? = some b
    · -- the happening is left out, and only `x` moves on
      have hskip : withoutDevice b (e :: es) = withoutDevice b es := by simp [withoutDevice, he]
      rw [hskip]
      exact ih ((alike_after_of_ne hne hx he).trans h) (hx.after e) hy
    · have hkeep : withoutDevice b (e :: es) = e :: withoutDevice b es := by
        simp [withoutDevice, he]
      rw [hkeep]
      exact ih (h.after hx hy e) (hx.after e) (hy.after e)

/-- The saves of a store are those that were reported, as long as only two names are in use. -/
theorem saves_afterAll (hne : a ≠ b) (hx : x.Labelled) {n : Nat}
    (hcount : x.store.saves = n + x.savesOf a + x.savesOf b) {es : List Happening}
    (honly : ∀ e ∈ es, ∀ device ∈ e.device?, device = a ∨ device = b) :
    (x.afterAll es).store.saves = n + (x.afterAll es).savesOf a + (x.afterAll es).savesOf b := by
  induction es generalizing x with
  | nil => exact hcount
  | cons e es ih =>
    refine ih (hx.after e) ?_ fun e' he' => honly e' (List.mem_cons_of_mem e he')
    cases hdevice : e.device? with
    | none =>
      obtain ⟨clock, rfl⟩ := Happening.exists_tick hdevice
      exact hcount
    | some device =>
      obtain ⟨f, hf, hafter⟩ := exists_effect hdevice hx
      -- the store and one of the two counts go up together, and the other count stays
      rw [hafter x (.refl device x), saves_leave hf]
      rcases honly e List.mem_cons_self device hdevice with rfl | rfl
      · rw [savesOf_leave_self, savesOf_leave_of_ne hne.symm]
        omega
      · rw [savesOf_leave_self, savesOf_leave_of_ne hne]
        omega

/-- **A chip is what it would be without its neighbour.**  On any store in memory and under any host
clock that moves as it likes, chips are powered up, used, saved, powered down and taken away in any
order.  What is done under another name changes neither the chip of a name, nor what is saved under
it, nor any answer that it gives; this holds behind every happening, as the run up to there is a run
itself.  And if there are two names in all, the saves that the store counts are those that the two
chips have reported. -/
theorem afterAll_eq_without (clock : HostClock) (s : MemoryStore) (hne : a ≠ b)
    (es : List Happening) :
    let both := (fresh clock s).afterAll es
    let alone := (fresh clock s).afterAll (withoutDevice b es)
    both.clock = alone.clock
      ∧ both.chips a = alone.chips a
      ∧ both.store.shelf.find? a = alone.store.shelf.find? a
      ∧ both.answersOf a = alone.answersOf a
      ∧ ((∀ e ∈ es, ∀ device ∈ e.device?, device = a ∨ device = b) →
        both.store.saves = s.saves + both.savesOf a + both.savesOf b) := by
  intro both alone
  have hlabelled := fresh_labelled clock s
  have halike : Alike a both alone := (Alike.refl a _).afterAll_without hne hlabelled hlabelled es
  exact ⟨halike.clock_eq, halike.chip_eq, halike.saved_eq, halike.answers_eq,
    saves_afterAll hne hlabelled rfl⟩

/-- Two chips are written to in turn while the clock moves.  One is saved and powered down, and
comes back while the other is in the middle of a transfer. -/
def inTurn : List Happening :=
  [.powerUp "rtc", .powerUp "alarm", .job "rtc" (.transfer (.write 0x10 [0x5a])),
    .tick (.plain 60 0), .job "alarm" (.transfer (.write 0x10 [1, 2])), .job "alarm" .save,
    .job "rtc" (.transfer .start), .job "rtc" (.line (.clock true)), .job "alarm" (.powerDown true),
    .powerUp "alarm", .job "rtc" .save, .job "alarm" (.transfer (.write 0x10 [3])),
    .job "alarm" (.powerDown true), .job "rtc" (.transfer (.read 0x10 1)), .job "rtc" .remove]

/-- Of the three saves one is that of the chip that would have been alone. -/
theorem afterAll_eq_without_inTurn :
    "rtc" ≠ "alarm"
      ∧ let both := (fresh (.plain 0 0) .empty).afterAll inTurn
        let alone := (fresh (.plain 0 0) .empty).afterAll (withoutDevice "alarm" inTurn)
        both.answersOf "rtc" = alone.answersOf "rtc"
          ∧ both.store.shelf.find? "rtc" = alone.store.shelf.find? "rtc"
          ∧ both.savesOf "rtc" = 1 ∧ both.savesOf "alarm" = 2 ∧ both.store.saves = 3 := by
  have hne : "rtc" ≠ "alarm" := by decide
  obtain ⟨-, -, hsaved, hanswers, hcount⟩ := afterAll_eq_without (.plain 0 0) .empty hne inTurn
  have hrtc : ((fresh (.plain 0 0) .empty).afterAll inTurn).savesOf "rtc" = 1 := by decide +kernel
  have halarm : ((fresh (.plain 0 0) .empty).afterAll inTurn).savesOf "alarm" = 2 := by
    decide +kernel
  refine ⟨hne, hanswers, hsaved, hrtc, halarm, ?_⟩
  rw [hcount (by decide), hrtc, halarm]
  rfl

end Rack

end ClockChip
