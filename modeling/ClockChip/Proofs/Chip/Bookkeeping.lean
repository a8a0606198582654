import ClockChip.Proofs.Chip.Loading
import ClockChip.Proofs.Store.Recording

/-!
# What a chip knows of its store

A chip remembers the context that it last adopted or saved, and takes what its battery would keep
for unsaved as soon as it differs from that.  The store may fail and recover at any time.  The
chip's memory of it is moved by a save that succeeds and by nothing else, neither by a save that
fails nor by an image that is taken over, so that no change is ever forgotten and none is saved
twice.

## Main definitions

* `Use`, `Usage`, `Usage.after`: what happens to a chip and its store, and what has come of it.
* `Usage.finish`: the power down at the end.
* `lastKept`: the context that was adopted at power up or taken by the store since.

## Main results

* `Usage.after_tracks`, `Usage.afterAll_tracks`: **one use, and a run of them, keep the books.**
* `Usage.bookkeeping_of_powerUp`: **what is unsaved, what a save does and how often the store was
  reached, along every run under a store that may fail.**
-/

namespace ClockChip

/-- What can happen to a chip from its power up on, or to its store. -/
inductive Use (σ : Type) where
  /-- A line is set to a level under a host clock. -/
  | line (clock : HostClock) (e : LineEvent)
  /-- Bytes are given to the chip as an image. -/
  | takeImage (bs : List UInt8)
  /-- Changes are saved. -/
  | save
  /-- Something happens to the store, such as being switched off or on. -/
  | disturb (f : σ → σ)

/-- A chip in use, with its store. -/
structure Usage (σ : Type) where
  /-- The chip. -/
  chip : Chip
  /-- The state of the store. -/
  stored : σ
  /-- The calls that the store has had, the latest last. -/
  calls : List StoreCall
  /-- The answers that were given to saves, the latest last. -/
  answers : List (Except StoreError Bool)

/-- The answer reports that something was saved. -/
def reportsSave : Except StoreError Bool → Bool
  | .ok saved => saved
  | .error _ => false

/-- The context that was adopted, or the last one that the store has taken since. -/
def lastKept (adopted : Context) (calls : List StoreCall) : Context :=
  (takenContexts calls).getLastD adopted

namespace Usage

variable {σ : Type} (store : Store (StateM σ))

/-- A chip that was just powered up. -/
def opened (c : Chip) (x : σ) : Usage σ := ⟨c, x, [], []⟩

/-- The chip and its store behind one use. -/
def after (u : Usage σ) : Use σ → Usage σ
  | .line clock e => { u with chip := u.chip.step clock e }
  | .takeImage bs =>
    match u.chip.loadImage bs with
    | .ok c => { u with chip := c }
    | .error _ => u
  | .save =>
    let ((answer, chip), stored, calls) :=
      (u.chip.saveChanges store.recorded).run (u.stored, u.calls)
    ⟨chip, stored, calls, u.answers ++ [answer]⟩
  | .disturb f => { u with stored := f u.stored }

/-- The chip and its store behind a run. -/
def afterAll (u : Usage σ) (us : List (Use σ)) : Usage σ := us.foldl (after store) u

/-- What is left when the chip is powered down: its store, the calls and the answers. -/
def finish (saving : Bool) (u : Usage σ) : σ × List StoreCall × List (Except StoreError Bool) :=
  let (answer, stored, calls) := (u.chip.powerDown store.recorded saving).run (u.stored, u.calls)
  (stored, calls, u.answers ++ [answer])

/-! ### One save -/

variable {store}

/-- A chip without changes does not call its store. -/
theorem after_save_of_saved {u : Usage σ} (h : u.chip.hasUnsaved = false) :
    u.after store .save = { u with answers := u.answers ++ [.ok false] } := by
  rw [after, Chip.saveChanges_of_saved store.recorded h]

/-- A chip with changes calls its store with just what its battery would keep.  If the store takes
it, this is what the chip remembers from then on, and if not the chip stays as it is. -/
theorem after_save_of_unsaved (store : Store (StateM σ)) {u : Usage σ}
    (h : u.chip.hasUnsaved = true) :
    (∃ y, (store.save u.chip.device u.chip.context).run u.stored = (.ok (), y)
        ∧ u.after store .save
          = ⟨{ u.chip with baseline := u.chip.context }, y,
              u.calls ++ [.save u.chip.device u.chip.context (.ok ())],
              u.answers ++ [.ok true]⟩)
      ∨ ∃ e y, (store.save u.chip.device u.chip.context).run u.stored = (.error e, y)
        ∧ u.after store .save
          = ⟨u.chip, y, u.calls ++ [.save u.chip.device u.chip.context (.error e)],
              u.answers ++ [.error e]⟩ := by
  rcases hsave : (store.save u.chip.device u.chip.context).run u.stored with ⟨e | ⟨⟩, y⟩
  · right
    refine ⟨e, y, rfl, ?_⟩
    rw [after, Chip.saveChanges_of_refused h (Store.run_save_recorded hsave u.calls)]
  · left
    refine ⟨y, rfl, ?_⟩
    rw [after, Chip.saveChanges_of_taken h (Store.run_save_recorded hsave u.calls)]

/-- Powering down with saving is a save, and without saving it leaves the store alone. -/
theorem finish_eq (saving : Bool) (u : Usage σ) :
    finish store saving u
      = if saving then
          ((u.after store .save).stored, (u.after store .save).calls, (u.after store .save).answers)
        else (u.stored, u.calls, u.answers ++ [.ok false]) := by
  cases saving with
  | false => rfl
  | true => rfl

/-- A chip with changes calls its store at every save, with just what its battery would keep. -/
theorem calls_after_save (store : Store (StateM σ)) {u : Usage σ}
    (h : u.chip.hasUnsaved = true) :
    ∃ outcome, (u.after store .save).calls
      = u.calls ++ [.save u.chip.device u.chip.context outcome] := by
  rcases after_save_of_unsaved store h with ⟨y, -, hafter⟩ | ⟨e, y, -, hafter⟩
  · exact ⟨.ok (), by rw [hafter]⟩
  · exact ⟨.error e, by rw [hafter]⟩

/-! ### Runs -/

/-- The books of a chip in use: it remembers what was last kept, and each context that its store has
taken was reported by one answer. -/
structure Tracks (device : String) (adopted : Context) (u : Usage σ) : Prop where
  device_eq : u.chip.device = device
  baseline_eq : u.chip.baseline = lastKept adopted u.calls
  length_taken : (takenContexts u.calls).length = u.answers.countP reportsSave

variable {device : String} {adopted : Context} {u : Usage σ}

theorem opened_tracks (device : String) (adopted : Context) (x : σ) :
    Tracks device adopted (opened (Chip.ofContext device adopted) x) := ⟨rfl, rfl, rfl⟩

theorem after_save_tracks (h : Tracks device adopted u) :
    Tracks device adopted (u.after store .save) := by
  cases hunsaved : u.chip.hasUnsaved with
  | false =>
    rw [after_save_of_saved hunsaved]
    refine ⟨h.device_eq, h.baseline_eq, ?_⟩
    simp [h.length_taken, reportsSave]
  | true =>
    rcases after_save_of_unsaved store hunsaved with ⟨y, -, hafter⟩ | ⟨e, y, -, hafter⟩
    · rw [hafter]
      refine ⟨h.device_eq, ?_, ?_⟩
      · simp [lastKept]
      · simp [h.length_taken, reportsSave]
    · rw [hafter]
      refine ⟨h.device_eq, ?_, ?_⟩
      · simp [lastKept, h.baseline_eq]
      · simp [h.length_taken, reportsSave]

/-- **One use keeps the books.**  Line events, images and whatever happens to the store move neither
what the chip remembers nor the calls. -/
theorem after_tracks (h : Tracks device adopted u) (x : Use σ) :
    Tracks device adopted (u.after store x) := by
  cases x with
  | line clock e => exact ⟨h.device_eq, h.baseline_eq, h.length_taken⟩
  | takeImage bs =>
    rw [after]
    split
    case h_1 c hload =>
      obtain ⟨i, -, rfl⟩ := Chip.loadImage_eq_ok_iff.mp hload
      exact ⟨h.device_eq, h.baseline_eq, h.length_taken⟩
    case h_2 => exact h
  | save => exact after_save_tracks h
  | disturb f => exact ⟨h.device_eq, h.baseline_eq, h.length_taken⟩

/-- **A run keeps the books.** -/
theorem afterAll_tracks (h : Tracks device adopted u) (us : List (Use σ)) :
    Tracks device adopted (u.afterAll store us) := by
  induction us generalizing u with
  | nil => exact h
  | cons x us ih => exact ih (after_tracks h x)

/-- The answers at the end report each context that the store has taken. -/
theorem length_taken_finish (h : Tracks device adopted u) (saving : Bool) :
    (takenContexts (u.finish store saving).2.1).length
      = (u.finish store saving).2.2.countP reportsSave := by
  rw [finish_eq]
  cases saving with
  | false => simp [h.length_taken, reportsSave]
  | true => exact (after_save_tracks h).length_taken

theorem hasUnsaved_iff (h : Tracks device adopted u) :
    u.chip.hasUnsaved = true ↔ u.chip.context ≠ lastKept adopted u.calls := by
  rw [← h.baseline_eq, Chip.hasUnsaved, bne_iff_ne]

/-- **The books of a chip along every run**, for any store that saves whole contexts or nothing,
however often it fails in between.

* A chip has unsaved changes exactly if memory, registers and offset are not those that it adopted
  at power up, or those that the store has taken last.
* A save without changes reports that nothing was saved and does not call the store.
* A save of changes calls the store with just these.  Either the store takes them, which is reported
  and leaves nothing unsaved, or its error is passed on and the chip is as it was, so that the next
  save calls the store again, whatever has happened to it.
* Powering down with saving is a save, and without saving it leaves the store alone.
* At the end the store has taken as many contexts as answers reported a save. -/
theorem bookkeeping_of_powerUp {held : σ → String → Option Context}
    (hstore : store.SavesWhole held) {x y : σ} {c : Chip}
    (hopen : (Chip.powerUp store device).run x = (.ok c, y)) (us : List (Use σ)) :
    ∃ found, (store.load device ramSize registerCount).run x = (.ok found, y)
      ∧ let u := (opened c y).afterAll store us
        let saved := u.after store .save
        (u.chip.hasUnsaved = true
            ↔ u.chip.context ≠ lastKept (Chip.adopted found) u.calls)
          ∧ (u.chip.hasUnsaved = false →
            saved = { u with answers := u.answers ++ [.ok false] })
          ∧ (u.chip.hasUnsaved = true →
            (∃ z, saved = ⟨{ u.chip with baseline := u.chip.context }, z,
                  u.calls ++ [.save device u.chip.context (.ok ())], u.answers ++ [.ok true]⟩
                ∧ saved.chip.hasUnsaved = false
                ∧ held z device = some u.chip.context
                ∧ ∀ other ≠ device, held z other = held u.stored other)
              ∨ ∃ e z, (store.save device u.chip.context).run u.stored = (.error e, z)
                ∧ saved = ⟨u.chip, z, u.calls ++ [.save device u.chip.context (.error e)],
                  u.answers ++ [.error e]⟩
                ∧ held z = held u.stored
                ∧ ∀ f, ∃ outcome, ((saved.after store (.disturb f)).after store .save).calls
                  = saved.calls ++ [.save device u.chip.context outcome])
          ∧ u.finish store true = (saved.stored, saved.calls, saved.answers)
          ∧ u.finish store false = (u.stored, u.calls, u.answers ++ [.ok false])
          ∧ ∀ saving, (takenContexts (u.finish store saving).2.1).length
              = (u.finish store saving).2.2.countP reportsSave := by
  obtain ⟨found, hload, rfl⟩ := Chip.exists_of_powerUp hopen
  refine ⟨found, hload, ?_⟩
  intro u saved
  have htracks : Tracks device (Chip.adopted found) u :=
    afterAll_tracks (opened_tracks device (Chip.adopted found) y) us
  refine ⟨hasUnsaved_iff htracks, after_save_of_saved, ?_, finish_eq true u, finish_eq false u,
    length_taken_finish htracks⟩
  intro hunsaved
  rcases after_save_of_unsaved store hunsaved with
    ⟨z, hsave, hafter⟩ | ⟨e, z, hsave, hafter⟩
  · left
    rw [htracks.device_eq] at hsave hafter
    obtain ⟨hheld, hothers⟩ := hstore.of_ok hsave
    refine ⟨z, hafter, ?_, hheld, hothers⟩
    have hbaseline : saved.chip.baseline = u.chip.context :=
      congrArg (fun v => v.chip.baseline) hafter
    have hcontext : saved.chip.context = u.chip.context :=
      congrArg (fun v => v.chip.context) hafter
    rw [Chip.hasUnsaved, bne_eq_false_iff_eq, hbaseline, hcontext]
  · right
    rw [htracks.device_eq] at hsave hafter
    refine ⟨e, z, hsave, hafter, hstore.of_error hsave, ?_⟩
    intro f
    have hchip : (saved.after store (.disturb f)).chip = u.chip :=
      congrArg (fun v => (v.after store (.disturb f)).chip) hafter
    obtain ⟨outcome, hcalls⟩ := calls_after_save store (by rw [hchip]; exact hunsaved)
    rw [hchip, htracks.device_eq] at hcalls
    exact ⟨outcome, hcalls⟩

/-- A byte is written to the memory; a first save is refused, a second one is taken, and a third has
nothing left to do.  Then the chip takes over the image of a blank one. -/
def refusedThenTaken : List (Use UncheckedStore) :=
  (Chip.writeEvents [0x10, 0x5a]).map (.line (.plain 0 0))
    ++ [.disturb fun s => { s with failing := true }, .save,
      .disturb fun s => { s with failing := false }, .save, .save,
      .takeImage (Chip.ofContext "other" (.blank ramSize registerCount)).saveImage]

/-- The image has made changes to what was saved, and powering down saves them: in all the store has
taken two contexts. -/
theorem bookkeeping_of_powerUp_refusedThenTaken :
    UncheckedStore.store.SavesWhole (fun s => s.shelf.find?)
      ∧ ∃ c, (Chip.powerUp UncheckedStore.store "rtc").run .empty = (.ok c, .empty)
        ∧ let u := (opened c .empty).afterAll UncheckedStore.store refusedThenTaken
          u.answers.map reportsSave = [false, true, false]
            ∧ u.chip.hasUnsaved = true
            ∧ u.chip.context ≠ lastKept (.blank ramSize registerCount) u.calls
            ∧ (takenContexts (u.finish UncheckedStore.store true).2.1).length = 2 := by
  have hopen : (Chip.powerUp UncheckedStore.store "rtc").run .empty
      = (.ok (Chip.ofContext "rtc" (.blank ramSize registerCount)), .empty) := by rfl
  refine ⟨UncheckedStore.savesWhole, _, hopen, ?_⟩
  obtain ⟨found, hload, hunsaved, -, -, -, -, hcount⟩ :=
    bookkeeping_of_powerUp UncheckedStore.savesWhole hopen refusedThenTaken
  cases hload
  intro u
  have hchanged : u.chip.hasUnsaved = true := by decide +kernel
  refine ⟨by decide +kernel, hchanged, hunsaved.mp hchanged, ?_⟩
  rw [hcount true]
  decide +kernel

end Usage

end ClockChip
