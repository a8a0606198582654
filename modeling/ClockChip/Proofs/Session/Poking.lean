import ClockChip.Proofs.Chip.Unset
import ClockChip.Proofs.Command.PokeLine
import ClockChip.Proofs.Session.ReadOnly
import ClockChip.Proofs.Session.Standard
import ClockChip.Proofs.Session.Table

/-!
# Pokes from run to run

Each run of the program powers up a chip from the save file and, at its end, saves what has
changed.  Pokes past the clock therefore add up from run to run as if they were writes to one
memory: the save file has at each address the byte that was poked there last, by whichever run, and
zero elsewhere.  A run that changes none of these bytes does not write the file.  The halt bit is
such a byte, and a chip that is powered up runs whatever it says, so that a run is not disturbed by
one that halted the clock.

A run can fail before its chip is powered up or when its changes are saved, if something stands in
the way of the save file; then it has poked nothing.

## Main definitions

* `lastPoked`: the byte that was poked to an address last.
* `Poking`, `Poking.after`, `Poking.afterAll`: the runs that succeeded, and the files they left.

## Main results

* `Bench.session_poke`: one poke.
* `Poking.after_sound`, `Poking.afterAll_sound`: one run, and any runs, leave what was poked last.
* `Bench.session_dump`: a dump behind them.
* `Poking.pokes_accumulate`: **pokes add up from run to run, and a dump shows them.**
-/

namespace ClockChip

/-! ### One run -/

theorem Context.unset_counted (f : Nat → UInt8) : (unset f).Counted := by
  obtain ⟨hram, hregisters, -⟩ := unset_fits f
  exact ⟨by rw [hram]; decide, by rw [hregisters]; decide⟩

/-- A burst goes through, and the chip is still of its name and knows what was saved. -/
theorem Chip.exists_of_writeBurst (clock : HostClock) (pointer : UInt8) (vals : List UInt8)
    (c : Chip) :
    ∃ c', (wire clock).writeBurst pointer vals c = (.ok (), c')
      ∧ c'.device = c.device ∧ c'.baseline = c.baseline :=
  ⟨_, writeBurst_eq_latch_write clock pointer vals c, rfl, rfl⟩

namespace Bench

variable {b : Bench}

/-- **One poke past the clock** replaces the bytes that it writes in what is saved, or fails. -/
theorem session_poke {f : Nat → UInt8} (hsettings : b.files.find? FileTree.settingsPlace = none)
    (hsaved : b.files.savedContext = .ok (.unset f)) (l : PokeLine)
    (hpast : PastClock l.address.toNat l.values.length) :
    ∃ r t', b.session l.words = (r, { b with files := t' })
      ∧ t'.find? FileTree.settingsPlace = none
      ∧ b.files.Leaves (.unset f)
        (.unset fun a => (bytesAt a l.address.toNat l.values).getLastD (f a)) r t' := by
  rw [session_of_parse l.parse_words hsettings]
  rcases run_powerUp_standard hsaved (Context.unset_fits f) with hopen | ⟨⟨e, hopen⟩, hnot⟩
  · obtain ⟨c, hburst, hdevice, hbaseline⟩ := Chip.exists_of_writeBurst b.source.host l.address
      l.values (Chip.ofContext "pcf8583" (.unset f))
    have hcontext := Chip.context_writeBurst b.source.host "pcf8583" f hpast
    rw [hburst] at hcontext
    have hperform := run_poke l.address l.values (Chip.ofContext "pcf8583" (.unset f)) b
    rw [hburst] at hperform
    have hcounted : c.context.Counted := by
      rw [hcontext]
      exact Context.unset_counted _
    obtain ⟨r, t', hdown, hsettings', hleaves⟩ :=
      run_powerDown_standard hdevice hbaseline hcounted hsaved
    refine ⟨_, t', run_carryOut_of_performed hopen hperform hdown, hsettings'.trans hsettings, ?_⟩
    rw [← hcontext]
    exact hleaves.mapError Failure.store
  · exact ⟨.error (.store e), b.files, run_carryOut_of_unopened hopen, hsettings,
      .failed _ b.files hnot hsaved rfl⟩

/-- **A dump shows the bytes that are saved**, and changes nothing. -/
theorem session_dump {f : Nat → UInt8} (hsettings : b.files.find? FileTree.settingsPlace = none)
    (hsaved : b.files.savedContext = .ok (.unset f)) :
    (∃ lines, b.session ["dump"] = (.ok false, { b with printed := b.printed ++ lines })
        ∧ ∀ a < addressCount, Keeps a → Report.Shows lines a (f a))
      ∨ (∃ e, b.session ["dump"] = (.error e, b)) ∧ ¬ b.files.Writable := by
  have hparse : Invocation.parse ["dump"]
      = .ok ⟨Invocation.standardConfigFile, none, none, false, .dump⟩ := rfl
  rw [session_of_parse hparse hsettings]
  rcases run_powerUp_standard hsaved (Context.unset_fits f) with hopen | ⟨⟨e, hopen⟩, hnot⟩
  · left
    obtain ⟨bit, shift, hshow⟩ := run_showAll (Chip.ofContext "pcf8583" (.unset f)) b
    generalize hread : (Chip.ofContext "pcf8583" (.unset f)).withSnapshot _ _ = c at hshow
    have hunsaved : c.hasUnsaved = false := by
      rw [← hread, Chip.hasUnsaved_withSnapshot,
        Chip.hasUnsaved_ofContext "pcf8583" (Context.unset_fits f)]
    rw [← run_dump] at hshow
    have hlen := Chip.length_latched b.source.host addressCount
      (Chip.ofContext "pcf8583" (.unset f))
    obtain ⟨lines, hlines, hshows⟩ := Report.dump_shows hlen
    rw [hlines, Option.getD_some] at hshow
    have hdown := run_powerDown_of_saveChanges (Chip.saveChanges_of_saved
      (SaveDirectory.store Settings.standard.savesDir) hunsaved
      { b with printed := b.printed ++ lines })
    refine ⟨lines, run_carryOut_of_performed hopen hshow hdown, ?_⟩
    intro a ha hkeeps
    have hbyte := hshows a (by rwa [hlen])
    rwa [Chip.getElem_latched _ ha hkeeps, Chip.kept_ofContext _ f ha, if_pos hkeeps] at hbyte
  · exact .inr ⟨⟨_, run_carryOut_of_unopened hopen⟩, hnot⟩

end Bench

/-! ### Runs -/

/-- The bytes that pokes write to an address, in order. -/
def pokedTo (ls : List PokeLine) (address : Nat) : List UInt8 :=
  ls.flatMap fun l => bytesAt address l.address.toNat l.values

/-- The byte that was poked to an address last, or zero. -/
def lastPoked (ls : List PokeLine) (address : Nat) : UInt8 := (pokedTo ls address).getLastD 0

theorem lastPoked_concat (ls : List PokeLine) (l : PokeLine) :
    lastPoked (ls ++ [l])
      = fun a => (bytesAt a l.address.toNat l.values).getLastD (lastPoked ls a) := by
  funext a
  rw [lastPoked, pokedTo, List.flatMap_append, getLastD_append, List.flatMap_singleton]
  rfl

/-- Where runs that poke have led. -/
structure Poking where
  /-- The lines of the runs that have succeeded, in order. -/
  done : List PokeLine
  /-- The files that are left. -/
  files : FileTree

namespace Poking

/-- One run more, at the time of a clock. -/
def after (p : Poking) (run : ClockSource × PokeLine) : Poking :=
  let (outcome, b) := Bench.session run.2.words ⟨run.1, p.files, []⟩
  match outcome with
  | .ok _ => ⟨p.done ++ [run.2], b.files⟩
  | .error _ => ⟨p.done, b.files⟩

/-- Runs one after the other. -/
def afterAll (p : Poking) (runs : List (ClockSource × PokeLine)) : Poking := runs.foldl after p

/-- There is no settings file, and what is saved has at each address what was poked there last. -/
structure Sound (p : Poking) : Prop where
  settings : p.files.find? FileTree.settingsPlace = none
  saved : p.files.savedContext = .ok (.unset (lastPoked p.done))

variable {p : Poking}

/-- One poke behind others. -/
theorem Sound.session (h : p.Sound) (source : ClockSource) (printed : List String) {l : PokeLine}
    (hpast : PastClock l.address.toNat l.values.length) :
    ∃ r t', Bench.session l.words ⟨source, p.files, printed⟩ = (r, ⟨source, t', printed⟩)
      ∧ t'.find? FileTree.settingsPlace = none
      ∧ p.files.Leaves (.unset (lastPoked p.done)) (.unset (lastPoked (p.done ++ [l]))) r t' := by
  rw [lastPoked_concat]
  refine Bench.session_poke ?_ ?_ l hpast
  · exact h.settings
  · exact h.saved

/-- **One run leaves what was poked last.**  If nothing is in the way of the save file it succeeds,
and still nothing is. -/
theorem after_sound (h : p.Sound) {run : ClockSource × PokeLine}
    (hpast : PastClock run.2.address.toNat run.2.values.length) :
    (p.after run).Sound ∧ (p.files.Writable →
      (p.after run).files.Writable ∧ (p.after run).done = p.done ++ [run.2]) := by
  obtain ⟨r, t', hsession, hsettings, hleaves⟩ := h.session run.1 [] hpast
  rw [after, hsession]
  cases hleaves with
  | succeeded _ hsaved hsame hwritable =>
    exact ⟨⟨hsettings, hsaved⟩, fun hfree => ⟨hwritable hfree, rfl⟩⟩
  | failed e _ hnot hsaved hfile =>
    exact ⟨⟨hsettings, hsaved⟩, fun hfree => absurd hfree hnot⟩

/-- **Any runs leave what was poked last.** -/
theorem afterAll_sound (h : p.Sound) {runs : List (ClockSource × PokeLine)}
    (hpast : ∀ run ∈ runs, PastClock run.2.address.toNat run.2.values.length) :
    (p.afterAll runs).Sound ∧ (p.files.Writable →
      (p.afterAll runs).files.Writable ∧ (p.afterAll runs).done = p.done ++ runs.map Prod.snd) := by
  induction runs generalizing p with
  | nil => exact ⟨h, fun hfree => ⟨hfree, (List.append_nil _).symm⟩⟩
  | cons run runs ih =>
    obtain ⟨hsound, hone⟩ := after_sound h (hpast run (List.mem_cons_self ..))
    obtain ⟨hall, hrest⟩ := ih hsound fun x hx => hpast x (List.mem_cons_of_mem run hx)
    refine ⟨hall, fun hfree => ?_⟩
    obtain ⟨hfree', hdone⟩ := hone hfree
    obtain ⟨hfree'', hdone'⟩ := hrest hfree'
    refine ⟨hfree'', hdone'.trans ?_⟩
    rw [hdone, List.append_assoc]
    rfl

/-- **Pokes past the clock add up from run to run.**  From a tree without a settings file and
without a save file on, and whatever the time is in each of the runs:

* what is saved has at each address that keeps a byte the one that was poked there last, by a run
  that succeeded, zero at every other address, and no offset;
* all runs succeed if nothing stands in the way of the save file;
* one run more succeeds, tells whether it changed what is saved and leaves the files as they were
  if it did not, or it fails because something is in the way, and leaves the save file as it was;
* a dump shows these bytes in its rows, and leaves the files as they were. -/
theorem pokes_accumulate {t : FileTree} (hsettings : t.find? FileTree.settingsPlace = none)
    (hmissing : ∀ content, t.readFile saveFile ≠ .ok content)
    {runs : List (ClockSource × PokeLine)}
    (hpast : ∀ run ∈ runs, PastClock run.2.address.toNat run.2.values.length) :
    let p := afterAll ⟨[], t⟩ runs
    p.files.savedContext = .ok (.unset (lastPoked p.done))
      ∧ (t.Writable → p.files.Writable ∧ p.done = runs.map Prod.snd)
      ∧ (∀ source printed l, PastClock l.address.toNat l.values.length →
        ∃ r t', Bench.session l.words ⟨source, p.files, printed⟩ = (r, ⟨source, t', printed⟩)
          ∧ p.files.Leaves (.unset (lastPoked p.done)) (.unset (lastPoked (p.done ++ [l]))) r t')
      ∧ ∀ source printed,
        (∃ lines, Bench.session ["dump"] ⟨source, p.files, printed⟩
              = (.ok false, ⟨source, p.files, printed ++ lines⟩)
            ∧ ∀ a < addressCount, Keeps a → Report.Shows lines a (lastPoked p.done a))
          ∨ (∃ e, Bench.session ["dump"] ⟨source, p.files, printed⟩
              = (.error e, ⟨source, p.files, printed⟩)) ∧ ¬ p.files.Writable := by
  intro p
  have hnothing : (⟨[], t⟩ : Poking).Sound := by
    refine ⟨hsettings, (FileTree.savedContext_of_missing hmissing).trans ?_⟩
    rw [← Context.unset_zero]
    rfl
  obtain ⟨hsound, hall⟩ := afterAll_sound hnothing hpast
  refine ⟨hsound.saved, hall, ?_, ?_⟩
  · intro source printed l hl
    obtain ⟨r, t', hsession, -, hleaves⟩ := hsound.session source printed hl
    exact ⟨r, t', hsession, hleaves⟩
  · intro source printed
    refine Bench.session_dump ?_ ?_
    · exact hsound.settings
    · exact hsound.saved

/-- The clock is halted. -/
def haltLine : PokeLine where
  addressWord := "0"
  valueWords := ["0x80"]
  address := 0
  values := [0x80]
  nonempty := by decide
  address_eq := by decide
  values_eq := by decide

/-- Bytes are written around the end of the memory, the last one to the control register. -/
def wrappedLine : PokeLine where
  addressWord := "0xfe"
  valueWords := ["1", "+2", "0X03"]
  address := 0xfe
  values := [1, 2, 3]
  nonempty := by decide
  address_eq := by decide
  values_eq := by decide

/-- The clock is halted twice, under clocks that have nothing to do with each other, and then bytes
are written around the end of the memory. -/
def haltedRuns : List (ClockSource × PokeLine) :=
  [(.manual 0 0, haltLine), (.stuck 5 7 0 0, haltLine), (.counter 1000, wrappedLine)]

/-- From an empty tree on all of them succeed, and the byte at the control register is that of the
last one. -/
theorem pokes_accumulate_halted :
    FileTree.empty.find? FileTree.settingsPlace = none
      ∧ (∀ content, FileTree.empty.readFile saveFile ≠ .ok content)
      ∧ (∀ run ∈ haltedRuns, PastClock run.2.address.toNat run.2.values.length)
      ∧ FileTree.empty.Writable
      ∧ let p := afterAll ⟨[], .empty⟩ haltedRuns
        p.done = [haltLine, haltLine, wrappedLine]
          ∧ p.files.savedContext = .ok (.unset (lastPoked p.done))
          ∧ lastPoked p.done 0 = 3 ∧ lastPoked p.done 0xfe = 1 ∧ lastPoked p.done 0x10 = 0 := by
  have hsettings : FileTree.empty.find? FileTree.settingsPlace = none := by decide
  have hsaves : FileTree.empty.find? FileTree.savesPlace = none := by decide
  have hmissing : ∀ content, FileTree.empty.readFile saveFile ≠ .ok content := by
    simp [FileTree.readFile_saveFile, hsaves]
  have hpast : ∀ run ∈ haltedRuns, PastClock run.2.address.toNat run.2.values.length := by decide
  have hwritable : FileTree.empty.Writable := ⟨by simp [hsaves], by decide⟩
  obtain ⟨hsaved, hall, -, -⟩ := pokes_accumulate hsettings hmissing hpast
  refine ⟨hsettings, hmissing, hpast, hwritable, ?_⟩
  intro p
  have hdone : p.done = [haltLine, haltLine, wrappedLine] := (hall hwritable).2
  refine ⟨hdone, hsaved, ?_, ?_, ?_⟩
  all_goals
    rw [hdone]
    decide

end Poking

end ClockChip
