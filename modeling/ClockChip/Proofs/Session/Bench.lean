import ClockChip.Proofs.Chip.Persistence
import ClockChip.Proofs.Store.SaveFile
import ClockChip.Session.Run

/-!
# Files on a bench

A bench carries a tree of files along with a clock and what was printed.  Whatever a program does
with the files of a bench, it does to the tree alone: an action on the tree is an action on the
bench, one step after the other.  A save directory and a settings file on a bench are therefore
those of its tree.

## Main results

* `Bench.onFiles_bind`: actions on the tree are composed on the bench.
* `Bench.run_load`, `Bench.run_save`: a save directory on a bench.
* `Bench.run_settings`: the settings of a session on a bench.
* `Bench.run_printLines`: lines are printed behind those that were printed before.
* `Bench.run_carryOut_of_performed`: a command that is carried out, in its three steps.
-/

namespace ClockChip

/-- What a settings file says is told by the tree, and loading it changes nothing. -/
theorem Settings.run_load (t : FileTree) (path : String) :
    (Settings.load path : StateM FileTree _).run t
      = (match t.readFile path with
        | .ok content => Settings.interpret path content
        | .error (.opening _) => .ok .standard
        | .error (.transfer e) => .error (.unreadable e), t) := by
  rw [Settings.load, run_bind_of (FileTree.run_readFile t path)]
  rcases t.readFile path with (e | e) | content <;> rfl

namespace Bench

variable {α β : Type}

/-! ### Actions on files -/

theorem onFiles_bind (x : StateM FileTree α) (f : α → StateM FileTree β) :
    onFiles (x >>= f) = onFiles x >>= fun a => onFiles (f a) := rfl

theorem run_onFiles (x : StateM FileTree α) (b : Bench) :
    (onFiles x).run b = ((x.run b.files).1, { b with files := (x.run b.files).2 }) := rfl

theorem onFiles_load (dir device : String) (m n : Nat) :
    onFiles (SaveDirectory.load dir device m n) = SaveDirectory.load dir device m n := by
  rw [SaveDirectory.load, SaveDirectory.load, onFiles_bind]
  refine congrArg _ (funext fun r => ?_)
  split <;> rfl

theorem onFiles_settings (path : String) :
    onFiles (Settings.load path) = Settings.load path := by
  rw [Settings.load, Settings.load, onFiles_bind]
  refine congrArg _ (funext fun r => ?_)
  split <;> rfl

theorem onFiles_settleDirectory (path : String) :
    onFiles (settleDirectory path) = settleDirectory path := by
  rw [settleDirectory, settleDirectory, onFiles_bind]
  refine congrArg _ (funext fun r => ?_)
  split <;> rfl

theorem onFiles_settleFrom (paths : List String) :
    onFiles (settleFrom paths) = settleFrom paths := by
  induction paths with
  | nil => rfl
  | cons path above ih =>
    rw [settleFrom, settleFrom]
    split
    · rfl
    · rw [onFiles_bind]
      refine congrArg _ (funext fun r => ?_)
      split
      · rfl
      · rw [onFiles_bind, ih]
        refine congrArg _ (funext fun r => ?_)
        split
        · exact onFiles_settleDirectory path
        · rfl
      · rfl

theorem onFiles_save (dir device : String) (context : Context) :
    onFiles (SaveDirectory.save dir device context) = SaveDirectory.save dir device context := by
  rw [SaveDirectory.save, SaveDirectory.save, onFiles_bind, makeDirectories, onFiles_settleFrom]
  refine congrArg _ (funext fun r => ?_)
  split
  · rfl
  · rw [onFiles_bind]
    refine congrArg _ (funext fun r => ?_)
    split <;> rfl

/-! ### Programs on a bench -/

/-- A load on a bench is one in its tree, and changes nothing. -/
theorem run_load (dir device : String) (m n : Nat) (b : Bench) :
    (SaveDirectory.load dir device m n : StateM Bench _).run b
      = (((SaveDirectory.load dir device m n : StateM FileTree _).run b.files).1, b) := by
  rw [← onFiles_load, run_onFiles, SaveDirectory.run_load]

/-- A save on a bench is one in its tree. -/
theorem run_save (dir device : String) (context : Context) (b : Bench) :
    (SaveDirectory.save dir device context : StateM Bench _).run b
      = (((SaveDirectory.save dir device context : StateM FileTree _).run b.files).1,
        { b with files :=
          ((SaveDirectory.save dir device context : StateM FileTree _).run b.files).2 }) := by
  rw [← onFiles_save, run_onFiles]

/-- The settings of a session are those of its tree, with the command line's own. -/
theorem run_settings (i : Invocation) (b : Bench) :
    (i.settings : StateM Bench _).run b
      = (((Settings.load i.configFile : StateM FileTree _).run b.files).1.map i.adjust, b) := by
  have hload : (Settings.load i.configFile : StateM Bench _).run b
      = (((Settings.load i.configFile : StateM FileTree _).run b.files).1, b) := by
    rw [← onFiles_settings, run_onFiles, Settings.run_load]
  rw [Invocation.settings, run_bind_of hload]
  rcases ((Settings.load i.configFile : StateM FileTree _).run b.files).1 with e | s <;> rfl

theorem run_printLines (lines : List String) (b : Bench) :
    (Chip.printLines lines : StateM Bench Unit).run b
      = ((), { b with printed := b.printed ++ lines }) := by
  induction lines generalizing b with
  | nil => rw [List.append_nil]; rfl
  | cons line lines ih =>
    refine (ih { b with printed := b.printed ++ [line] }).trans ?_
    rw [List.append_assoc]
    rfl

/-! ### Commands that are carried out -/

section

variable {b b' b'' : Bench} {s : Settings} {command : Command} {c c' : Chip}

/-- Powering down with saving saves the changes. -/
theorem run_powerDown_of_saveChanges {store : Store (StateM Bench)} {r : Except StoreError Bool}
    (h : (c.saveChanges store).run b = ((r, c'), b')) :
    (c.powerDown store true).run b = (r, b') := by
  rw [Chip.powerDown, if_pos rfl, run_bind_of h]
  rfl

/-- A chip that cannot be powered up ends the session. -/
theorem run_carryOut_of_unopened {e : StoreError}
    (hopen : (Chip.powerUp (SaveDirectory.store s.savesDir) s.device : StateM Bench _).run b
      = (.error e, b)) :
    (Session.carryOut s command : StateM Bench _).run b = (.error (.store e), b) := by
  rw [Session.carryOut, run_bind_of hopen]
  rfl

/-- A command that fails ends the session before the chip is powered down. -/
theorem run_carryOut_of_failed {e : TransferError}
    (hopen : (Chip.powerUp (SaveDirectory.store s.savesDir) s.device : StateM Bench _).run b
      = (.ok c, b))
    (hperform : (command.perform c : StateM Bench _).run b = ((.error e, c'), b')) :
    (Session.carryOut s command : StateM Bench _).run b = (.error (.transfer e), b') := by
  rw [Session.carryOut, run_bind_of hopen]
  dsimp only
  rw [run_bind_of hperform]
  rfl

/-- A command that was carried out ends with the power down of its chip. -/
theorem run_carryOut_of_performed {r : Except StoreError Bool}
    (hopen : (Chip.powerUp (SaveDirectory.store s.savesDir) s.device : StateM Bench _).run b
      = (.ok c, b))
    (hperform : (command.perform c : StateM Bench _).run b = ((.ok (), c'), b'))
    (hdown : (c'.powerDown (SaveDirectory.store s.savesDir) s.saveOnExit : StateM Bench _).run b'
      = (r, b'')) :
    (Session.carryOut s command : StateM Bench _).run b = (r.mapError .store, b'') := by
  rw [Session.carryOut, run_bind_of hopen]
  dsimp only
  rw [run_bind_of hperform]
  dsimp only
  rw [run_bind_of hdown]
  cases r <;> rfl

end

end Bench

end ClockChip
