import ClockChip.Command.Basic
import ClockChip.Session.Display
import ClockChip.Store.Directory

/-!
# A session

A session reads its command line and its settings, powers up the chip with what the save directory
has for it, carries out the command over the chip's two lines and saves what changed.  The first
failure ends it; what has been printed by then stays printed, and nothing is saved after a command
that failed.

## Main definitions

* `Failure`: how a session can fail.
* `Command.perform`: a command carried out on a chip.
* `Session.run`: a session in a monad that offers a clock, files and lines to print.
* `Bench.session`: a session on a bench.
-/

namespace ClockChip

/-- How a session fails. -/
inductive Failure where
  /-- The command line is not carried out. -/
  | usage (cause : UsageError)
  /-- There are no settings. -/
  | settings (cause : SettingsError)
  /-- The context could not be loaded or saved. -/
  | store (cause : StoreError)
  /-- The chip did not answer. -/
  | transfer (cause : TransferError)
  deriving DecidableEq, Repr

/-- The wording of a failure. -/
def Failure.message : Failure → String
  | usage cause => cause.kind
  | settings cause => cause.message
  | store cause => cause.message
  | transfer cause => cause.message

section

variable {m : Type → Type} [Monad m] [Host m]

/-- Carries out a command on a chip. -/
def Command.perform (command : Command) (c : Chip) : m (Except TransferError Unit × Chip) := do
  match command with
  | .dump => c.showAll
  | .watch count interval => c.showTimes count interval
  | .poke address values =>
    let clock ← Host.clock
    return (Chip.wire clock).writeBurst address values c

variable [FileSystem m]

namespace Session

/-- Carries out a command under given settings, and tells whether something was saved. -/
def carryOut (s : Settings) (command : Command) : m (Except Failure Bool) := do
  let store := SaveDirectory.store s.savesDir
  match ← Chip.powerUp store s.device with
  | .error e => return .error (.store e)
  | .ok chip =>
    let (result, chip) ← command.perform chip
    match result with
    | .error e => return .error (.transfer e)
    | .ok () =>
      match ← chip.powerDown store s.saveOnExit with
      | .error e => return .error (.store e)
      | .ok saved => return .ok saved

/-- A whole session: the words of its command line, and whether something was saved. -/
def run (words : List String) : m (Except Failure Bool) := do
  match Invocation.parse words with
  | .error e => return .error (.usage e)
  | .ok i =>
    match ← i.settings with
    | .error e => return .error (.settings e)
    | .ok s => carryOut s i.command

end Session

end

/-- A session on a bench. -/
def Bench.session (words : List String) (b : Bench) : Except Failure Bool × Bench :=
  (Session.run words : StateM Bench (Except Failure Bool)).run b

end ClockChip
