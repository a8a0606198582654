import ClockChip.Byte.Numeral
import ClockChip.Command.Line
import ClockChip.Settings.Basic

/-!
# Commands

The program has three commands: one prints everything, one prints the time at an interval, one
writes bytes.  In front of a command stand the options that choose the settings file and override
what is in it.

## Main definitions

* `Command`, `Invocation`: a command, and a whole command line.
* `Invocation.parse`: the command line in a list of words.
* `Invocation.adjust`, `Invocation.settings`: the settings with the command line's own.
-/

namespace ClockChip

/-- What the program is told to do. -/
inductive Command where
  /-- Print the registers and the memory. -/
  | dump
  /-- Print the time `count` times, with `interval` milliseconds in between. -/
  | watch (count interval : Nat)
  /-- Write bytes from an address on. -/
  | poke (address : UInt8) (values : List UInt8)
  deriving DecidableEq, Repr

/-- A command line. -/
structure Invocation where
  /-- The path of the settings file. -/
  configFile : String
  /-- The directory of the save files, if it is not the one of the settings. -/
  savesDir : Option String
  /-- The name of the chip, if it is not the one of the settings. -/
  device : Option String
  /-- Changes are not saved. -/
  noSave : Bool
  /-- The command. -/
  command : Command
  deriving DecidableEq, Repr

namespace Command

/-! ### The words of each command -/

/-- The options in front of a command. -/
def topLevel : Level :=
  ⟨["config-file", "saves-dir", "device"], ["no-save"], ["dump", "watch", "poke"], false⟩

/-- A dump takes nothing. -/
def dumpLevel : Level := ⟨[], [], [], false⟩

/-- Watching takes a count and an interval. -/
def watchLevel : Level := ⟨["count", "interval-ms"], [], [], false⟩

/-- Poking takes an address and values. -/
def pokeLevel : Level := ⟨[], [], [], true⟩

/-! ### Values -/

/-- The largest count. -/
def countLimit : Nat := 4294967295

/-- The largest number of milliseconds. -/
def intervalLimit : Nat := 18446744073709551615

/-- A count. -/
def count? (s : String) : Option Nat := (Numeral.read 10 countLimit s.toList).toOption

/-- A number of milliseconds. -/
def interval? (s : String) : Option Nat := (Numeral.read 10 intervalLimit s.toList).toOption

/-- A byte. -/
def byte? (s : String) : Option UInt8 := (Numeral.byte s.toList).toOption

/-- The value of an option, or the default if it has none. -/
def valueOr (g : Given) (name : String) (read : String → Option Nat) (standard : Nat) : Nat :=
  ((g.value? name).bind read).getD standard

/-! ### Commands -/

/-- The command that a name and the words behind it stand for. -/
def parse (name : String) (words : List String) : Except UsageError Command :=
  if name = "dump" then do
    let _ ← dumpLevel.read words .nothing
    return .dump
  else if name = "watch" then do
    let (g, _) ← watchLevel.read words .nothing
    g.checkOption "count" true fun s => (count? s).isSome
    g.checkOption "interval-ms" true fun s => (interval? s).isSome
    return .watch (valueOr g "count" count? 10) (valueOr g "interval-ms" interval? 1000)
  else if name = "poke" then do
    let (g, _) ← pokeLevel.read words .nothing
    match g.operands with
    | address :: value :: values =>
      match byte? address, (value :: values).mapM byte? with
      | some address, some values => return .poke address values
      | _, _ => throw .invalidValue
    | _ => throw .missingRequired
  else throw (topLevel.help words)

end Command

namespace Invocation

/-- The settings file that is read if no other is named. -/
def standardConfigFile : String := "./pcf8583.toml"

/-- The command line that a list of words stands for. -/
def parse (words : List String) : Except UsageError Invocation := do
  let (g, found) ← Command.topLevel.read words .nothing
  match found with
  | none => throw .missingCommand
  | some (name, rest) =>
    let command ← Command.parse name rest
    g.checkOption "config-file" true fun _ => true
    g.checkOption "saves-dir" false fun _ => true
    g.checkOption "device" false fun _ => true
    g.checkFlag "no-save"
    return {
      configFile := (g.value? "config-file").getD standardConfigFile
      savesDir := g.value? "saves-dir"
      device := g.value? "device"
      noSave := g.has "no-save"
      command := command }

/-- Settings with what the command line says in their stead. -/
def adjust (i : Invocation) (s : Settings) : Settings where
  savesDir := i.savesDir.getD s.savesDir
  device := i.device.getD s.device
  saveOnExit := s.saveOnExit && !i.noSave

/-- The settings of a session: those of the settings file, with the command line's own. -/
def settings {m : Type → Type} [Monad m] [FileSystem m] (i : Invocation) :
    m (Except SettingsError Settings) := do
  match ← Settings.load i.configFile with
  | .ok s => return .ok (i.adjust s)
  | .error e => return .error e

end Invocation

end ClockChip
