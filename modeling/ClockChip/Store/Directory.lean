import ClockChip.File.System
import ClockChip.Store.Basic

/-!
# A directory of save files

Each device has one file in the directory, named after it.  The directory is made when something
is saved for the first time.  A missing file and a file whose context does not fit mean that
nothing usable has been saved; a file that cannot be read as a context is an error.

## Main definitions

* `SaveDirectory.path`: the file of a device.
* `SaveDirectory.store`: the store.
-/

namespace ClockChip.SaveDirectory

/-- The path of a device's save file. -/
def path (dir device : String) : String := Path.join dir (device ++ ".rtc")

/-- What the bytes of a save file mean for a chip of the given sizes. -/
def interpret (path : String) (ramSize registerSize : Nat) (content : List UInt8) :
    Except StoreError (Option Context) :=
  match Context.decoder.decode content with
  | .ok context => .ok (Context.fitting ramSize registerSize (some context))
  | .error e => .error (.cannotDecode path e)

section

variable {m : Type → Type} [Monad m] [FileSystem m]

/-- Loads the context of a device. -/
def load (dir device : String) (ramSize registerSize : Nat) :
    m (Except StoreError (Option Context)) := do
  match ← FileSystem.readFile (path dir device) with
  | .ok content => return interpret (path dir device) ramSize registerSize content
  | .error (.opening .notFound) => return .ok none
  | .error (.opening e) => return .error (.cannotOpen (path dir device) e)
  | .error (.transfer e) => return .error (.cannotTransfer e)

/-- Saves the context of a device. -/
def save (dir device : String) (context : Context) : m (Except StoreError Unit) := do
  match ← makeDirectories dir with
  | .error e => return .error (.cannotCreate dir e)
  | .ok () =>
    match ← FileSystem.writeFile (path dir device) context.encode with
    | .ok () => return .ok ()
    | .error (.opening e) => return .error (.cannotCreate (path dir device) e)
    | .error (.transfer e) => return .error (.cannotTransfer e)

/-- The store of a directory. -/
def store (dir : String) : Store m where
  load := load dir
  save := save dir

end

end ClockChip.SaveDirectory
