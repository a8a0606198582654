import ClockChip.File.System
import ClockChip.Settings.Document

/-!
# Settings

The settings say where chips are saved, under which name, and whether changes are saved at the
end.  They come from a settings file, as far as it sets them.  A file that cannot be opened sets
nothing; one that cannot be read, or is no settings file, is an error.

## Main definitions

* `Settings`, `Settings.standard`.
* `Settings.ofDocument`: what a document sets.
* `SettingsError`, `Settings.interpret`, `Settings.load`: reading a settings file.
-/

namespace ClockChip

/-- Where and whether a chip is saved. -/
structure Settings where
  /-- The directory of the save files. -/
  savesDir : String
  /-- The name of the chip. -/
  device : String
  /-- Changes are saved at the end of a session. -/
  saveOnExit : Bool
  deriving DecidableEq, Repr

namespace Settings

/-- What holds where nothing else is set. -/
def standard : Settings := ⟨"./saves", "pcf8583", true⟩

/-! ### Documents -/

/-- The keys of a settings file. -/
inductive Key where
  /-- The directory of the save files. -/
  | savesDir
  /-- The name of the chip. -/
  | device
  /-- Whether changes are saved. -/
  | saveOnExit
  deriving DecidableEq, Repr

/-- The key with a name; other names mean nothing. -/
def Key.ofName? (name : Name) : Option Key :=
  if name = "saves_dir".toList then some .savesDir
  else if name = "device".toList then some .device
  else if name = "save_on_exit".toList then some .saveOnExit
  else none

/-- The settings with one of them taken from a value; `none` if it is of the wrong kind. -/
def set (s : Settings) : Key → Value → Option Settings
  | .savesDir, .text cs => some { s with savesDir := String.ofList cs }
  | .device, .text cs => some { s with device := String.ofList cs }
  | .saveOnExit, .truth b => some { s with saveOnExit := b }
  | _, _ => none

/-- Goes through entries and takes the settings among them.  No setting may occur twice. -/
def ofEntries (s : Settings) (seen : List Key) : Entries → Option Settings
  | [] => some s
  | (name, v) :: rest =>
    match Key.ofName? name with
    | none => ofEntries s seen rest
    | some k =>
      if k ∈ seen then none
      else
        match s.set k v with
        | some s => ofEntries s (k :: seen) rest
        | none => none

/-- A header does not make a table of a setting. -/
def headerAllowed (header : List Name) : Bool :=
  match header with
  | [] => true
  | name :: _ => (Key.ofName? name).isNone

/-- What a document sets, and the standard for all else. -/
def ofDocument (document : List Section) : Option Settings :=
  if Headers.consistent document && document.all (fun s => headerAllowed s.header) then
    ofEntries standard [] ((document.filter (fun s => s.header == [])).flatMap (·.entries))
  else none

end Settings

/-! ### Files -/

/-- Why there are no settings. -/
inductive SettingsError where
  /-- The file was opened and could not be read. -/
  | unreadable (cause : FileError)
  /-- The file is no text. -/
  | notText
  /-- The text is no settings file. -/
  | malformed (path : String)
  deriving DecidableEq, Repr

/-- The wording of an error in the settings. -/
def SettingsError.message : SettingsError → String
  | unreadable cause => cause.message
  | notText => "stream did not contain valid UTF-8"
  | malformed path => "Couldn't parse `" ++ path ++ "`"

namespace Settings

/-- The settings in the bytes of a file. -/
def interpret (path : String) (content : List UInt8) : Except SettingsError Settings :=
  match String.fromUTF8? (ByteArray.mk content.toArray) with
  | none => .error .notText
  | some text =>
    match (Reader.document text.toList).bind ofDocument with
    | some s => .ok s
    | none => .error (.malformed path)

/-- The settings in the file at a path. -/
def load {m : Type → Type} [Monad m] [FileSystem m] (path : String) :
    m (Except SettingsError Settings) := do
  match ← FileSystem.readFile path with
  | .ok content => return interpret path content
  | .error (.opening _) => return .ok standard
  | .error (.transfer e) => return .error (.unreadable e)

end Settings

end ClockChip
