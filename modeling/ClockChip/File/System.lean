import ClockChip.File.Tree

/-!
# File systems

What the library does with files it does through a `FileSystem`, which may be the machine's own or
a `FileTree` that is carried along as a state.

## Main definitions

* `FileSystem`: reading and writing whole files, and making directories.
* `makeDirectories`, `plantFile`: a directory or a file together with all that is missing above it.
* `FileTree` as a file system.
-/

namespace ClockChip

/-- The file operations of a program that runs in the monad `m`. -/
class FileSystem (m : Type → Type) where
  /-- The bytes of a file. -/
  readFile (path : String) : m (Except FileFailure (List UInt8))
  /-- Makes or replaces a file. -/
  writeFile (path : String) (content : List UInt8) : m (Except FileFailure Unit)
  /-- Makes one directory. -/
  makeDirectory (path : String) : m (Except FileError Unit)
  /-- Whether a path leads to a directory. -/
  isDirectory (path : String) : m Bool

section MakeDirectories

variable {m : Type → Type} [Monad m] [FileSystem m]

/-- Makes a directory and is content with one that is there already. -/
def settleDirectory (path : String) : m (Except FileError Unit) := do
  match ← FileSystem.makeDirectory path with
  | .ok () => return .ok ()
  -- something else may have made it in between
  | .error e => return if ← FileSystem.isDirectory path then .ok () else .error e

/-- Makes the first directory of a list, in which each stands before the one that contains it.
The ones behind are made only if the first has nowhere to be. -/
def settleFrom : List String → m (Except FileError Unit)
  | [] => return .error .notFound
  | path :: above => do
    if path = "" then return .ok ()
    match ← FileSystem.makeDirectory path with
    | .ok () => return .ok ()
    | .error .notFound =>
      match ← settleFrom above with
      | .ok () => settleDirectory path
      | .error e => return .error e
    | .error e => return if ← FileSystem.isDirectory path then .ok () else .error e

/-- Makes a directory with all that are missing above it. -/
def makeDirectories (path : String) : m (Except FileError Unit) :=
  settleFrom (Path.ancestors path)

/-- Writes a whole file and makes the directories above it that are missing.  What has been made
stays if the file cannot be written. -/
def plantFile (path : String) (content : List UInt8) : m (Except FileFailure Unit) := do
  match Path.parents path with
  | [] => FileSystem.writeFile path content
  | above =>
    match ← settleFrom above with
    | .ok () => FileSystem.writeFile path content
    | .error e => return .error (.opening e)

end MakeDirectories

namespace FileTree

/-- A tree as the file system of a program that carries it along. -/
instance instFileSystem : FileSystem (StateM FileTree) where
  readFile path := fun t => (t.readFile path, t)
  writeFile path content := fun t =>
    match t.writeFile path content with
    | .ok t' => (.ok (), t')
    | .error e => (.error e, t)
  makeDirectory path := fun t =>
    match t.makeDirectory path with
    | .ok t' => (.ok (), t')
    | .error e => (.error e, t)
  isDirectory path := fun t => (t.isDirectory path, t)

end FileTree

end ClockChip
