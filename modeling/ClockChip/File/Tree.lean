import ClockChip.File.Error
import ClockChip.File.Path

/-!
# A tree of files

The files below one directory, as a list of places with what is there.  A place is the list of
names that leads to it from the top; the top itself is a directory and has no entry.  Paths are
looked up name by name: each name but the last has to be a directory, and two dots lead back up.

Absolute paths, and paths that lead above the top, end outside the tree.  Nothing is known of what
is there, so the places outside start out empty; they are kept like others but not listed.

## Main definitions

* `FileNode`, `FileTree`: what is where.
* `Place.up`, `Place.isOutside`: the way up, and where it leaves the tree.
* `FileTree.locate`: the place that a path leads to.
* `FileTree.readFile`, `FileTree.writeFile`, `FileTree.makeDirectory`, `FileTree.isDirectory`.
* `FileTree.listing`: everything in the tree.
-/

namespace ClockChip

/-- What can be at a place. -/
inductive FileNode where
  /-- A file with its bytes. -/
  | file (content : List UInt8)
  /-- A directory. -/
  | directory
  deriving DecidableEq, Repr

/-- A place: the names that lead to it from the top.  A name of two dots in front stands for one
step above the top, and a slash in front for the root of all paths. -/
abbrev Place := List String

namespace Place

/-- The root of absolute paths. -/
def root : Place := ["/"]

/-- The place is the top or above it, or the root. -/
def isBase (place : Place) : Bool := place == root || place.all (· == "..")

/-- The directory that contains a place.  The root contains itself. -/
def up (place : Place) : Place :=
  if place = root then root
  else if place.all (· == "..") then ".." :: place
  else place.dropLast

/-- The place is not below the top. -/
def isOutside (place : Place) : Bool := place.head? == some "/" || place.head? == some ".."

end Place

/-- A tree of files. -/
structure FileTree where
  /-- The places below the top, each with what is there. -/
  entries : List (Place × FileNode)
  deriving DecidableEq, Repr

namespace FileTree

/-- The tree that has nothing below its top. -/
def empty : FileTree := ⟨[]⟩

/-- What is at a place. -/
def find? (t : FileTree) (place : Place) : Option FileNode :=
  if place.isBase then some .directory else t.entries.lookup place

/-- Puts something at a place, in the stead of what is there. -/
def put (t : FileTree) (place : Place) (node : FileNode) : FileTree :=
  if (t.entries.lookup place).isSome then
    ⟨t.entries.map fun e => if e.1 = place then (place, node) else e⟩
  else ⟨t.entries ++ [(place, node)]⟩

/-! ### Looking up paths -/

/-- The longest name, in bytes. -/
def nameLimit : Nat := 255

/-- The length, in bytes, that a path must stay below. -/
def pathLimit : Nat := 4096

/-- Goes down a list of names, all of which have to be directories. -/
def enter (t : FileTree) : (place : Place) → List String → Except FileError Place
  | place, [] => .ok place
  | place, name :: rest =>
    if name = "." then t.enter place rest
    else if name = ".." then t.enter place.up rest
    else if nameLimit < name.utf8ByteSize then .error .nameTooLong
    else
      match t.find? (place ++ [name]) with
      | none => .error .notFound
      | some (.file _) => .error .notDirectory
      | some .directory => t.enter (place ++ [name]) rest

/-- Where a path leads. -/
inductive Target where
  /-- To a directory that needs no name of its own: the root, or dots at the end of the path. -/
  | known (place : Place)
  /-- To a name in a directory, where something is or not. -/
  | named (place : Place) (node : Option FileNode)
  deriving DecidableEq, Repr

/-- The place that a path leads to; whether there is anything is left open. -/
def locate (t : FileTree) (path : String) : Except FileError Target := do
  if path.toList.contains '\x00' then throw .nulInPath
  if path = "" then throw .notFound
  if pathLimit ≤ path.utf8ByteSize then throw .nameTooLong
  let parts := Path.names path
  let base := if Path.isAbsolute path then Place.root else []
  -- all names but the last have to be there
  let dir ← t.enter base parts.dropLast
  match parts.getLast? with
  | none => return .known base
  | some "." => return .known dir
  | some ".." => return .known dir.up
  | some name =>
    if nameLimit < name.utf8ByteSize then throw .nameTooLong
    return .named (dir ++ [name]) (t.find? (dir ++ [name]))

/-! ### Operations -/

/-- The bytes of the file at a path.  A directory can be opened but not read. -/
def readFile (t : FileTree) (path : String) : Except FileFailure (List UInt8) :=
  match t.locate path with
  | .error e => .error (.opening e)
  | .ok (.known _) => .error (.transfer .isDirectory)
  | .ok (.named _ none) => .error (.opening .notFound)
  | .ok (.named _ (some .directory)) => .error (.transfer .isDirectory)
  | .ok (.named _ (some (.file content))) =>
    if Path.endsInSlash path then .error (.opening .notDirectory) else .ok content

/-- The bytes of the file at a path, if it can be read. -/
def content? (t : FileTree) (path : String) : Option (List UInt8) := (t.readFile path).toOption

/-- Writes a whole file, which is made if it does not exist and replaced if it does. -/
def writeFile (t : FileTree) (path : String) (content : List UInt8) :
    Except FileFailure FileTree :=
  match t.locate path with
  | .error e => .error (.opening e)
  | .ok (.known _) => .error (.opening .isDirectory)
  | .ok (.named _ (some .directory)) => .error (.opening .isDirectory)
  | .ok (.named place _) =>
    if Path.endsInSlash path then .error (.opening .isDirectory)
    else .ok (t.put place (.file content))

/-- Makes a directory, if there is nothing at the path yet. -/
def makeDirectory (t : FileTree) (path : String) : Except FileError FileTree :=
  match t.locate path with
  | .error e => .error e
  | .ok (.known _) => .error .alreadyExists
  | .ok (.named _ (some _)) => .error .alreadyExists
  | .ok (.named place none) => .ok (t.put place .directory)

/-- There is a directory at the path. -/
def isDirectory (t : FileTree) (path : String) : Bool :=
  match t.locate path with
  | .ok (.known _) => true
  | .ok (.named _ (some .directory)) => true
  | _ => false

/-- Everything below the top: the path of each place, with a slash behind a directory's, and the
bytes of each file. -/
def listing (t : FileTree) : List (String × Option (List UInt8)) :=
  (t.entries.filter fun e => !e.1.isOutside).map fun e =>
    let path := String.intercalate "/" e.1
    match e.2 with
    | .file content => (path, some content)
    | .directory => (path ++ "/", none)

end FileTree

end ClockChip
