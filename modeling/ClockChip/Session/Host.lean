import ClockChip.Clock.Host
import ClockChip.File.System

/-!
# The surroundings of a session

A session asks its host for the time, lets time pass, prints lines and uses files.  The host is
either the machine itself or a `Bench`: a clock, a tree of files and the lines printed so far,
carried along as a state.

## Main definitions

* `Host`: what a session asks for.
* `Bench`: surroundings that are a state.
-/

namespace ClockChip

/-- What a session that runs in the monad `m` asks of its host, files apart. -/
class Host (m : Type → Type) where
  /-- The clock as it stands. -/
  clock : m HostClock
  /-- Lets a number of milliseconds pass. -/
  pause (milliseconds : Nat) : m Unit
  /-- Prints a line. -/
  print (line : String) : m Unit

/-- Surroundings of a session that are a state. -/
structure Bench where
  /-- The clock. -/
  source : ClockSource
  /-- The files. -/
  files : FileTree
  /-- The lines printed so far, in order. -/
  printed : List String

namespace Bench

instance instHost : Host (StateM Bench) where
  clock := fun b => (b.source.host, b)
  pause ms := fun b => ((), { b with source := b.source.pause ms })
  print line := fun b => ((), { b with printed := b.printed ++ [line] })

/-- An action on the files of a bench. -/
def onFiles {α : Type} (action : StateM FileTree α) : StateM Bench α := fun b =>
  let (a, files) := action.run b.files
  (a, { b with files := files })

instance instFileSystem : FileSystem (StateM Bench) where
  readFile path := onFiles (FileSystem.readFile path)
  writeFile path content := onFiles (FileSystem.writeFile path content)
  makeDirectory path := onFiles (FileSystem.makeDirectory path)
  isDirectory path := onFiles (FileSystem.isDirectory path)

end Bench

end ClockChip
