import ClockChip.Session.Run
import Std.Time.Zoned

/-!
# The program

The command line runs a session on the machine's own clock and files.  The clock is the local wall
clock, and the lines of a session go to standard output.  What ends a session early is told on
standard error.
-/

namespace ClockChip.Machine

/-! ### Files -/

/-- The error that the system reports. -/
def fileError : IO.Error → FileError
  | .noFileOrDirectory _ 2 _ => .notFound
  | .alreadyExists _ 17 _ => .alreadyExists
  | .inappropriateType _ 20 _ => .notDirectory
  | .inappropriateType _ 21 _ => .isDirectory
  | .invalidArgument _ 36 _ => .nameTooLong
  | e => .other (toString e)

/-- The result of an action on files. -/
def attempt {α : Type} (action : IO α) : IO (Except FileError α) := do
  try
    return .ok (← action)
  catch e =>
    return .error (fileError e)

instance instFileSystem : FileSystem IO where
  readFile path := do
    match ← attempt (IO.FS.Handle.mk path .read) with
    | .error e => return .error (.opening e)
    | .ok file =>
      match ← attempt file.readBinToEnd with
      | .error e => return .error (.transfer e)
      | .ok content => return .ok content.data.toList
  writeFile path content := do
    match ← attempt (IO.FS.Handle.mk path .write) with
    | .error e => return .error (.opening e)
    | .ok file =>
      match ← attempt (file.write (ByteArray.mk content.toArray)) with
      | .error e => return .error (.transfer e)
      | .ok () => return .ok ()
  makeDirectory path := attempt (IO.FS.createDir path)
  isDirectory path := do
    match ← attempt (IO.FS.realPath path) with
    | .error _ => return false
    | .ok real => return ← real.isDir

/-! ### Time -/

/-- Milliseconds of the local wall clock, as if the local time were that of the prime meridian. -/
def localMilliseconds : IO Int := do
  let time ← Std.Time.PlainDateTime.now
  return time.toWallTime.toMilliseconds.val

/-- Milliseconds since the start of 1970. -/
def plainMilliseconds : IO Int := do
  let time ← Std.Time.Timestamp.now
  return time.toMillisecondsSinceUnixEpoch.val

/-- The wall clock.  A machine that does not know its time zone has the prime meridian's. -/
def clock : IO HostClock := do
  let milliseconds ← try localMilliseconds catch _ => plainMilliseconds
  return (ClockSource.counter milliseconds).host

/-- The longest pause that is made at a time, in milliseconds. -/
def longestPause : Nat := 3600000

/-- Waits, hour after hour and then the rest. -/
def pause (milliseconds : Nat) : IO Unit := do
  for _ in [0 : milliseconds / longestPause] do
    IO.sleep longestPause.toUInt32
  IO.sleep (milliseconds % longestPause).toUInt32

instance instHost : Host IO where
  clock := clock
  pause := pause
  print line := IO.println line

/-! ### Messages -/

/-- What can be said on the command line. -/
def usage : String := String.intercalate "\n"
  ["Usage: pcf8583 [--config-file FILE] [--saves-dir DIR] [--device NAME] [--no-save] COMMAND",
    "",
    "Commands:",
    "    dump                                   print the clock, the registers and the memory",
    "    watch [--count N] [--interval-ms MS]   print the clock again and again",
    "    poke ADDRESS VALUE...                  write bytes from an address on"]

/-- Tells why a session has ended early, and how the program ends. -/
def report : Failure → IO UInt32
  | .usage .helpDisplayed => do
    IO.println usage
    return 0
  | .usage .versionDisplayed => do
    IO.println "pcf8583"
    return 0
  | .usage cause => do
    IO.eprintln ("error: " ++ cause.kind ++ "\n\n" ++ usage)
    return 1
  | failure => do
    IO.eprintln ("Error: " ++ failure.message)
    return 1

end ClockChip.Machine

/-- Runs one session. -/
def main (words : List String) : IO UInt32 := do
  match ← (ClockChip.Session.run words : IO (Except ClockChip.Failure Bool)) with
  | .ok _ => return 0
  | .error failure => ClockChip.Machine.report failure
