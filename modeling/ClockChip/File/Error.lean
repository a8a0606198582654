/-!
# Failures of file operations

## Main definitions

* `FileError`: why the file system refuses.
* `FileFailure`: whether a file could not be opened, or failed once it was open.
-/

namespace ClockChip

/-- Why the file system refuses an operation. -/
inductive FileError where
  /-- A part of the path does not exist. -/
  | notFound
  /-- There is something at the path already. -/
  | alreadyExists
  /-- The path goes through something that is no directory. -/
  | notDirectory
  /-- A directory is in the place of a file. -/
  | isDirectory
  /-- A name, or the whole path, is too long. -/
  | nameTooLong
  /-- The path contains a character that ends it. -/
  | nulInPath
  /-- Anything else, in the words of the system. -/
  | other (text : String)
  deriving DecidableEq, Repr

/-- The wording of a file error. -/
def FileError.message : FileError → String
  | notFound => "No such file or directory (os error 2)"
  | alreadyExists => "File exists (os error 17)"
  | notDirectory => "Not a directory (os error 20)"
  | isDirectory => "Is a directory (os error 21)"
  | nameTooLong => "File name too long (os error 36)"
  | nulInPath => "file name contained an unexpected NUL byte"
  | other text => text

/-- How reading or writing a whole file fails. -/
inductive FileFailure where
  /-- The file could not be opened or created. -/
  | opening (e : FileError)
  /-- The file was open and its bytes could not be transferred. -/
  | transfer (e : FileError)
  deriving DecidableEq, Repr

/-- The wording of a failure is that of its cause. -/
def FileFailure.message : FileFailure → String
  | opening e => e.message
  | transfer e => e.message

end ClockChip
