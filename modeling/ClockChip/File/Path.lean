/-!
# Paths

A path is a text whose names are separated by slashes.  A leading slash makes it absolute; empty
names and single dots mean nothing, except that a dot may stand first.

## Main definitions

* `Path.join`: a path relative to a directory.
* `Path.names`: the names of a path.
* `Path.ancestors`: a path and all the directories above it.
-/

namespace ClockChip.Path

/-- The pieces of a text between slashes. -/
def splitSlash : List Char → List (List Char)
  | [] => [[]]
  | c :: cs =>
    if c = '/' then [] :: splitSlash cs
    else
      match splitSlash cs with
      | [] => [[c]]
      | piece :: pieces => (c :: piece) :: pieces

/-- The path starts at the root. -/
def isAbsolute (path : String) : Bool := path.toList.head? == some '/'

/-- The path ends in a slash and so can only name a directory. -/
def endsInSlash (path : String) : Bool := path.toList.getLast? == some '/'

/-- The names of a path, dots included. -/
def names (path : String) : List String :=
  ((splitSlash path.toList).filter (· != [])).map String.ofList

/-- The path `other` as seen from the directory `dir`.  An absolute path stays as it is. -/
def join (dir other : String) : String :=
  if isAbsolute other || dir == "" then other
  else if endsInSlash dir then dir ++ other
  else dir ++ "/" ++ other

/-- The names of a path that count: a dot does only in front of a relative path. -/
def significant (path : String) : List String :=
  let parts := names path
  if isAbsolute path then parts.filter (· != ".")
  else
    match parts with
    | "." :: rest => "." :: rest.filter (· != ".")
    | parts => parts.filter (· != ".")

/-- The path of a list of names. -/
def ofNames (absolute : Bool) (parts : List String) : String :=
  (if absolute then "/" else "") ++ String.intercalate "/" parts

/-- The directories above a path, the nearest first.  A relative path ends at the empty path and
an absolute one at the root. -/
def parents (path : String) : List String :=
  let parts := significant path
  (List.range parts.length).map fun i =>
    ofNames (isAbsolute path) (parts.take (parts.length - 1 - i))

/-- A path and the directories above it, the nearest first. -/
def ancestors (path : String) : List String := path :: parents path

end ClockChip.Path
