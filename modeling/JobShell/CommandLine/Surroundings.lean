import JobShell.Errno

/-!
# The machine that the command line runs on

The parts of a file system that the command line can notice when no process can be started: which
paths are directories, and which lie below a directory that does not exist. A log file can be opened
for appending anywhere else. No program can be started at all, because none exists.
-/

namespace JobShell.CommandLine

/-- What can be known about paths. -/
structure Surroundings where
  /-- The path is a directory. -/
  isDirectory : String → Bool
  /-- The path lies below a directory that does not exist. -/
  isUnreachable : String → Bool

namespace Surroundings

variable (s : Surroundings)

/-- A path without the slashes at its end. -/
def dropSlashes (path : String) : String :=
  String.ofList (path.toList.reverse.dropWhile (· == '/')).reverse

/-- Why a file cannot be opened for appending, if it cannot. A path that ends in a slash can only be
that of a directory. -/
def logObstacle? (path : String) : Option Errno :=
  if path.isEmpty || s.isUnreachable (dropSlashes path) then some .enoent
  else if s.isDirectory path || dropSlashes path != path then some .eisdir
  else none

/-- Why a program cannot be started. -/
def programObstacle (program : String) : Errno :=
  if s.isDirectory program then .eacces else .enoent

/-- The parts of a path between its slashes. -/
def parts : List Char → List (List Char)
  | [] => [[]]
  | c :: cs =>
    if c = '/' then [] :: parts cs
    else match parts cs with
      | [] => [[c]]
      | part :: rest => (c :: part) :: rest

/-- The part names no entry of a directory: it is empty or stands for a directory itself. -/
def isStep (part : List Char) : Bool := part.isEmpty || part == ['.'] || part == ['.', '.']

/-- A machine whose working directory is empty and whose root directory has no entry of the given
name. -/
def bare (missing : String) : Surroundings where
  isDirectory path := !path.isEmpty && (parts path.toList).all isStep
  isUnreachable path :=
    match parts path.toList with
    | [] :: top :: _ :: _ => String.ofList top == missing
    | [] :: _ => false
    | relative => !relative.dropLast.all isStep

end Surroundings

end JobShell.CommandLine
