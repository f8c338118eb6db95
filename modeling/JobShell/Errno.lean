/-!
# Why a system call failed

The error numbers that calls answer with, with two texts each. Calls made by the shell describe a
number with `description`; failures of file and stream operations use the C library's wording,
`libraryText`, which differs for four of the numbers.
-/

namespace JobShell

/-- An error number, by its usual name. -/
inductive Errno
  | eperm | enoent | esrch | eintr | eio | e2big | enoexec | echild | eagain | enomem | eacces
  | enotdir | eisdir | einval | etxtbsy | enametoolong | enosys | eloop
  deriving DecidableEq

namespace Errno

/-- Every error number, in ascending order. -/
def all : List Errno :=
  [eperm, enoent, esrch, eintr, eio, e2big, enoexec, echild, eagain, enomem, eacces, enotdir,
    eisdir, einval, etxtbsy, enametoolong, enosys, eloop]

/-- The name in capitals. -/
def name : Errno → String
  | eperm => "EPERM"
  | enoent => "ENOENT"
  | esrch => "ESRCH"
  | eintr => "EINTR"
  | eio => "EIO"
  | e2big => "E2BIG"
  | enoexec => "ENOEXEC"
  | echild => "ECHILD"
  | eagain => "EAGAIN"
  | enomem => "ENOMEM"
  | eacces => "EACCES"
  | enotdir => "ENOTDIR"
  | eisdir => "EISDIR"
  | einval => "EINVAL"
  | etxtbsy => "ETXTBSY"
  | enametoolong => "ENAMETOOLONG"
  | enosys => "ENOSYS"
  | eloop => "ELOOP"

/-- The number itself. -/
def number : Errno → Nat
  | eperm => 1
  | enoent => 2
  | esrch => 3
  | eintr => 4
  | eio => 5
  | e2big => 7
  | enoexec => 8
  | echild => 10
  | eagain => 11
  | enomem => 12
  | eacces => 13
  | enotdir => 20
  | eisdir => 21
  | einval => 22
  | etxtbsy => 26
  | enametoolong => 36
  | enosys => 38
  | eloop => 40

/-- What the number means, in the words used for system calls. -/
def description : Errno → String
  | eperm => "Operation not permitted"
  | enoent => "No such file or directory"
  | esrch => "No such process"
  | eintr => "Interrupted system call"
  | eio => "I/O error"
  | e2big => "Argument list too long"
  | enoexec => "Exec format error"
  | echild => "No child processes"
  | eagain => "Try again"
  | enomem => "Out of memory"
  | eacces => "Permission denied"
  | enotdir => "Not a directory"
  | eisdir => "Is a directory"
  | einval => "Invalid argument"
  | etxtbsy => "Text file busy"
  | enametoolong => "File name too long"
  | enosys => "Function not implemented"
  | eloop => "Too many symbolic links encountered"

/-- What the number means, in the C library's words. -/
def libraryText : Errno → String
  | eio => "Input/output error"
  | eagain => "Resource temporarily unavailable"
  | enomem => "Cannot allocate memory"
  | eloop => "Too many levels of symbolic links"
  | e => e.description

/-- The name and its meaning. -/
def text (e : Errno) : String := e.name ++ ": " ++ e.description

/-- The error number of a given name. -/
def ofName? (name : String) : Option Errno := all.find? fun e ↦ e.name == name

end Errno

end JobShell
