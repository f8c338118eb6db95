import JobShell.Errno
import JobShell.Job
import JobShell.Signal

/-!
# What a wait reports

The kernel queues one entry for each thing that happened to a child, and the shell takes them one
at a time. Reading a status can fail although the kernel handed it over: a child that was ended or
stopped by a number that is no standard signal yields no status, and the entry is lost. A stop at a
traced system call has a number of its own.
-/

namespace JobShell

/-- What happened to a child, as the kernel encodes it. -/
inductive Change
  /-- It ended with an exit code. -/
  | exited (code : Nat)
  /-- A signal ended it, with or without a memory dump. -/
  | signaled (number : Nat) (dumped : Bool)
  /-- A signal stopped it. -/
  | stopped (number : Nat)
  /-- It was continued. -/
  | continued
  deriving DecidableEq

/-- The child is no longer alive. -/
def Change.isEnd : Change → Bool
  | exited _ | signaled _ _ => true
  | stopped _ | continued => false

/-- An entry of the queue of wait statuses. -/
inductive WaitEntry
  /-- Something happened to a child. -/
  | status (pid : Pid) (change : Change)
  /-- The next wait fails. -/
  | failure (errno : Errno)
  deriving DecidableEq

/-- A status that has been read. -/
inductive WaitStatus
  | exited (pid : Pid) (code : Nat)
  | signaled (pid : Pid) (signal : Signal)
  | stopped (pid : Pid) (signal : Signal)
  | continued (pid : Pid)
  /-- A traced child stopped at a system call. -/
  | traced (pid : Pid)
  deriving DecidableEq

/-- The stop number of a traced child at a system call. -/
def tracedStop : Nat := 133

/-- Reads what happened to child `pid`. -/
def Change.read? (pid : Pid) : Change → Option WaitStatus
  | exited code => some (.exited pid code)
  | signaled number _ => (Signal.ofNumber? number).map (WaitStatus.signaled pid)
  | stopped number =>
    if number = tracedStop then some (.traced pid)
    else (Signal.ofNumber? number).map (WaitStatus.stopped pid)
  | continued => some (.continued pid)

/-- What a wait that takes this entry tells the shell: a status, nothing to report if the entry
names process 0, or the reason why there is no status. -/
def WaitEntry.read : WaitEntry → Except Errno (Option WaitStatus)
  | failure errno => .error errno
  | status pid change =>
    if pid = 0 then .ok none
    else match change.read? pid with
      | some reading => .ok (some reading)
      | none => .error .einval

end JobShell
