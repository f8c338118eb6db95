import JobShell.Kernel.Wait

/-!
# The kernel beside the shell

The kernel keeps what the shell cannot see: which processes it started and which still live, the
queue of wait statuses, the signals that were raised and not yet delivered, and the mask. A `Script`
says what the rest of the world does while one step runs: what happens when the shell sleeps or
forks, and which calls fail.
-/

namespace JobShell

/-- Something that happens outside the shell. -/
inductive Occurrence
  /-- A child changes state. -/
  | child (pid : Pid) (change : Change)
  /-- A later wait is to fail. -/
  | waitFailure (errno : Errno)
  /-- A signal is raised at the shell. -/
  | raised (signal : Handled)
  deriving DecidableEq

/-- The kernel's side of the shell's process. -/
structure Kernel where
  /-- The id that the next process gets. -/
  nextPid : Pid := 1001
  /-- Every process ever started, in order. -/
  forked : List Pid := []
  /-- The processes that still live, in the order in which they were started. -/
  alive : List Pid := []
  /-- The statuses that no wait has taken yet, oldest first. -/
  waitQueue : List WaitEntry := []
  /-- The signals that were raised while they were blocked. -/
  pending : SignalSet := .empty
  /-- The signals that are blocked. -/
  mask : SignalSet := .empty
  deriving DecidableEq

namespace Kernel

variable (kernel : Kernel)

/-- Starts a process. -/
def spawn : Kernel :=
  { kernel with
    nextPid := kernel.nextPid + 1
    forked := kernel.forked ++ [kernel.nextPid]
    alive := kernel.alive ++ [kernel.nextPid] }

/-- Queues what happened to a child, which no longer lives if that was its end. -/
def post (pid : Pid) (change : Change) : Kernel :=
  { kernel with
    alive := if change.isEnd then kernel.alive.filter (· ≠ pid) else kernel.alive
    waitQueue := kernel.waitQueue ++ [.status pid change] }

/-- Queues a failure of a later wait. -/
def postFailure (errno : Errno) : Kernel :=
  { kernel with waitQueue := kernel.waitQueue ++ [.failure errno] }

end Kernel

/-- The calls that a script can make fail. -/
inductive Fallible
  | installHandler | resetHandler | changeMask | fork | setProcessGroup | send
  deriving DecidableEq

/-- What the world does while one step runs. -/
structure Script where
  /-- What happens each time the shell sleeps. -/
  batches : List (List Occurrence) := []
  /-- What happens each time the shell forks, before the call returns. -/
  atFork : List (List Occurrence) := []
  /-- For each kind of call, whether and why its next calls fail. -/
  failures : Fallible → List (Option Errno) := fun _ ↦ []

end JobShell
