import JobShell.Kernel.Wait

/-!
# System calls

The calls that a shell and its children make, with their arguments, and what the kernel answered.
A call and its answer are written on one line, as a tracing tool would show them.
-/

namespace JobShell

/-- How a call changes the signal mask. -/
inductive MaskChange
  /-- Adds the signals to the mask. -/
  | block
  /-- Makes the signals the whole mask. -/
  | replace
  deriving DecidableEq

/-- A system call with its arguments. -/
inductive Request
  /-- Installs the shell's handler; interrupted calls are restarted. -/
  | installHandler (signal : Handled)
  /-- Restores the default disposition. -/
  | resetHandler (signal : Handled)
  | changeMask (how : MaskChange) (signals : SignalSet)
  | fork
  | setProcessGroup (pid group : Pid)
  /-- Sends a signal; a negative id stands for a process group. -/
  | send (target : Pid) (signal : Signal)
  /-- Takes a child's status if there is one, stopped children included. -/
  | wait
  /-- Sleeps under a mask until a handler has run. -/
  | suspend (mask : SignalSet)
  /-- Replaces the process's program. -/
  | execute (argv : List String)
  /-- Ends the process at once. -/
  | leave (status : Nat)
  deriving DecidableEq

/-- What a call answered. -/
inductive Answer
  | number (n : Int)
  | errno (e : Errno)
  /-- The call does not return. -/
  | never
  deriving DecidableEq

/-- A call that answers 0 unless it fails. -/
def Answer.ofFailure : Option Errno → Answer
  | none => number 0
  | some e => errno e

/-- A call and its answer. -/
structure Call where
  /-- The call. -/
  request : Request
  /-- The answer. -/
  answer : Answer
  deriving DecidableEq

/-- The name of a mask change. -/
def MaskChange.text : MaskChange → String
  | block => "block"
  | replace => "setmask"

/-- The call as it is written. -/
def Request.text : Request → String
  | installHandler s => s!"sigaction {s.signal.number} restart"
  | resetHandler s => s!"signal {s.signal.number} default"
  | changeMask how signals => s!"sigprocmask {how.text} {signals.text}"
  | fork => "fork"
  | setProcessGroup pid group => s!"setpgid {pid} {group}"
  | send target signal => s!"kill {target} {signal.number}"
  | wait => "waitpid -1 3"
  | suspend mask => s!"sigsuspend {mask.text}"
  | execute argv => "execvp " ++ argv.headD ""
  | leave status => s!"_exit {status}"

/-- The call and its answer as they are written. -/
def Call.text (call : Call) : String :=
  match call.answer with
  | .number n => s!"{call.request.text} -> {n}"
  | .errno e => s!"{call.request.text} -> {e.name}"
  | .never => call.request.text

end JobShell
