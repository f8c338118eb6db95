import JobShell.Errno
import JobShell.Job.Spec
import JobShell.Signal

/-!
# What can go wrong

An error is the fault that was reported and the faults that caused it. Each fault names its cause
by a constructor and has its wording in `Fault.text`. Faults that the user can act on are
recoverable: they are printed and the shell goes on. Every other fault comes from a system call the
shell relies on and ends the control loop.
-/

namespace JobShell

/-- How a builtin command was misused. -/
inductive Misuse
  /-- No job was named. -/
  | missingArgument (builtin : String)
  /-- The argument names no job. -/
  | badArgument (builtin : String)
  /-- The job was found and could not be continued. -/
  | cannotContinue (spec : JobSpec)
  /-- Any other text. -/
  | other (text : String)
  deriving DecidableEq

/-- The wording of a misuse. -/
def Misuse.text : Misuse → String
  | missingArgument builtin => s!"{builtin} command requires PID or %jobid argument"
  | badArgument builtin => s!"{builtin}: argument must be a PID or %jobid"
  | cannotContinue spec => s!"{spec.text}: failed to continue job"
  | other text => text

/-- What the shell was doing when a call failed, or what it refused to do. -/
inductive Activity
  | maskingSignals
  | forking
  | waiting
  | installingHandler (signal : Handled)
  | resettingHandler (signal : Handled)
  | trackingPid (pid : Pid)
  | launchingNothing
  | openingLog (path : String)
  /-- Any other text. -/
  | other (text : String)
  deriving DecidableEq

/-- The wording of an activity that failed. -/
def Activity.text : Activity → String
  | maskingSignals => "sigprocmask error"
  | forking => "fork error"
  | waiting => "waitpid error"
  | installingHandler signal => s!"failed to install {signal.signal.name} handler"
  | resettingHandler signal => s!"failed to reset {signal.signal.name} handler"
  | trackingPid pid => s!"refusing to track invalid pid {pid}"
  | launchingNothing => "refusing to launch an empty command"
  | openingLog path => s!"failed to open log file {path}"
  | other text => text

/-- A single fault. -/
inductive Fault
  /-- The command line cannot be split into words. -/
  | malformedLine (line : String)
  /-- A builtin command was misused and finished with `code`. -/
  | misuse (misuse : Misuse) (code : Int)
  /-- No program has this name. -/
  | commandNotFound (name : String)
  /-- No job has the id that was named. -/
  | noSuchJob (name : String)
  /-- No job has the process id that was named. -/
  | noSuchProcess (pid : String)
  /-- The job table is full. -/
  | tooManyJobs
  /-- Something the shell was doing failed. -/
  | activity (activity : Activity)
  /-- A system call failed. -/
  | call (errno : Errno)
  /-- A file or stream operation failed with an error number. -/
  | inputOutput (errno : Errno)
  /-- A file or stream operation failed for a reason given in words. -/
  | inputOutputText (text : String)
  deriving DecidableEq

namespace Fault

/-- The wording of a fault. -/
def text : Fault → String
  | malformedLine line => s!"syntax error: '{line}'"
  | misuse m _ => m.text
  | commandNotFound name => s!"{name}: Command not found"
  | noSuchJob name => s!"{name}: No such job"
  | noSuchProcess pid => s!"({pid}): No such process"
  | tooManyJobs => "Tried to create too many jobs"
  | activity a => a.text
  | call e => e.text
  | inputOutput e => s!"{e.libraryText} (os error {e.number})"
  | inputOutputText text => text

/-- The short description of the kind of fault. Failed calls and operations have none. -/
def description? : Fault → Option String
  | malformedLine _ => some "syntax error"
  | misuse _ _ => some "builtin command error"
  | commandNotFound _ => some "command not found"
  | noSuchJob _ => some "no such job"
  | noSuchProcess _ => some "no such process"
  | tooManyJobs => some "job table is full"
  | activity a => some a.text
  | call _ | inputOutput _ | inputOutputText _ => none

/-- The user can act on the fault, and the shell goes on. -/
def recoverable : Fault → Bool
  | malformedLine _ | misuse _ _ | commandNotFound _ | noSuchJob _ | noSuchProcess _
  | tooManyJobs => true
  | activity _ | call _ | inputOutput _ | inputOutputText _ => false

end Fault

/-- A fault with what caused it, nearest cause first. -/
structure Error where
  /-- The fault that is reported. -/
  fault : Fault
  /-- The causes, nearest first. -/
  causes : List Fault := []
  deriving DecidableEq

namespace Error

variable (e : Error)

/-- A fault without a cause. -/
def of (fault : Fault) : Error := { fault }

/-- An activity that failed because a system call did. -/
def ofCall (activity : Activity) (errno : Errno) : Error := ⟨.activity activity, [.call errno]⟩

/-- The error as the cause of a further fault. -/
def causing (fault : Fault) : Error := ⟨fault, e.fault :: e.causes⟩

/-- The fault and its causes, outermost first. -/
def chain : List Fault := e.fault :: e.causes

/-- The text of the outermost fault alone. -/
def text : String := e.fault.text

/-- The texts of the whole chain. -/
def message : String := ": ".intercalate (e.chain.map Fault.text)

/-- The outermost fault decides whether the shell goes on. -/
def recoverable : Bool := e.fault.recoverable

/-- The line printed for a recoverable error: only a malformed line needs the shell's name. -/
def report : String :=
  match e.fault with
  | .malformedLine _ => s!"tsh: {e.text}"
  | _ => e.text

/-- The status a builtin command finishes with when it fails with this error. -/
def builtinStatus : Int :=
  match e.fault with
  | .misuse _ code => code
  | _ => 1

end Error

end JobShell
