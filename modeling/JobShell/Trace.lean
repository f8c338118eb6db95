import JobShell.Command
import JobShell.Job.Table
import JobShell.Kernel.Call
import JobShell.Kernel

/-!
# Traces

A trace is the list of everything observable that a shell did, newest first, each event together
with the state in which it left the shell. System calls, output, diagnostics and log records are
events, and so is what happens outside the shell. Points of the shell's own progress are events too:
learning a child's status, a change of the job table, the end of a drain and the start of a sleep
for a job. What a step prints, calls and logs are views of its trace, so statements about order or
about what was the case at a call are statements about traces.
-/

namespace JobShell

/-- What the handlers noted: each kind of event at most once. -/
structure EventSet where
  /-- A child changed state. -/
  childStatus : Bool := false
  /-- The interrupt key was typed. -/
  interrupt : Bool := false
  /-- The suspend key was typed. -/
  suspend : Bool := false
  deriving DecidableEq

/-- How a shell behaves towards its user. -/
structure Settings where
  /-- A prompt is printed before each line is read. -/
  prompt : Bool := true
  /-- Arguments and new jobs are echoed. -/
  verbose : Bool := false
  deriving DecidableEq

/-- A shell and the kernel under it. -/
structure State where
  /-- The shell's settings. -/
  settings : Settings := {}
  /-- The jobs the shell knows. -/
  jobs : JobTable := .empty
  /-- What the handlers noted since the last drain. -/
  noted : EventSet := {}
  /-- The kernel's side. -/
  kernel : Kernel := {}
  deriving DecidableEq

/-- How much a log record matters. -/
inductive Level
  | trace | debug | info | warn | error
  deriving DecidableEq

/-- The word for a level. -/
def Level.text : Level → String
  | trace => "TRACE"
  | debug => "DEBUG"
  | info => "INFO"
  | warn => "WARN"
  | error => "ERROR"

/-- The part of the shell that a log record comes from. -/
inductive Component
  | shell | signals | launching | jobControl | builtins | jobBuiltins
  deriving DecidableEq

/-- A log record. -/
structure LogRecord where
  /-- How much it matters. -/
  level : Level
  /-- Where it comes from. -/
  component : Component
  /-- What it tells. -/
  text : String
  deriving DecidableEq

/-- A change of the job table. -/
inductive JobChange
  | added (job : Job)
  | removed (job : Job)
  /-- The job's state was set; the job is shown with its new state. -/
  | restated (job : Job)
  deriving DecidableEq

/-- Something that a shell did. -/
inductive Event
  /-- It made a system call. -/
  | call (call : Call)
  /-- It wrote to the standard output. -/
  | out (text : String)
  /-- It wrote to the standard error. -/
  | err (text : String)
  /-- It logged something. -/
  | log (record : LogRecord)
  /-- Something happened outside it. -/
  | happened (what : Occurrence)
  /-- A wait told it a child's status. -/
  | learned (status : WaitStatus)
  /-- It changed the job table. -/
  | jobs (change : JobChange)
  /-- It finished a drain of the noted events. -/
  | drained
  /-- It goes to sleep until the job of process `pid` leaves the foreground. -/
  | sleepsFor (pid : Pid)
  deriving DecidableEq

/-- An event with the state it left. -/
structure Moment where
  /-- What happened. -/
  event : Event
  /-- The state afterwards. -/
  state : State
  deriving DecidableEq

/-- The moments of a run, newest first. -/
abbrev Trace := List Moment

namespace Event

/-- The call, if the event is one. -/
def call? : Event → Option Call
  | call c => some c
  | _ => none

/-- What the event writes to the standard output. -/
def outText : Event → String
  | out text => text
  | _ => ""

/-- What the event writes to the standard error. -/
def errText : Event → String
  | err text => text
  | _ => ""

/-- The log record, if the event is one. -/
def log? : Event → Option LogRecord
  | log record => some record
  | _ => none

end Event

namespace Trace

variable (trace : Trace)

/-- The events in the order in which they happened. -/
def events : List Event := (trace.map Moment.event).reverse

/-- The system calls, in order. -/
def calls : List Call := (events trace).filterMap Event.call?

/-- Everything written to the standard output. -/
def out : String := String.join ((events trace).map Event.outText)

/-- Everything written to the standard error. -/
def err : String := String.join ((events trace).map Event.errText)

/-- Everything written to either stream, as one stream. -/
def merged : String := String.join ((events trace).map fun e ↦ e.outText ++ e.errText)

/-- The log records, in order. -/
def logs : List LogRecord := (events trace).filterMap Event.log?

end Trace

end JobShell
