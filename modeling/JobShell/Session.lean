import JobShell.Shell.Input

/-!
# Sessions

A session is a shell that is started and then given one step after another, each with a script of
what happens meanwhile. Every step leaves a report: how it ended, what happened in it, and the
state at its end. The session ends with its last step, with a shell that could not be started, or
with the step in which the shell ends itself. A fatal error ends its step only, so later steps show
what such an error left behind.
-/

namespace JobShell

/-- One thing asked of a shell. -/
inductive Instruction
  /-- Run a command line. -/
  | line (text : String)
  /-- Run a whole standard input. -/
  | input (bytes : List UInt8)
  /-- Continue a job in the foreground. -/
  | foreground (spec : String)
  /-- Continue a job in the background. -/
  | background (spec : String)
  /-- Let something happen while the shell is idle. -/
  | occur (what : Occurrence)
  /-- Show the shell. -/
  | inspect
  /-- Leave with a code, of which the process's status is the remainder by 256. -/
  | leave (code : Int)
  deriving DecidableEq

/-- What an instruction answers. -/
inductive Reply
  | ok
  | failed (error : Error)
  /-- The text names no job. -/
  | notASpec
  | job (job : Job)
  | text (text : String)
  deriving DecidableEq

/-- How a step ended. -/
inductive Ending
  /-- The shell answered and goes on. -/
  | replied (reply : Reply)
  /-- The shell ended with a status. -/
  | exited (status : Nat)
  /-- A loop of the shell ran out of its bound. -/
  | stalled
  deriving DecidableEq

namespace Instruction

open Routine

/-- Does something with a job specification, if the text is one. -/
def withSpec (spec : String) (routine : JobSpec → Routine Reply) : Routine Reply :=
  match JobSpec.parse? spec with
  | none => return .notASpec
  | some spec => routine spec

/-- Does an instruction. -/
def perform : Instruction → Routine Reply
  | line text => do
    Shell.executeLine text
    return .ok
  | input bytes => do
    Shell.executeInput bytes
    return .ok
  | foreground spec => withSpec spec fun spec ↦ do
    Shell.foreground spec
    return .ok
  | background spec => withSpec spec fun spec ↦ return .job (← Shell.background spec)
  | occur what => do
    Kernel.happen what
    return .ok
  | inspect => return .text (Shell.inspect (← state))
  | leave code => Shell.leave (code % 256).toNat

end Instruction

/-- How a routine that answers a reply ended. -/
def Ending.ofOutcome : Outcome Reply → Ending
  | .done reply => .replied reply
  | .failed error => .replied (.failed error)
  | .exited status => .exited status
  | .stalled => .stalled

/-- The shell goes on to its next step. -/
def Ending.goesOn : Ending → Bool
  | replied _ => true
  | exited _ | stalled => false

/-- What a step leaves. -/
structure Report where
  /-- How the step ended. -/
  ending : Ending
  /-- The machine at its end. -/
  machine : Machine

namespace Report

variable (report : Report)

/-- What happened in the step, newest first. -/
def trace : Trace := report.machine.trace

/-- The state at the step's end. -/
def state : State := report.machine.state

/-- The arguments with which a program was started in the step, or was to be. -/
def executed? : Option (List String) :=
  report.trace.calls.findSome? fun call ↦
    match call.request with
    | .execute argv => some argv
    | _ => none

end Report

/-- An instruction with the script in force while it is done. -/
structure Step where
  /-- What is asked of the shell. -/
  instruction : Instruction
  /-- What the world does meanwhile. -/
  script : Script := {}

/-- A machine at the start of a step: a new script, and a trace that starts afresh. -/
def Machine.beginStep (m : Machine) (script : Script) : Machine :=
  { m with script, exhausted := false, trace := [], past := m.history }

/-- Does something as one step. -/
def Machine.perform (m : Machine) (script : Script) (routine : Routine Reply) : Report :=
  let (outcome, m') := routine (m.beginStep script)
  ⟨.ofOutcome outcome, m'⟩

/-- Does one step. -/
def Step.perform (step : Step) (m : Machine) : Report :=
  m.perform step.script step.instruction.perform

/-- The reports of steps done one after another, until the shell ends. -/
def reports : List Step → Machine → List Report
  | [], _ => []
  | step :: steps, m =>
    let report := step.perform m
    report :: if report.ending.goesOn then reports steps report.machine else []

/-- A shell with what is asked of it. -/
structure Session where
  /-- The shell's settings. -/
  settings : Settings := {}
  /-- The process id of the first child. -/
  firstPid : Pid := 1001
  /-- What the world does while the shell starts. -/
  startScript : Script := {}
  /-- What is asked of the shell, in order. -/
  steps : List Step

namespace Session

variable (session : Session)

/-- The machine before the shell starts. -/
def initial : Machine :=
  { state := { settings := session.settings, kernel := { nextPid := session.firstPid } } }

/-- The report of the start. -/
def start : Report :=
  session.initial.perform session.startScript do
    Shell.start
    return .ok

/-- The report of the start, and those of the steps if the shell started. -/
def run : List Report :=
  session.start :: match session.start.ending with
    | .replied .ok => reports session.steps session.start.machine
    | _ => []

end Session

/-- The report of one command line run by a quiet shell in which a fork goes on as the child.
`obstacle?` keeps the child from starting its program. -/
def childReport (line : String) (script : Script) (obstacle? : Option Errno) : Report :=
  let started := Session.start { settings := ⟨false, false⟩, firstPid := 0, steps := [] }
  Step.perform ⟨.line line, script⟩ { started.machine with obstacle? := fun _ ↦ obstacle? }

end JobShell
