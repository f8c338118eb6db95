import JobShell.Shell.Foreground
import JobShell.Shell.Lifetime

/-!
# Builtin commands

Four commands run in the shell itself: `quit` leaves it, `jobs` lists the job table, and `bg` and
`fg` continue a job. `bg` and `fg` look at their first argument only, and the others at none.
-/

namespace JobShell

/-- A command that the shell runs itself. -/
inductive Builtin
  | bg | fg | jobs | quit
  deriving DecidableEq

namespace Builtin

/-- The builtin commands. -/
def all : List Builtin := [bg, fg, jobs, quit]

/-- The name the command is called by. -/
def name : Builtin → String
  | bg => "bg"
  | fg => "fg"
  | jobs => "jobs"
  | quit => "quit"

/-- The line that tells how the command is called. -/
def usage : Builtin → String
  | bg => "bg: bg <PID|%jobid>"
  | fg => "fg: fg <PID|%jobid>"
  | jobs => "jobs: jobs"
  | quit => "quit: quit"

/-- The builtin command of a given name. -/
def ofName? (name : String) : Option Builtin := all.find? fun b ↦ b.name == name

end Builtin

namespace Shell

open Routine

/-- Refuses a misused builtin command. -/
def refuse {α : Type} (builtin : Builtin) (misuse : Misuse) : Routine α := do
  log .debug .jobBuiltins s!"usage: {builtin.usage}"
  fail (.of (.misuse misuse 1))

/-- The job specification that a builtin command was given. -/
def jobArgument (builtin : Builtin) : List String → Routine JobSpec
  | [] => refuse builtin (.missingArgument builtin.name)
  | arg :: _ =>
    match JobSpec.parse? arg with
    | none => refuse builtin (.badArgument builtin.name)
    | some spec => return spec

/-- What a builtin command does. -/
def perform (args : List String) : Builtin → Routine Unit
  | .bg => do
    let job ← background (← jobArgument .bg args)
    printLine job.announcement
  | .fg => do foreground (← jobArgument .fg args)
  | .jobs => do (← state).jobs.jobs.forM fun job ↦ printLine job.listing
  | .quit => leave 0

/-- Runs a builtin command, logging the status of one that fails. -/
def runBuiltin (builtin : Builtin) (args : List String) : Routine Unit := do
  match ← attempt (perform args builtin) with
  | .ok () => return ()
  | .error error =>
    log .debug .builtins
      s!"{builtin.name} finished with status {error.builtinStatus}: {error.text}"
    fail error

end Shell

end JobShell
