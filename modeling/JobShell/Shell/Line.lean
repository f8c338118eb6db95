import JobShell.Shell.Builtin
import JobShell.Shell.Launch

/-!
# Running command lines

Each line begins with a drain. A line without arguments does nothing more; a builtin command runs in
the shell; anything else is launched as a job, announced if it runs in the background and waited
for if it does not. Errors that the user can act on are printed and forgotten, all others end the
line and are handed on.
-/

namespace JobShell.Shell

open Routine

/-- Echoes a command as the verbose setting asks. -/
def echo (command : Command) : Routine Unit := do
  given command.background (printLine "background job requested")
  printLine command.echo

/-- Runs a program as a job. -/
def runProgram (command : Command) : Routine Unit := do
  let job ← launch command
  if command.background then
    match (← state).jobs.byId? job.id with
    | some job => printLine job.announcement
    | none => return ()
  else waitFor job.pid

/-- Runs a command. -/
def run (command : Command) : Routine Unit := do
  match command.program? with
  | none => return ()
  | some program =>
    log .debug .shell command.inspect
    given (← state).settings.verbose (echo command)
    match Builtin.ofName? program with
    | some builtin => runBuiltin builtin command.args
    | none => runProgram command

/-- Drains, then runs a line. -/
def execute (line : String) : Routine Unit := do
  drain
  run (← ofExcept (Command.parse line))

/-- Prints an error that the user can act on; hands on any other. -/
def reporting (routine : Routine Unit) : Routine Unit := do
  match ← attempt routine with
  | .ok () => return ()
  | .error error =>
    if error.recoverable then
      log .warn .shell error.text
      printError error.report
    else fail error

/-- Runs a line and reports what the user can act on. -/
def executeLine (line : String) : Routine Unit := reporting (execute line)

end JobShell.Shell
