import JobShell.Shell.Foreground

/-!
# Launching a job

The shell forks a child that runs the command in a process group of its own, and enters it into the
job table. The signal for a child's change of state stays blocked from before the fork until the job
is in the table, so a child cannot be reaped before it is known. A child that finds no room in the
table is killed. The child puts the mask and the signal dispositions back before it runs the
command's program, and ends at once if it cannot get that far.
-/

namespace JobShell.Shell

open Routine

/-- The status of a child whose program does not exist. -/
def notFoundStatus : Nat := 127

/-- The status of a child whose program cannot be started. -/
def notExecutableStatus : Nat := 126

/-- The status of a child that could not be prepared. -/
def unpreparedStatus : Nat := 1

/-! ### The child -/

/-- Ends a child with a message. -/
def abandon (message : String) (status : Nat) : Routine Empty := do
  printError message
  Kernel.leave status

/-- Restores the default disposition of each signal, or fails with the first that cannot be. -/
def resetHandlers : List Handled → Routine Unit
  | [] => return ()
  | signal :: signals => do
    match ← Kernel.resetHandler signal with
    | some errno => fail (.ofCall (.resettingHandler signal) errno)
    | none => resetHandlers signals

/-- What the child does: it never returns to the shell. `previous` is the mask before the launch. -/
def child (program : String) (argv : List String) (previous : SignalSet) : Routine Empty := do
  match ← Kernel.setProcessGroup 0 0 with
  | some errno => abandon s!"setpgid error: {errno.description}" unpreparedStatus
  | none =>
    restoreMask previous
    match ← attempt (resetHandlers Handled.installation) with
    | .error error => abandon s!"tsh: {error.message}" unpreparedStatus
    | .ok () =>
      match ← Kernel.execute argv with
      | none => finish 0
      | some .enoent => abandon (Fault.commandNotFound program).text notFoundStatus
      | some errno => abandon s!"{program}: {errno.description}" notExecutableStatus

/-! ### The parent -/

/-- Enters a new job into the table. -/
def register (pid : Pid) (newState : JobState) (commandLine : String) : Routine Job := do
  let (job, jobs) ← ofExcept ((← state).jobs.add pid newState commandLine)
  changeJobs (.added job) jobs
  log .debug .jobControl s!"created job {job.names} {newState.name}: {commandLine}"
  given (← state).settings.verbose (printLine s!"Added job [{job.id}] {pid} {commandLine}")
  return job

/-- What the parent does with its new child. -/
def adopt (pid : Pid) (newState : JobState) (commandLine : String) : Routine Job := do
  logFailure .launching s!"failed to put ({pid}) in its own process group"
    (← Kernel.setProcessGroup pid pid)
  match ← attempt (register pid newState commandLine) with
  | .ok job => return job
  | .error error =>
    logFailure .launching s!"failed to kill unregistered child ({pid})"
      (← Kernel.sendToGroup pid .kill)
    fail error

/-- The state that a command's job starts in. -/
def initialState (command : Command) : JobState :=
  if command.background then .background else .foreground

/-- An argument that holds a NUL cannot be handed to a program. -/
def holdsNul (argument : String) : Bool := argument.toList.contains '\x00'

/-- Launches a command whose arguments can be handed to its program. -/
def launch (command : Command) : Routine Job :=
  if command.argv.any holdsNul then fail (.of (.malformedLine command.input))
  else match command.program? with
    | none => fail (.of (.activity .launchingNothing))
    | some program =>
      withBlocked .children fun previous ↦ do
        match ← Kernel.fork (child program command.argv previous) with
        | .error errno => fail (.ofCall .forking errno)
        | .ok pid => adopt pid (initialState command) command.input

end JobShell.Shell
