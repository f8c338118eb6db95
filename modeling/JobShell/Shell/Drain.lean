import JobShell.Shell.Mask

/-!
# Draining noted events

Handlers only note that something happened. A drain takes all notes at once and acts on them in a
fixed order: first every child with a status is reaped, then the interrupt key and the suspend key
are passed on to the job in the foreground. So a key never reaches a job that has already finished.
If reaping fails, the notes behind it are lost with the drain.
-/

namespace JobShell.Shell

open Routine

/-! ### Reaping -/

/-- Notes in the log that a child has ended which is no job. -/
def logStranger (pid : Pid) : Routine Unit :=
  log .warn .jobControl s!"reaped ({pid}) which is not in the job table"

/-- Acts on a child's status: a job that ended leaves the table, one that was stopped is marked. -/
def apply : WaitStatus → Routine Unit
  | .exited pid code => do
    log .debug .jobControl s!"{pid} exited with {code}"
    match (← state).jobs.remove pid with
    | some (job, jobs) => changeJobs (.removed job) jobs
    | none => logStranger pid
  | .signaled pid signal => do
    log .debug .jobControl s!"{pid} terminated by signal {signal.name}"
    match (← state).jobs.remove pid with
    | some (job, jobs) =>
      changeJobs (.removed job) jobs
      printLine s!"Job {job.names} terminated by signal {signal.number}"
    | none => logStranger pid
  | .stopped pid signal => do
    log .debug .jobControl s!"{pid} was signaled to stop by {signal.name}"
    match (← state).jobs.setState pid .stopped with
    | some (job, jobs) =>
      changeJobs (.restated job) jobs
      printLine s!"Job {job.names} stopped by signal {signal.number}"
    | none => log .warn .jobControl s!"({pid}) stopped but is not in the job table"
  | .continued pid => log .trace .jobControl s!"ignoring wait status Continued(Pid({pid}))"
  | .traced pid => log .trace .jobControl s!"ignoring wait status PtraceSyscall(Pid({pid}))"

/-- Takes the entries of the wait queue, which is `queue`, until none is left or one says that there
is nothing to take. -/
def reapAll : List WaitEntry → Routine Unit
  | [] => Kernel.waitEmpty
  | entry :: rest => do
    Kernel.takeEntry entry rest
    match entry.read with
    | .error .echild => return ()
    | .error errno => fail (.ofCall .waiting errno)
    | .ok none => return ()
    | .ok (some status) => do
      record (.learned status)
      apply status
      reapAll rest

/-- Reaps every child that has a status. -/
def reap : Routine Unit := do reapAll (← state).kernel.waitQueue

/-! ### Passing keys on -/

/-- Sends a key's signal to the foreground job's process group. -/
def relay (signal : Signal) : Routine Unit := do
  match (← state).jobs.foregroundPid? with
  | some pid =>
    log .debug .jobControl s!"relaying {signal.name} to process group {pid}"
    let failure ← Kernel.sendToGroup pid signal
    logFailure .jobControl s!"failed to relay {signal.name} to ({pid})" failure
  | none => log .debug .jobControl s!"no foreground job, ignoring {signal.name}"

/-! ### The drain -/

/-- Takes what the handlers noted, leaving nothing noted. -/
def takeNoted : Routine EventSet := do
  let noted := (← state).noted
  modifyState fun s ↦ { s with noted := {} }
  return noted

/-- Does `routine` if its event was noted. -/
def onEvent (was : Bool) (name : String) (routine : Routine Unit) : Routine Unit :=
  given was do
    log .trace .jobControl s!"handling {name}"
    routine

/-- Acts on everything noted since the last drain. -/
def drain : Routine Unit := do
  let noted ← takeNoted
  onEvent noted.childStatus "ChildStatus" reap
  onEvent noted.interrupt "Interrupt" (relay .int)
  onEvent noted.suspend "Suspend" (relay .tstp)
  record .drained

end JobShell.Shell
