import JobShell.Shell.Drain

/-!
# Foreground and background

Waiting for the foreground job alternates drains with sleeps. The three noted signals stay blocked
except while the shell sleeps, so nothing that happens between a drain and the next sleep is missed.
The wait ends when the job is no longer the one in the foreground. `fg` and `bg` continue a job by
sending it the continuation signal before they change its state.
-/

namespace JobShell.Shell

open Routine

/-- The mask in force while the shell sleeps: the one before the wait, less what that blocked. -/
def sleepMask (previous : SignalSet) : SignalSet := previous.diff .noted

/-- Each signal whose note could end the wait gets through while the shell sleeps. -/
theorem contains_sleepMask {previous : SignalSet} {signal : Handled}
    (h : SignalSet.noted.contains signal = true) :
    (sleepMask previous).contains signal = false := by
  simp [sleepMask, h]

/-- Drains and sleeps until process `pid` is not in the foreground, at most `n` times. -/
def awaitForeground (pid : Pid) (previous : SignalSet) : Nat → Routine Unit
  | 0 => stall
  | n + 1 => do
    drain
    if (← state).jobs.foregroundPid? = some pid then
      record (.sleepsFor pid)
      Kernel.suspend (sleepMask previous)
      awaitForeground pid previous n
    else return ()

/-- An upper bound on the drains of a wait. A sleep uses up a batch or finds none left. From the
first sleep that finds none, each drain takes an entry off the wait queue or empties it, and the
second such sleep queues the end of the awaited process, which stands behind no more entries than
are queued now, are scripted, or are added by the two sleeps. -/
def waitBound (m : Machine) : Nat :=
  m.script.batches.length + m.script.batches.flatten.length + m.state.kernel.waitQueue.length
    + 2 * m.state.kernel.forked.length + 4

/-- Waits until process `pid` is not in the foreground any more. -/
def waitFor (pid : Pid) : Routine Unit :=
  withBlocked .noted fun previous ↦ do
    awaitForeground pid previous (waitBound (← machine))
    log .debug .jobControl s!"({pid}) left the foreground"

/-- Sends the continuation signal to a job. -/
def continueJob (spec : JobSpec) (pid : Pid) : Routine Unit := do
  match ← Kernel.sendToGroup pid .cont with
  | none => return ()
  | some errno => fail ⟨.misuse (.cannotContinue spec) 1, [.call errno]⟩

/-- Finds the job that `spec` names, continues it and sets its state. Answers its process id, and
the job as it is in the table now. -/
def resume (spec : JobSpec) (newState : JobState) (ground : String) :
    Routine (Pid × Option Job) := do
  let job ← ofExcept ((← state).jobs.resolve spec)
  log .debug .jobControl s!"putting job {spec.text} ({job.pid}) in {ground}"
  continueJob spec job.pid
  match (← state).jobs.setState job.pid newState with
  | some (changed, jobs) => do
    changeJobs (.restated changed) jobs
    return (job.pid, some changed)
  | none => return (job.pid, none)

/-- Continues a job in the foreground and waits for it. -/
def foreground (spec : JobSpec) : Routine Unit := do
  let (pid, _) ← resume spec .foreground "foreground"
  waitFor pid

/-- Continues a job in the background. -/
def background (spec : JobSpec) : Routine Job := do
  match ← resume spec .background "background" with
  | (_, some job) => return job
  | (pid, none) => fail (.of (.noSuchProcess s!"{pid}"))

end JobShell.Shell
