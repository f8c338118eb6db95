import JobShell.Kernel.Signals

/-!
# The calls a shell makes

Each call is recorded with its answer. A call that can be made to fail takes the next scripted
answer for its kind, and changes nothing when it fails. A sleep in which nothing is scripted to
happen ends every living child, so that a shell that waits for one is woken; the second such sleep
of a step reports the end of every child ever started, whatever was lost of the first report.
-/

namespace JobShell.Kernel

open Routine

/-- Takes the next scripted answer for a kind of call: why it fails, if it does. -/
def nextFailure (kind : Fallible) : Routine (Option Errno) := fun m ↦
  let answers := m.script.failures kind
  let failures := fun k ↦ if k = kind then answers.tail else m.script.failures k
  (.done (answers.headD none), { m with script := { m.script with failures } })

/-- Makes a call that has no effect on the kernel; answers why it failed, if it did. -/
def attemptCall (kind : Fallible) (request : Request) : Routine (Option Errno) := do
  let failure ← nextFailure kind
  record (.call ⟨request, .ofFailure failure⟩)
  return failure

/-- Installs the shell's handler for a signal. -/
def installHandler (signal : Handled) : Routine (Option Errno) :=
  attemptCall .installHandler (.installHandler signal)

/-- Restores a signal's default disposition. -/
def resetHandler (signal : Handled) : Routine (Option Errno) :=
  attemptCall .resetHandler (.resetHandler signal)

/-- Puts a process into a process group. -/
def setProcessGroup (pid group : Pid) : Routine (Option Errno) :=
  attemptCall .setProcessGroup (.setProcessGroup pid group)

/-- Sends a signal to the process group of `pid`. -/
def sendToGroup (pid : Pid) (signal : Signal) : Routine (Option Errno) :=
  attemptCall .send (.send (-pid) signal)

/-- The mask after a change. -/
def maskAfter (how : MaskChange) (signals mask : SignalSet) : SignalSet :=
  match how with
  | .block => mask.union signals
  | .replace => signals

/-- Changes the mask and delivers what it no longer blocks. Answers the mask before the change. -/
def changeMask (how : MaskChange) (signals : SignalSet) : Routine (Except Errno SignalSet) := do
  match ← nextFailure .changeMask with
  | some errno =>
    record (.call ⟨.changeMask how signals, .errno errno⟩)
    return .error errno
  | none =>
    let previous := (← state).kernel.mask
    let mask := maskAfter how signals previous
    modifyKernel fun k ↦ { k with mask }
    record (.call ⟨.changeMask how signals, .number 0⟩)
    deliverAll mask
    return .ok previous

/-- Records the answer of a wait that found the queue empty: 0 while a child lives. -/
def waitEmpty : Routine Unit := do
  if (← state).kernel.alive.isEmpty then record (.call ⟨.wait, .errno .echild⟩)
  else record (.call ⟨.wait, .number 0⟩)

/-- What a wait answers when it takes `entry`. -/
def waitAnswer : WaitEntry → Answer
  | .status pid _ => .number pid
  | .failure errno => .errno errno

/-- Takes `entry` from the queue of wait statuses, which leaves `rest`. -/
def takeEntry (entry : WaitEntry) (rest : List WaitEntry) : Routine Unit := do
  modifyKernel fun k ↦ { k with waitQueue := rest }
  record (.call ⟨.wait, waitAnswer entry⟩)

/-- The next batch of the script, if one is left. -/
def nextBatch : Routine (Option (List Occurrence)) := fun m ↦
  match m.script.batches with
  | [] => (.done none, m)
  | batch :: batches => (.done (some batch), { m with script := { m.script with batches } })

/-- Marks that a sleep found nothing scripted; answers whether an earlier one did. -/
def exhaust : Routine Bool := fun m ↦
  (.done m.exhausted, { m with exhausted := true })

/-- What happens in a sleep for which nothing is scripted. -/
def endChildren : Routine Unit := do
  let again ← exhaust
  let kernel := (← state).kernel
  let ending := if again then kernel.forked else kernel.alive
  ending.forM fun pid ↦ modifyKernel (·.post pid (.exited 0))
  raise .childStatus

/-- Sleeps until a handler has run, with `mask` in force instead of the usual mask. -/
def suspend (mask : SignalSet) : Routine Unit := do
  record (.call ⟨.suspend mask, .errno .eintr⟩)
  match ← nextBatch with
  | some batch => happenAll batch
  | none => endChildren
  deliverAll mask

/-- What happens while the shell forks. -/
def nextAtFork : Routine (List Occurrence) := fun m ↦
  (.done (m.script.atFork.headD []),
    { m with script := { m.script with atFork := m.script.atFork.tail } })

/-- Runs the child's side to its end on a copy of the machine. What it writes appears in the
parent's trace, and its status is queued. -/
def playChild (child : Routine Empty) (pid : Pid) : Routine Unit := fun m ↦
  let (outcome, last) := child { m with trace := [] }
  let status := match outcome with
    | .exited status => status
    | _ => 0
  let written := (last.trace.map Moment.event).filter fun
    | .out _ | .err _ => true
    | _ => false
  happen (.child pid (.exited status))
    { m with trace := written.map (⟨·, m.state⟩) ++ m.trace }

/-- Starts a child that does `child`, and answers its process id. The process that is told 0 is the
child itself. -/
def fork (child : Routine Empty) : Routine (Except Errno Pid) := do
  match ← nextFailure .fork with
  | some errno =>
    record (.call ⟨.fork, .errno errno⟩)
    return .error errno
  | none =>
    let pid := (← state).kernel.nextPid
    modifyKernel Kernel.spawn
    record (.call ⟨.fork, .number pid⟩)
    given (← machine).playsChildren (playChild child pid)
    happenAll (← nextAtFork)
    if pid = 0 then nomatch ← child else return .ok pid

/-- Replaces the child's program. Answers why it could not be started, if it could not. -/
def execute (argv : List String) : Routine (Option Errno) := do
  let obstacle := (← machine).obstacle? (argv.headD "")
  record (.call ⟨.execute argv, .ofFailure obstacle⟩)
  return obstacle

end JobShell.Kernel
