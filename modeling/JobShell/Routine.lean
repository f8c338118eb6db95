import JobShell.Trace

/-!
# Routines

Everything a shell does is a `Routine`: a total function from a machine (the state, the script still
in force and the trace so far) to an outcome and a machine. The machine survives every outcome, so a
failed routine keeps what it has already done. A routine may be done, may fail with an error that a
caller can catch, or may end the process, which nothing catches. The fourth outcome, `stalled`, says
that a bound on a loop was too small; it is kept apart from failure so that it can be excluded.
-/

namespace JobShell

/-- A shell in the middle of a run. -/
structure Machine where
  /-- The shell and its kernel. -/
  state : State := {}
  /-- Children run to their end before a fork returns; if not, what they do is up to the script. -/
  playsChildren : Bool := false
  /-- Why the program of a given name cannot be started, if it cannot. -/
  obstacle? : String → Option Errno := fun _ ↦ none
  /-- What the world still has to do in this step. -/
  script : Script := {}
  /-- The shell has slept in this step with nothing scripted to happen. -/
  exhausted : Bool := false
  /-- What happened in this step, newest first. -/
  trace : Trace := []
  /-- What happened in earlier steps, newest first. -/
  past : Trace := []

/-- Everything that happened so far, newest first. -/
def Machine.history (m : Machine) : Trace := m.trace ++ m.past

/-- How a routine ends. -/
inductive Outcome (α : Type)
  | done (value : α)
  | failed (error : Error)
  /-- The process ended with a status. -/
  | exited (status : Nat)
  /-- A loop ran out of its bound. -/
  | stalled
  deriving DecidableEq

/-- A computation of the shell. -/
def Routine (α : Type) : Type := Machine → Outcome α × Machine

namespace Routine

variable {α β : Type}

/-- Does nothing. -/
protected def pure (value : α) : Routine α := fun m ↦ (.done value, m)

/-- Does one routine and, if it is done, the next. -/
protected def bind (routine : Routine α) (next : α → Routine β) : Routine β := fun m ↦
  match routine m with
  | (.done value, m') => next value m'
  | (.failed error, m') => (.failed error, m')
  | (.exited status, m') => (.exited status, m')
  | (.stalled, m') => (.stalled, m')

instance : Monad Routine where
  pure := Routine.pure
  bind := Routine.bind

/-! What a routine followed by another does, by the outcome of the first. -/

theorem bind_of_done {routine : Routine α} {next : α → Routine β} {m m' : Machine} {value : α}
    (h : routine m = (.done value, m')) : (routine >>= next) m = next value m' := by
  change Routine.bind routine next m = _
  rw [Routine.bind, h]

theorem bind_of_failed {routine : Routine α} {next : α → Routine β} {m m' : Machine}
    {error : Error} (h : routine m = (.failed error, m')) :
    (routine >>= next) m = (.failed error, m') := by
  change Routine.bind routine next m = _
  rw [Routine.bind, h]

theorem bind_of_exited {routine : Routine α} {next : α → Routine β} {m m' : Machine}
    {status : Nat} (h : routine m = (.exited status, m')) :
    (routine >>= next) m = (.exited status, m') := by
  change Routine.bind routine next m = _
  rw [Routine.bind, h]

theorem bind_of_stalled {routine : Routine α} {next : α → Routine β} {m m' : Machine}
    (h : routine m = (.stalled, m')) : (routine >>= next) m = (.stalled, m') := by
  change Routine.bind routine next m = _
  rw [Routine.bind, h]

/-- What comes after a routine depends on nothing but its result. -/
theorem bind_apply_congr {routine routine' : Routine α} {m m' : Machine}
    (h : routine m = routine' m') (next : α → Routine β) :
    (routine >>= next) m = (routine' >>= next) m' := by
  change Routine.bind routine next m = Routine.bind routine' next m'
  rw [Routine.bind, Routine.bind, h]

instance : LawfulMonad Routine :=
  LawfulMonad.mk' Routine
    (fun routine ↦ by
      funext m
      change Routine.bind routine _ m = routine m
      unfold Routine.bind
      rcases routine m with ⟨outcome, m'⟩
      cases outcome <;> rfl)
    (fun _ _ ↦ rfl)
    (fun routine f g ↦ by
      funext m
      change Routine.bind (Routine.bind routine f) g m = Routine.bind routine _ m
      simp only [Routine.bind]
      rcases routine m with ⟨outcome, m'⟩
      cases outcome <;> rfl)

/-- Fails with an error. -/
def fail (error : Error) : Routine α := fun m ↦ (.failed error, m)

/-- Ends the process. -/
def finish (status : Nat) : Routine α := fun m ↦ (.exited status, m)

/-- Gives up a loop whose bound was too small. -/
def stall : Routine α := fun m ↦ (.stalled, m)

/-- Answers with a failure instead of failing. -/
def attempt (routine : Routine α) : Routine (Except Error α) := fun m ↦
  match routine m with
  | (.done value, m') => (.done (.ok value), m')
  | (.failed error, m') => (.done (.error error), m')
  | (.exited status, m') => (.exited status, m')
  | (.stalled, m') => (.stalled, m')

/-- Takes the value of a result, or fails with its error. -/
def ofExcept : Except Error α → Routine α
  | .ok value => Pure.pure value
  | .error error => fail error

/-- Does a routine only if a condition holds. -/
def given (condition : Bool) (routine : Routine Unit) : Routine Unit :=
  if condition then routine else Pure.pure ()

/-! ### The machine -/

/-- The machine. -/
def machine : Routine Machine := fun m ↦ (.done m, m)

/-- The state. -/
def state : Routine State := fun m ↦ (.done m.state, m)

/-- Changes the state. -/
def modifyState (f : State → State) : Routine Unit := fun m ↦
  (.done (), { m with state := f m.state })

/-- Changes the kernel's side of the state. -/
def modifyKernel (f : Kernel → Kernel) : Routine Unit :=
  modifyState fun s ↦ { s with kernel := f s.kernel }

/-- Puts an event and the state it left on the trace. -/
def record (event : Event) : Routine Unit := fun m ↦
  (.done (), { m with trace := ⟨event, m.state⟩ :: m.trace })

/-- Writes to the standard output. -/
def print (text : String) : Routine Unit := record (.out text)

/-- Writes a line to the standard output. -/
def printLine (text : String) : Routine Unit := print (text ++ "\n")

/-- Writes a line to the standard error. -/
def printError (text : String) : Routine Unit := record (.err (text ++ "\n"))

/-- Logs a text. -/
def log (level : Level) (component : Component) (text : String) : Routine Unit :=
  record (.log ⟨level, component, text⟩)

/-- Records a change of the job table, which becomes `table`. -/
def changeJobs (change : JobChange) (table : JobTable) : Routine Unit := do
  modifyState fun s ↦ { s with jobs := table }
  record (.jobs change)

end Routine

end JobShell
