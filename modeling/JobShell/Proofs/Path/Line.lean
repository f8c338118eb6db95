import JobShell.Proofs.Path.Routines

/-!
# Lines follow paths

Whatever a builtin command, a line or a whole input does is a path. A line starts where nothing is
under way and is settled, has failed or has ended the process when it is over, so the next line can
start where it left off.
-/

namespace JobShell

open Routine

variable {again : Phase → Prop} {start : Machine → Prop}

namespace Shell

/-! ### Starting and leaving -/

/-- The shell is ready once all handlers are installed; one that cannot be is fatal. -/
theorem path_installHandlers : ∀ signals,
    Triple (Path again start .ready) (installHandlers signals)
      { done := fun _ ↦ Path again start .ready
        failed := fun error ↦ Path again start (.reached (.failed error)) }
  | [] => (triple_log Path.steady).of_done fun _ _ hm ↦ hm
  | signal :: signals => by
    have hinstall : Triple (Path again start .ready) (Kernel.installHandler signal)
        { done := fun _ ↦ Path again start .ready } :=
      Kernel.triple_quietCall Path.steady fun _ ↦ rfl
    refine hinstall.andThen _ fun failure ↦ ?_
    cases failure with
    | none => exact path_installHandlers signals
    | some errno => exact triple_fail fun m hm ↦ hm.move (.turn (.unstarted signal errno))

/-- A shell that has started is ready. -/
theorem path_start : Triple (Path again start .ready) Shell.start
    { done := fun _ ↦ Path again start .ready
      failed := fun error ↦ Path again start (.reached (.failed error)) } := by
  refine Triple.bind (fun _ ↦ Path again start .ready) (path_installHandlers _) fun _ ↦ ?_
  exact (triple_log Path.steady).of_done fun _ _ hm ↦ hm

/-- The shell may be left from every phase. -/
theorem path_leave {α : Type} {p : Phase} {done : α → Machine → Prop} (status : Nat) :
    Triple (Path again start p) (leave status) { done, exited := OnPath again start } := by
  refine triple_state fun s ↦ Triple.andThen (fun _ ↦ Path again start p) ?_ fun _ ↦ ?_
  · refine triple_given (fun _ ↦ ?_) fun _ _ hm ↦ hm.1
    exact (triple_log Path.steady).of_imp fun m hm ↦ hm.1
  · exact (triple_log Path.steady).andThen _ fun _ ↦ triple_finish fun _ hm ↦ hm.onPath

/-! ### Builtin commands -/

/-- A misuse is a failure from which the user recovers. -/
theorem path_refuse {α : Type} {done : α → Machine → Prop} (builtin : Builtin) (misuse : Misuse) :
    Triple (Path again start .ready) (refuse builtin misuse)
      { done, failed := fun error ↦ Path again start (.reached (.failed error)) } :=
  (triple_log Path.steady).andThen _ fun _ ↦
    triple_fail fun _ hm ↦ hm.move (.turn (.refuse rfl))

/-- To read a specification off the arguments leaves the shell ready. -/
theorem path_jobArgument (builtin : Builtin) (args : List String) :
    Triple (Path again start .ready) (jobArgument builtin args)
      { done := fun _ ↦ Path again start .ready
        failed := fun error ↦ Path again start (.reached (.failed error)) } := by
  cases args with
  | nil => exact path_refuse builtin _
  | cons arg args =>
    cases hspec : JobSpec.parse? arg with
    | none =>
      simp only [jobArgument, hspec]
      exact path_refuse builtin _
    | some spec =>
      simp only [jobArgument, hspec]
      exact triple_pure fun _ hm ↦ hm

variable (hstart : ∀ m, start m → Sound .ready m)
include hstart

/-- A builtin command settles what it was called for, or comes to the way it fails. -/
theorem path_perform (args : List String) (builtin : Builtin) :
    Triple (Path again start .ready) (perform args builtin) (.working again start) := by
  cases builtin with
  | bg =>
    refine Triple.bind _ (path_jobArgument .bg args).of_failed fun spec ↦ ?_
    refine Triple.bind (fun _ ↦ Path again start (.reached .settled)) (path_background spec) ?_
    exact fun job ↦ (triple_printLine Path.steady).of_done fun _ _ hm ↦ hm
  | fg => exact Triple.bind _ (path_jobArgument .fg args).of_failed (path_foreground hstart)
  | jobs =>
    have hlist : ∀ jobs : List Job, Triple (Path again start .ready)
        (jobs.forM fun job ↦ printLine job.listing) { done := fun _ ↦ Path again start .ready } :=
      fun jobs ↦ triple_forM fun job _ ↦ triple_printLine Path.steady
    refine triple_state fun s ↦ Triple.of_imp ?_ fun m hm ↦ hm.1
    exact (hlist s.jobs.jobs).of_done fun _ m hm ↦ hm.move (.turn .settle)
  | quit => exact (path_leave 0).of_exited

/-- That the failure of a builtin command is logged makes no difference to the path. -/
theorem path_runBuiltin (builtin : Builtin) (args : List String) :
    Triple (Path again start .ready) (runBuiltin builtin args) (.working again start) := by
  refine Triple.bind
    (fun result ↦ Path again start (.reached (.ofResult (fun _ ↦ .settled) result)))
    (Triple.attempt (path_perform hstart args builtin)) fun result ↦ ?_
  cases result with
  | ok value => exact triple_pure fun _ hm ↦ hm
  | error error =>
    exact (triple_log Path.steady).andThen _ fun _ ↦ triple_fail fun _ hm ↦ hm

/-! ### Lines -/

/-- A program in the background is announced where its launch has settled; one in the foreground is
waited for. -/
theorem path_runProgram {command : Command} (hprogram : command.program? ≠ none) :
    Triple (Path again start .ready) (runProgram command) (.working again start) := by
  refine Triple.bind (fun job ↦ Path again start (.reached (launched command job)))
    ((path_launch hstart hprogram).weaken ?_) fun job ↦ ?_
  · rintro (_ | _ | _ | _) m hm
    · exact hm
    · exact hm
    · exact hm
    · exact hm.elim
  · unfold launched
    split
    · refine triple_state fun s ↦ Triple.of_imp ?_ fun m hm ↦ hm.1
      split
      · exact (triple_printLine Path.steady).of_done fun _ _ hm ↦ hm
      · exact triple_pure fun _ hm ↦ hm
    · exact path_waitFor hstart job.pid

/-- A command that names nothing is settled at once. -/
theorem path_run (command : Command) :
    Triple (Path again start .ready) (run command) (.working again start) := by
  unfold run
  split
  · exact triple_pure fun m hm ↦ hm.move (.turn .settle)
  · next program hsome =>
    have hprogram : command.program? ≠ none := by
      rw [hsome]
      exact Option.some_ne_none program
    refine (triple_log Path.steady).andThen _ fun _ ↦ triple_state fun s ↦
      Triple.andThen (fun _ ↦ Path again start .ready) ?_ fun _ ↦ ?_
    · refine triple_given (fun _ ↦ ?_) fun _ _ hm ↦ hm.1
      refine Triple.of_imp (Triple.andThen (fun _ ↦ Path again start .ready) ?_ fun _ ↦ ?_)
        fun m hm ↦ hm.1
      · exact triple_given (fun _ ↦ triple_printLine Path.steady) fun _ _ hm ↦ hm
      · exact triple_printLine Path.steady
    · split
      · next builtin _ => exact path_runBuiltin hstart builtin command.args
      · exact path_runProgram hstart hprogram

omit hstart in
/-- All lines that cannot be parsed are refused in the same words. -/
theorem error_of_parse {line : String} {error : Error} (h : Command.parse line = .error error) :
    error = .of (.malformedLine (Text.trimLineEnd line)) := by
  unfold Command.parse at h
  simp only at h
  split at h
  · exact (Except.error.inj h).symm
  · cases h

omit hstart in
/-- A line that cannot be split into words is the user's mistake. -/
theorem recoverable_of_parse {line : String} {error : Error}
    (h : Command.parse line = .error error) : error.recoverable = true := by
  rw [error_of_parse h]
  rfl

/-- A line drains at the prompt and goes on from where the shell is ready. -/
theorem path_execute (line : String) :
    Triple (Path again start .ready) (execute line) (.working again start) := by
  refine Triple.bind _ (path_drain .prompt).of_failed fun _ ↦ ?_
  refine Triple.bind (fun _ ↦ Path again start .ready) (triple_ofExcept ?_ ?_) (path_run hstart)
  · exact fun _ _ _ hm ↦ hm
  · exact fun error m herror hm ↦ hm.move (.turn (.refuse (recoverable_of_parse herror)))

/-- Bytes that are no text are refused without a drain. -/
theorem path_executeBytes (line : List UInt8) :
    Triple (Path again start .ready) (executeBytes line) (.working again start) := by
  unfold executeBytes
  split
  · exact path_execute hstart _
  · exact triple_fail fun m hm ↦ hm.move (.turn (.refuse rfl))

omit hstart in
/-- Reporting settles what the user can act on. -/
theorem path_reporting {routine : Routine Unit}
    (h : Triple (Path again start .ready) routine (.working again start)) :
    Triple (Path again start .ready) (reporting routine) (.working again start) := by
  refine Triple.bind
    (fun result ↦ Path again start (.reached (.ofResult (fun _ ↦ .settled) result)))
    (Triple.attempt h) fun result ↦ ?_
  cases result with
  | ok value => exact triple_pure fun _ hm ↦ hm
  | error error =>
    simp only
    split
    · next hrecoverable =>
      refine (triple_log Path.steady).andThen _ fun _ ↦ ?_
      refine (triple_printError Path.steady).of_done fun _ m hm ↦ ?_
      exact hm.move (.turn (.recover hrecoverable))
    · exact triple_fail fun _ hm ↦ hm

omit hstart in
/-- The drain before a line is at the prompt too. -/
theorem path_beforeLine : Triple (Path again start .ready) beforeLine
    { done := fun _ ↦ Path again start .ready
      failed := fun error ↦ Path again start (.reached (.failed error)) } := by
  refine Triple.bind _ (path_drain .prompt) fun _ ↦ triple_state fun s ↦ ?_
  refine triple_given (fun _ ↦ ?_) fun _ _ hm ↦ hm.1
  refine Triple.of_imp ?_ fun m hm ↦ hm.1
  exact (triple_print Path.steady).of_done fun _ _ hm ↦ hm

/-- Each line of an input starts where the one before is settled, so an input needs to be allowed to
go on there. -/
theorem path_executeLines (hagain : again (.reached .settled)) : ∀ lines,
    Triple (Path again start .ready) (executeLines lines) (.working again start)
  | [] => by
    refine Triple.bind _ path_beforeLine.of_failed fun _ ↦ ?_
    exact (triple_log Path.steady).of_done fun _ m hm ↦ hm.move (.turn .settle)
  | line :: lines => by
    refine Triple.bind _ path_beforeLine.of_failed fun _ ↦ ?_
    refine Triple.bind (fun _ ↦ Path again start (.reached .settled))
      (path_reporting (path_executeBytes hstart line)) fun _ ↦ ?_
    exact (path_executeLines hagain lines).of_imp fun m hm ↦ hm.again hagain

end Shell

end JobShell
