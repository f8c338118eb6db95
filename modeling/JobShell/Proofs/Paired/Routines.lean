import JobShell.Proofs.Paired.Comparison
import JobShell.Session

/-!
# The shell's routines on machines that are compared

Each routine is paired with itself: what a comparison leaves open has no influence on it. A drain
and what comes to drain need one that takes note of the notes, the others any. The proofs follow the
routines' own text, one rule for each act.
-/

namespace JobShell

open Routine

variable {α : Type} {R : Machine → Machine → Prop}

section

variable [Comparison R]

namespace Kernel

/-! ### Signals and occurrences -/

/-- Both processes end with the same status. -/
theorem paired_leave (status : Nat) : Paired R (leave status : Routine α) (leave status) :=
  (paired_record _).bind fun _ ↦ paired_finish status

/-- Both note the signal, or both are ended by the quit key. -/
theorem paired_handle (signal : Handled) : Paired R (handle signal) (handle signal) := by
  by_cases hquit : signal = .quit
  · rw [hquit]
    exact (paired_record _).bind fun _ ↦ paired_leave 1
  · intro m m' hm
    rw [handle_apply hquit, handle_apply hquit]
    exact ⟨rfl, Comparison.noting signal hm⟩

/-- The masks are the same, so the signal is held back on both sides or on neither. -/
theorem paired_raise (signal : Handled) : Paired R (raise signal) (raise signal) := by
  refine paired_state (fun _ _ _ ↦ rfl) fun s ↦ ?_
  split
  · exact paired_modifyKernel _
  · exact paired_handle signal

/-- What is pending is the same, so the same gets through. -/
theorem paired_deliver (mask : SignalSet) (signal : Handled) :
    Paired R (deliver mask signal) (deliver mask signal) := by
  refine paired_state (fun _ _ _ ↦ rfl) fun s ↦ ?_
  split
  · exact (paired_modifyKernel _).bind fun _ ↦ paired_handle signal
  · exact paired_pure ()

theorem paired_deliverAll (mask : SignalSet) :
    Paired R (deliverAll mask) (deliverAll mask) :=
  paired_forM (paired_deliver mask) _

/-- The same happens to both. -/
theorem paired_happen (what : Occurrence) : Paired R (happen what) (happen what) := by
  cases what with
  | raised signal => exact (paired_record _).bind fun _ ↦ paired_raise signal
  | _ =>
    exact (paired_modifyKernel _).bind fun _ ↦ (paired_record _).bind fun _ ↦ paired_raise _

theorem paired_happenAll (occurrences : List Occurrence) :
    Paired R (happenAll occurrences) (happenAll occurrences) := paired_forM paired_happen _

/-! ### Calls -/

/-- Both scripts have the same call fail. -/
theorem paired_nextFailure (kind : Fallible) : Paired R (nextFailure kind) (nextFailure kind) := by
  intro m m' hm
  unfold nextFailure
  rw [(Comparison.concurs hm).script]
  exact ⟨rfl, Comparison.withScript _ hm⟩

/-- Both calls get the same answer. -/
theorem paired_attemptCall (kind : Fallible) (request : Request) :
    Paired R (attemptCall kind request) (attemptCall kind request) :=
  (paired_nextFailure kind).bind fun failure ↦
    (paired_record _).bind fun _ ↦ paired_pure failure

/-- Both masks become the same, and let the same through. -/
theorem paired_changeMask (how : MaskChange) (signals : SignalSet) :
    Paired R (changeMask how signals) (changeMask how signals) := by
  refine (paired_nextFailure _).bind fun failure ↦ ?_
  cases failure with
  | some errno => exact (paired_record _).bind fun _ ↦ paired_pure _
  | none =>
    refine paired_state (fun _ _ _ ↦ rfl) fun s ↦ (paired_modifyKernel _).bind fun _ ↦ ?_
    exact (paired_record _).bind fun _ ↦ (paired_deliverAll _).bind fun _ ↦ paired_pure _

theorem paired_waitEmpty : Paired R waitEmpty waitEmpty := by
  refine paired_state (fun _ _ _ ↦ rfl) fun s ↦ ?_
  split <;> exact paired_record _

theorem paired_takeEntry (entry : WaitEntry) (rest : List WaitEntry) :
    Paired R (takeEntry entry rest) (takeEntry entry rest) :=
  (paired_modifyKernel _).bind fun _ ↦ paired_record _

/-- The next batch is the same, and both scripts go on. -/
theorem paired_nextBatch : Paired R nextBatch nextBatch := by
  intro m m' hm
  unfold nextBatch
  rw [(Comparison.concurs hm).script]
  cases m.script.batches with
  | nil => exact ⟨rfl, hm⟩
  | cons batch batches => exact ⟨rfl, Comparison.withScript _ hm⟩

/-- Whether there was a sleep with nothing scripted is known to both. -/
theorem paired_exhaust : Paired R exhaust exhaust := fun _ _ hm ↦
  ⟨congrArg Outcome.done (Comparison.concurs hm).exhausted.symm, Comparison.exhausting hm⟩

/-- The same children live, and the same ones were ever started. -/
theorem paired_endChildren : Paired R endChildren endChildren := by
  refine paired_exhaust.bind fun again ↦ paired_state (fun _ _ _ ↦ rfl) fun s ↦ ?_
  exact (paired_forM (fun pid ↦ paired_modifyKernel _) _).bind fun _ ↦ paired_raise _

/-- In a sleep the same happens to both, scripted or not. -/
theorem paired_suspend (mask : SignalSet) : Paired R (suspend mask) (suspend mask) := by
  refine (paired_record _).bind fun _ ↦ paired_nextBatch.bind fun batch ↦ ?_
  cases batch with
  | none => exact paired_endChildren.bind fun _ ↦ paired_deliverAll mask
  | some batch => exact (paired_happenAll batch).bind fun _ ↦ paired_deliverAll mask

/-- The same is scripted to happen at the next fork. -/
theorem paired_nextAtFork : Paired R nextAtFork nextAtFork := by
  intro m m' hm
  unfold nextAtFork
  rw [(Comparison.concurs hm).script]
  exact ⟨rfl, Comparison.withScript _ hm⟩

/-- The same stands in the way of a program. -/
theorem paired_execute (argv : List String) : Paired R (execute argv) (execute argv) := by
  refine paired_machine fun m m' hm ↦ ?_
  rw [(Comparison.concurs hm).obstacle]
  exact (paired_record _).bind fun _ ↦ paired_pure _

/-- A child that is played is seen by what it writes. -/
theorem related_playChild {child : Routine Empty} (h : Paired R child child) (pid : Pid)
    {m m' : Machine} (hm : R m m') (hplays : m.playsChildren = true) :
    (playChild child pid m).1 = (playChild child pid m').1 ∧
      R (playChild child pid m).2 (playChild child pid m').2 := by
  obtain ⟨hfresh, hwritten⟩ := Comparison.playing hm hplays
  have hcopies := h _ _ hfresh
  unfold playChild
  generalize child { m with trace := [] } = result at hcopies ⊢
  generalize child { m' with trace := [] } = result' at hcopies ⊢
  obtain ⟨outcome, last⟩ := result
  obtain ⟨outcome', last'⟩ := result'
  obtain ⟨houtcome, hlast⟩ := hcopies
  obtain rfl : outcome = outcome' := houtcome
  have hadded : ∀ events events' : List Event, events' = events → R
      { m with trace := events.map (⟨·, m.state⟩) ++ m.trace }
      { m' with trace := events'.map (⟨·, m'.state⟩) ++ m'.trace } := by
    rintro _ events rfl
    induction events with
    | nil => exact hm
    | cons event events ih => exact Comparison.recording event ih
  exact paired_happen _ _ _ (hadded _ _ (hwritten _ _ hlast))

/-- A child may be played or not: both machines agree about it. -/
theorem paired_playing {child : Routine Empty} (h : Paired R child child) (pid : Pid) :
    Paired R (do given (← machine).playsChildren (playChild child pid))
      (do given (← machine).playsChildren (playChild child pid)) := by
  intro m m' hm
  show (given m.playsChildren (playChild child pid) m).1 =
      (given m'.playsChildren (playChild child pid) m').1 ∧
    R (given m.playsChildren (playChild child pid) m).2
      (given m'.playsChildren (playChild child pid) m').2
  rw [(Comparison.concurs hm).plays]
  cases hplays : m.playsChildren with
  | true => exact related_playChild h pid hm hplays
  | false => exact ⟨rfl, hm⟩

/-- The children get the same id, and do the same on either side if they are played. -/
theorem paired_fork {child : Routine Empty} (h : Paired R child child) :
    Paired R (fork child) (fork child) := by
  refine (paired_nextFailure _).bind fun failure ↦ ?_
  cases failure with
  | some errno => exact (paired_record _).bind fun _ ↦ paired_pure _
  | none =>
    refine paired_state (fun _ _ _ ↦ rfl) fun s ↦ (paired_modifyKernel _).bind fun _ ↦ ?_
    refine (paired_record _).bind fun _ ↦ ?_
    refine (paired_playing h _).bind fun _ ↦ paired_nextAtFork.bind fun occurrences ↦ ?_
    refine (paired_happenAll occurrences).bind fun _ ↦ ?_
    split
    · exact h.bind fun never ↦ never.elim
    · exact paired_pure _

end Kernel

namespace Shell

/-! ### Masks -/

theorem paired_restoreMask (mask : SignalSet) :
    Paired R (restoreMask mask) (restoreMask mask) := by
  refine (Kernel.paired_changeMask _ _).bind fun result ↦ ?_
  cases result with
  | ok previous => exact paired_pure ()
  | error errno => exact paired_log

/-- Work under a blocked signal, whatever the mask was before. -/
theorem paired_withBlocked {body : SignalSet → Routine α}
    (h : ∀ previous, Paired R (body previous) (body previous)) (signals : SignalSet) :
    Paired R (withBlocked signals body) (withBlocked signals body) := by
  refine (Kernel.paired_changeMask _ _).bind fun result ↦ ?_
  cases result with
  | error errno => exact paired_fail _
  | ok previous =>
    exact (h previous).attempt.bind fun result ↦
      (paired_restoreMask previous).bind fun _ ↦ paired_ofExcept result

/-- A failure is only logged, so it need not even be the same. -/
theorem paired_logFailure (component : Component) (text : String) (failure : Option Errno) :
    Paired R (logFailure component text failure) (logFailure component text failure) := by
  cases failure with
  | none => exact paired_pure ()
  | some errno => exact paired_log

/-! ### Reaping and passing keys on -/

/-- The tables are the same, so a status does the same to both. -/
theorem paired_apply (status : WaitStatus) : Paired R (apply status) (apply status) := by
  cases status with
  | exited pid code =>
    refine paired_log.bind fun _ ↦ paired_state (fun _ _ _ ↦ rfl) fun s ↦ ?_
    cases s.jobs.remove pid with
    | none => exact paired_log
    | some removed => exact paired_changeJobs _ _
  | signaled pid signal =>
    refine paired_log.bind fun _ ↦ paired_state (fun _ _ _ ↦ rfl) fun s ↦ ?_
    cases s.jobs.remove pid with
    | none => exact paired_log
    | some removed => exact (paired_changeJobs _ _).bind fun _ ↦ paired_record _
  | stopped pid signal =>
    refine paired_log.bind fun _ ↦ paired_state (fun _ _ _ ↦ rfl) fun s ↦ ?_
    cases s.jobs.setState pid .stopped with
    | none => exact paired_log
    | some restated => exact (paired_changeJobs _ _).bind fun _ ↦ paired_record _
  | continued pid => exact paired_log
  | traced pid => exact paired_log

/-- Both passes read the same statuses, and end with the same entry. -/
theorem paired_reapAll : ∀ queue, Paired R (reapAll queue) (reapAll queue)
  | [] => Kernel.paired_waitEmpty
  | entry :: rest => by
    refine (Kernel.paired_takeEntry entry rest).bind fun _ ↦ ?_
    split
    · exact paired_pure ()
    · exact paired_fail _
    · exact paired_pure ()
    · exact (paired_record _).bind fun _ ↦ (paired_apply _).bind fun _ ↦ paired_reapAll rest

theorem paired_reap : Paired R reap reap :=
  paired_state (fun _ _ _ ↦ rfl) fun s ↦ paired_reapAll s.kernel.waitQueue

/-- The same job is in the foreground of both. -/
theorem paired_relay (signal : Signal) : Paired R (relay signal) (relay signal) := by
  refine paired_state (fun _ _ _ ↦ rfl) fun s ↦ ?_
  cases s.jobs.foregroundPid? with
  | none => exact paired_log
  | some pid =>
    exact paired_log.bind fun _ ↦ (Kernel.paired_attemptCall _ _).bind fun failure ↦
      paired_logFailure _ _ failure

theorem paired_onEvent {routine : Routine Unit} (h : Paired R routine routine) (was : Bool)
    (name : String) : Paired R (onEvent was name routine) (onEvent was name routine) :=
  Paired.given (paired_log.bind fun _ ↦ h) was

/-! ### Continuing a job -/

/-- The signal that continues a job fails on both sides for the same reason. -/
theorem paired_continueJob (spec : JobSpec) (pid : Pid) :
    Paired R (continueJob spec pid) (continueJob spec pid) := by
  refine (Kernel.paired_attemptCall _ _).bind fun failure ↦ ?_
  cases failure with
  | none => exact paired_pure ()
  | some errno => exact paired_fail _

/-- The specification names the same job in both tables. -/
theorem paired_resume (spec : JobSpec) (newState : JobState) (ground : String) :
    Paired R (resume spec newState ground) (resume spec newState ground) := by
  refine paired_state (fun _ _ _ ↦ rfl) fun s ↦
    (paired_ofExcept _).bind fun job ↦ paired_log.bind fun _ ↦ ?_
  refine (paired_continueJob spec job.pid).bind fun _ ↦ paired_state (fun _ _ _ ↦ rfl) fun s ↦ ?_
  cases s.jobs.setState job.pid newState with
  | none => exact paired_pure _
  | some restated => exact (paired_changeJobs _ _).bind fun _ ↦ paired_pure _

theorem paired_background (spec : JobSpec) :
    Paired R (background spec) (background spec) := by
  refine (paired_resume _ _ _).bind ?_
  rintro ⟨pid, _ | job⟩
  · exact paired_fail _
  · exact paired_pure job

/-! ### Launching -/

theorem paired_abandon (message : String) (status : Nat) :
    Paired R (abandon message status) (abandon message status) :=
  (paired_record _).bind fun _ ↦ Kernel.paired_leave status

/-- The first reset that fails is the same. -/
theorem paired_resetHandlers :
    ∀ signals, Paired R (resetHandlers signals) (resetHandlers signals)
  | [] => paired_pure ()
  | signal :: signals => by
    refine (Kernel.paired_attemptCall _ _).bind fun failure ↦ ?_
    cases failure with
    | none => exact paired_resetHandlers signals
    | some errno => exact paired_fail _

/-- What a child finds in its way is the same, and so is its report of it. -/
theorem paired_child (program : String) (argv : List String) (previous : SignalSet) :
    Paired R (child program argv previous) (child program argv previous) := by
  refine (Kernel.paired_attemptCall _ _).bind fun failure ↦ ?_
  cases failure with
  | some errno => exact paired_abandon _ _
  | none =>
    refine (paired_restoreMask previous).bind fun _ ↦
      (paired_resetHandlers _).attempt.bind fun result ↦ ?_
    cases result with
    | error error => exact paired_abandon _ _
    | ok value =>
      refine (Kernel.paired_execute argv).bind fun failure ↦ ?_
      split
      · exact paired_finish 0
      · exact paired_abandon _ _
      · exact paired_abandon _ _

/-- The new job gets the same id. Whether it is told of may depend on the settings. -/
theorem paired_register (pid : Pid) (newState : JobState) (commandLine : String) :
    Paired R (register pid newState commandLine) (register pid newState commandLine) := by
  refine paired_state (fun _ _ _ ↦ rfl) fun s ↦ (paired_ofExcept _).bind fun result ↦ ?_
  refine (paired_changeJobs _ _).bind fun _ ↦ paired_log.bind fun _ ↦ ?_
  rw [← bind_assoc]
  exact (paired_aside (.inl rfl) _).bind fun _ ↦ paired_pure result.1

/-- The process is adopted by both or killed by both. -/
theorem paired_adopt (pid : Pid) (newState : JobState) (commandLine : String) :
    Paired R (adopt pid newState commandLine) (adopt pid newState commandLine) := by
  refine (Kernel.paired_attemptCall _ _).bind fun failure ↦ ?_
  refine (paired_logFailure _ _ failure).bind fun _ ↦ ?_
  refine (paired_register pid newState commandLine).attempt.bind fun result ↦ ?_
  cases result with
  | ok job => exact paired_pure job
  | error error =>
    exact (Kernel.paired_attemptCall _ _).bind fun failure ↦
      (paired_logFailure _ _ failure).bind fun _ ↦ paired_fail error

/-- What keeps a command from being launched is found in the command or is the same for both. -/
theorem paired_launch (command : Command) :
    Paired R (launch command) (launch command) := by
  unfold launch
  split
  · exact paired_fail _
  cases command.program? with
  | none => exact paired_fail _
  | some program =>
    refine paired_withBlocked (fun previous ↦ ?_) _
    refine (Kernel.paired_fork (paired_child program command.argv previous)).bind fun result ↦ ?_
    cases result with
    | error errno => exact paired_fail _
    | ok pid => exact paired_adopt pid _ _

/-! ### Builtin commands -/

/-- Only the log tells the settings. -/
theorem paired_leave (status : Nat) : Paired R (leave status : Routine α) (leave status) := by
  intro m m' hm
  show ((given (!m.state.jobs.isEmpty) _ >>= _ : Routine α) m).1 =
      ((given (!m'.state.jobs.isEmpty) _ >>= _ : Routine α) m').1 ∧
    R ((given (!m.state.jobs.isEmpty) _ >>= _ : Routine α) m).2
      ((given (!m'.state.jobs.isEmpty) _ >>= _ : Routine α) m').2
  rw [(Comparison.concurs hm).jobs]
  exact ((paired_log.given _).bind fun _ ↦ paired_log.bind fun _ ↦ paired_finish status) m m' hm

theorem paired_refuse (builtin : Builtin) (misuse : Misuse) :
    Paired R (refuse builtin misuse : Routine α) (refuse builtin misuse) :=
  paired_log.bind fun _ ↦ paired_fail _

/-- A specification is read off the arguments alone. -/
theorem paired_jobArgument (builtin : Builtin) (args : List String) :
    Paired R (jobArgument builtin args) (jobArgument builtin args) := by
  cases args with
  | nil => exact paired_refuse _ _
  | cons arg args =>
    cases hspec : JobSpec.parse? arg with
    | none =>
      simp only [jobArgument, hspec]
      exact paired_refuse _ _
    | some spec =>
      simp only [jobArgument, hspec]
      exact paired_pure spec

/-! ### Reporting -/

/-- An echo is one or two texts that are said if the settings ask for it. -/
theorem paired_echo (command : Command) :
    Paired R (do given (← state).settings.verbose (echo command))
      (do given (← state).settings.verbose (echo command)) := by
  unfold echo
  cases command.background with
  | false => exact paired_aside (.inl rfl) _
  | true =>
    have hboth : (do given (← state).settings.verbose (do
          given true (printLine "background job requested")
          printLine command.echo)) =
        (do
          given (← state).settings.verbose (printLine "background job requested")
          given (← state).settings.verbose (printLine command.echo)) := by
      funext m
      show given m.state.settings.verbose _ m =
        (given m.state.settings.verbose _ >>= fun _ ↦
          do given (← state).settings.verbose (printLine command.echo)) m
      cases hverbose : m.state.settings.verbose with
      | false =>
        show _ = given m.state.settings.verbose _ m
        rw [hverbose]
        rfl
      | true =>
        show _ = given m.state.settings.verbose _ _
        rw [hverbose]
        rfl
    rw [hboth]
    exact (paired_aside (.inl rfl) _).bind fun _ ↦ paired_aside (.inl rfl) _

/-- Both report the same error, or hand it on. -/
theorem paired_reporting {routine routine' : Routine Unit}
    (h : Paired R routine routine') :
    Paired R (reporting routine) (reporting routine') := by
  refine h.attempt.bind fun result ↦ ?_
  cases result with
  | ok value => exact paired_pure ()
  | error error =>
    dsimp only
    split
    · exact paired_log.bind fun _ ↦ paired_record _
    · exact paired_fail error

end Shell

/-! ### Starting -/

/-- The first handler that cannot be installed is the same. -/
theorem Shell.paired_installHandlers :
    ∀ signals, Paired R (Shell.installHandlers signals) (Shell.installHandlers signals)
  | [] => paired_log
  | signal :: signals => by
    refine (Kernel.paired_attemptCall _ _).bind fun failure ↦ ?_
    cases failure with
    | none => exact paired_installHandlers signals
    | some errno => exact paired_fail _

theorem Shell.paired_start : Paired R Shell.start Shell.start :=
  (paired_installHandlers _).bind fun _ ↦ paired_log

end

/-- The text of a specification is read alike. -/
theorem Instruction.paired_withSpec {routine : JobSpec → Routine Reply}
    (h : ∀ spec, Paired R (routine spec) (routine spec)) (text : String) :
    Paired R (withSpec text routine) (withSpec text routine) := by
  unfold withSpec
  split
  · exact paired_pure _
  · exact h _

section

variable [Thorough R]

namespace Shell

/-! ### Drains -/

/-- This is where the notes are read. -/
theorem paired_takeNoted : Paired R takeNoted takeNoted := fun _ _ hm ↦
  ⟨congrArg Outcome.done (Thorough.noted hm).symm, Thorough.takingNoted hm⟩

/-- The notes are the same, so both drains have the same to do. -/
theorem paired_drain : Paired R drain drain := by
  refine paired_takeNoted.bind fun noted ↦ (paired_onEvent paired_reap _ _).bind fun _ ↦ ?_
  refine (paired_onEvent (paired_relay .int) _ _).bind fun _ ↦ ?_
  exact (paired_onEvent (paired_relay .tstp) _ _).bind fun _ ↦ paired_record _

/-! ### Waiting -/

/-- Both waits find the job gone after equally many sleeps. -/
theorem paired_awaitForeground (pid : Pid) (previous : SignalSet) :
    ∀ n, Paired R (awaitForeground pid previous n) (awaitForeground pid previous n)
  | 0 => paired_stall
  | n + 1 => by
    refine paired_drain.bind fun _ ↦ paired_state (fun _ _ _ ↦ rfl) fun s ↦ ?_
    split
    · exact (paired_record _).bind fun _ ↦ (Kernel.paired_suspend _).bind fun _ ↦
        paired_awaitForeground pid previous n
    · exact paired_pure ()

/-- The bound of the wait is taken from what the machines have in common. -/
theorem paired_waitFor (pid : Pid) : Paired R (waitFor pid) (waitFor pid) := by
  refine paired_withBlocked (fun previous ↦ paired_machine fun m m' hm ↦ ?_) _
  have hbound : waitBound m' = waitBound m := by
    unfold waitBound
    rw [(Comparison.concurs hm).script, (Comparison.concurs hm).kernel]
  rw [hbound]
  exact (paired_awaitForeground pid previous _).bind fun _ ↦ paired_log

theorem paired_foreground (spec : JobSpec) :
    Paired R (foreground spec) (foreground spec) :=
  (paired_resume _ _ _).bind fun result ↦ paired_waitFor result.1

/-! ### Commands -/

/-- A builtin command reads the table, which is the same. -/
theorem paired_perform (args : List String) (builtin : Builtin) :
    Paired R (perform args builtin) (perform args builtin) := by
  cases builtin with
  | bg =>
    exact (paired_jobArgument _ args).bind fun spec ↦ (paired_background spec).bind fun job ↦
      paired_record _
  | fg => exact (paired_jobArgument _ args).bind paired_foreground
  | jobs => exact paired_state (fun _ _ _ ↦ rfl) fun s ↦ paired_forM (fun job ↦ paired_record _) _
  | quit => exact paired_leave 0

theorem paired_runBuiltin (builtin : Builtin) (args : List String) :
    Paired R (runBuiltin builtin args) (runBuiltin builtin args) := by
  refine (paired_perform args builtin).attempt.bind fun result ↦ ?_
  cases result with
  | ok value => exact paired_pure ()
  | error error => exact paired_log.bind fun _ ↦ paired_fail error

/-- The new job is announced on both sides or waited for on both. -/
theorem paired_runProgram (command : Command) :
    Paired R (runProgram command) (runProgram command) := by
  refine (paired_launch command).bind fun job ↦ ?_
  split
  · refine paired_state (fun _ _ _ ↦ rfl) fun s ↦ ?_
    cases s.jobs.byId? job.id with
    | none => exact paired_pure ()
    | some job => exact paired_record _
  · exact paired_waitFor job.pid

/-- A command is echoed as the settings ask, and then does the same on both sides. -/
theorem paired_run (command : Command) : Paired R (run command) (run command) := by
  unfold run
  cases command.program? with
  | none => exact paired_pure ()
  | some program =>
    refine paired_log.bind fun _ ↦ ?_
    rw [← bind_assoc]
    refine (paired_echo command).bind fun _ ↦ ?_
    cases Builtin.ofName? program with
    | some builtin => exact paired_runBuiltin builtin command.args
    | none => exact paired_runProgram command

theorem paired_execute (line : String) : Paired R (execute line) (execute line) :=
  paired_drain.bind fun _ ↦ (paired_ofExcept _).bind paired_run

/-- Bytes are text on both sides or on neither. -/
theorem paired_executeBytes (piece : List UInt8) :
    Paired R (executeBytes piece) (executeBytes piece) := by
  unfold executeBytes
  cases Text.Utf8.decode? piece with
  | some line => exact paired_execute line
  | none => exact paired_fail _

/-! ### The standard input -/

/-- A prompt may be given on one side only, as the settings ask. -/
theorem paired_beforeLine : Paired R beforeLine beforeLine :=
  paired_drain.bind fun _ ↦ paired_aside (.inr rfl) _

/-- An input is run line by line on both sides, up to the same line. -/
theorem paired_executeLines : ∀ pieces, Paired R (executeLines pieces) (executeLines pieces)
  | [] => paired_beforeLine.bind fun _ ↦ paired_log
  | piece :: pieces =>
    paired_beforeLine.bind fun _ ↦ (paired_reporting (paired_executeBytes piece)).bind fun _ ↦
      paired_executeLines pieces

end Shell

/-- Only what shows the shell tells the settings. -/
theorem Instruction.paired_perform {instruction : Instruction} (h : instruction ≠ .inspect) :
    Paired R instruction.perform instruction.perform := by
  cases instruction with
  | line text =>
    exact (Shell.paired_reporting (Shell.paired_execute text)).bind fun _ ↦ paired_pure _
  | input bytes => exact (Shell.paired_executeLines _).bind fun _ ↦ paired_pure _
  | foreground spec =>
    exact paired_withSpec
      (fun spec ↦ (Shell.paired_foreground spec).bind fun _ ↦ paired_pure _) spec
  | background spec =>
    exact paired_withSpec
      (fun spec ↦ (Shell.paired_background spec).bind fun _ ↦ paired_pure _) spec
  | occur what => exact (Kernel.paired_happen what).bind fun _ ↦ paired_pure _
  | inspect => exact absurd rfl h
  | leave code => exact Shell.paired_leave _

end

end JobShell
