import JobShell.Proofs.Emissions.Permissions
import JobShell.Proofs.Rules.Foreground
import JobShell.Proofs.Rules.Launch
import JobShell.Proofs.Table.Shape

/-!
# What the shell's routines add to the trace

Each routine adds what it is permitted to. The proofs follow the routines' own text, one rule for
each act. Two acts look at more than the text: a job is continued and restated as the table says at
that time, and a job is launched under the state and the line that its command gives it.
-/

namespace JobShell

open Routine

variable {α : Type} {p : Moment → Prop} {m m' : Machine}

/-! ### The kernel -/

namespace Kernel

section

variable (h : PermitsMinor p)
include h

/-- To end the process is a minor thing. -/
theorem emits_leave (status : Nat) : Emits p (leave status : Routine α) :=
  (h.emits_record rfl).bind fun _ ↦ emits_finish status

/-- Any handler notes its signal without a trace, but that of the quit key, which speaks and ends
the process. -/
theorem emits_handle (signal : Handled) : Emits p (handle signal) := by
  cases signal with
  | quit =>
    intro m hplays
    rw [handle_quit_apply]
    have hsaid : Emitted (Outcome.Permits p (.exited 1 : Outcome Unit)) m
        (m.recording (.out (quitNotice ++ "\n"))) := .recording hplays (Or.inr rfl)
    exact hsaid.trans (.recording hsaid.plays (Outcome.permits_of (h.minor _ rfl)))
  | _ => exact emits_modifyState (fun _ ↦ rfl) fun _ ↦ rfl

/-- A signal that is raised is held back or handled. -/
theorem emits_raise (signal : Handled) : Emits p (raise signal) := by
  refine emits_state fun s ↦ ?_
  split
  · exact emits_modifyKernel _
  · exact emits_handle h signal

/-- A pending signal that gets through is handled. -/
theorem emits_deliver (mask : SignalSet) (signal : Handled) : Emits p (deliver mask signal) := by
  refine emits_state fun s ↦ ?_
  split
  · exact (emits_modifyKernel _).bind fun _ ↦ emits_handle h signal
  · exact emits_pure ()

theorem emits_deliverAll (mask : SignalSet) : Emits p (deliverAll mask) :=
  emits_forM (emits_deliver h mask) _

/-- What happens is a minor thing, and its signal is raised. -/
theorem emits_happen (what : Occurrence) : Emits p (happen what) := by
  cases what with
  | raised signal => exact (h.emits_record rfl).bind fun _ ↦ emits_raise h signal
  | _ =>
    exact (emits_modifyKernel _).bind fun _ ↦ (h.emits_record rfl).bind fun _ ↦ emits_raise h _

theorem emits_happenAll (occurrences : List Occurrence) : Emits p (happenAll occurrences) :=
  emits_forM (emits_happen h) _

omit h in
/-- To look up whether a call fails is to go on in the script. -/
theorem emits_nextFailure (kind : Fallible) : Emits p (nextFailure kind) :=
  fun _ ↦ .of_eq rfl fun hplays ↦ .ofState hplays rfl rfl rfl rfl rfl

omit h in
/-- A call that may fail has to be permitted with every answer. -/
theorem emits_attemptCall {kind : Fallible} {request : Request}
    (hcall : ∀ answer s, p ⟨.call ⟨request, answer⟩, s⟩) : Emits p (attemptCall kind request) :=
  (emits_nextFailure kind).bind fun failure ↦
    (Routine.emits_record (hcall _)).bind fun _ ↦ emits_pure failure

/-- Calls that have no use for a permission of their own. -/
theorem emits_minorCall {kind : Fallible} {request : Request}
    (hminor : ∀ answer, (Event.call ⟨request, answer⟩).isMinor = true) :
    Emits p (attemptCall kind request) :=
  emits_attemptCall fun answer _ ↦ h.minor _ (hminor answer)

/-- A change of the mask is a minor call, and what it lets through is handled. -/
theorem emits_changeMask (how : MaskChange) (signals : SignalSet) :
    Emits p (changeMask how signals) := by
  refine (emits_nextFailure _).bind fun failure ↦ ?_
  cases failure with
  | some errno => exact (h.emits_record rfl).bind fun _ ↦ emits_pure _
  | none =>
    refine emits_state fun s ↦ (emits_modifyKernel _).bind fun _ ↦ (h.emits_record rfl).bind ?_
    exact fun _ ↦ (emits_deliverAll h _).bind fun _ ↦ emits_pure _

theorem emits_waitEmpty : Emits p waitEmpty := by
  refine emits_state fun s ↦ ?_
  split <;> exact h.emits_record rfl

theorem emits_takeEntry (entry : WaitEntry) (rest : List WaitEntry) :
    Emits p (takeEntry entry rest) :=
  (emits_modifyKernel _).bind fun _ ↦ h.emits_record rfl

/-- That children end at the end of the script shows only once they are waited for. -/
theorem emits_endChildren : Emits p endChildren := by
  have hexhaust : Emits p exhaust :=
    fun _ ↦ .of_eq rfl fun hplays ↦ .ofState hplays rfl rfl rfl rfl rfl
  refine hexhaust.bind fun again ↦ emits_state fun s ↦ ?_
  exact (emits_forM (fun pid ↦ emits_modifyKernel _) _).bind fun _ ↦ emits_raise h _

omit h in
theorem emits_nextBatch : Emits p nextBatch := by
  intro m hplays
  unfold nextBatch
  split
  · exact .refl hplays
  · exact .ofState hplays rfl rfl rfl rfl rfl

/-- A sleep has to be permitted; what happens in it is minor. -/
theorem emits_suspend {mask : SignalSet}
    (hcall : ∀ answer s, p ⟨.call ⟨.suspend mask, answer⟩, s⟩) : Emits p (suspend mask) := by
  refine (Routine.emits_record (hcall _)).bind fun _ ↦ emits_nextBatch.bind fun batch ↦ ?_
  cases batch with
  | none => exact (emits_endChildren h).bind fun _ ↦ emits_deliverAll h mask
  | some batch => exact (emits_happenAll h batch).bind fun _ ↦ emits_deliverAll h mask

/-- That a program takes over is a minor thing. -/
theorem emits_execute (argv : List String) : Emits p (execute argv) :=
  emits_machine fun _ _ ↦ (h.emits_record rfl).bind fun _ ↦ emits_pure _

/-- What a fork does after its call: children are not played, so the only child is the process that
is told 0. -/
theorem emits_afterFork {child : Routine Empty} (hchild : Emits p child) (pid : Pid) :
    Emits p (afterFork child pid) := by
  have hnext : Emits p nextAtFork :=
    fun _ ↦ .of_eq rfl fun hplays ↦ .ofState hplays rfl rfl rfl rfl rfl
  refine emits_machine fun m hplays ↦ ?_
  rw [hplays]
  refine (emits_pure ()).bind fun _ ↦ hnext.bind fun occurrences ↦
    (emits_happenAll h occurrences).bind fun _ ↦ ?_
  split
  · exact hchild.bind fun never ↦ never.elim
  · exact emits_pure _

/-- A fork has to be permitted with every answer, and so has all that its child does. -/
theorem emits_fork {child : Routine Empty} (hchild : Emits p child)
    (hcall : ∀ answer s, p ⟨.call ⟨.fork, answer⟩, s⟩) : Emits p (fork child) := by
  refine (emits_nextFailure _).bind fun failure ↦ ?_
  cases failure with
  | some errno => exact (Routine.emits_record (hcall _)).bind fun _ ↦ emits_pure _
  | none =>
    refine emits_state fun s ↦ (emits_modifyKernel _).bind fun _ ↦
      (Routine.emits_record (hcall _)).bind fun _ ↦ ?_
    exact emits_afterFork h hchild _

end

end Kernel

namespace Shell

/-- A specification that is answered is the first argument, and finding it out does nothing. -/
theorem exists_of_jobArgument {builtin : Builtin} {args : List String} {spec : JobSpec}
    (h : jobArgument builtin args m = (.done spec, m')) :
    m' = m ∧ ∃ arg rest, args = arg :: rest ∧ JobSpec.parse? arg = some spec := by
  have hrefuse : ∀ misuse, refuse builtin misuse m ≠ (.done spec, m') :=
    fun _ heq ↦ absurd (congrArg Prod.fst heq) nofun
  cases args with
  | nil => exact absurd h (hrefuse _)
  | cons arg rest =>
    cases hspec : JobSpec.parse? arg with
    | none =>
      simp only [jobArgument, hspec] at h
      exact absurd h (hrefuse _)
    | some found =>
      simp only [jobArgument, hspec] at h
      obtain ⟨hfound, hsame⟩ := Prod.mk.inj h
      obtain rfl : found = spec := Outcome.done.inj hfound
      exact ⟨hsame.symm, arg, rest, rfl, hspec⟩

section

variable (h : PermitsMinor p)
include h

/-! ### Masks -/

theorem emits_restoreMask (mask : SignalSet) : Emits p (restoreMask mask) := by
  refine (Kernel.emits_changeMask h _ _).bind fun result ↦ ?_
  cases result with
  | ok previous => exact emits_pure ()
  | error errno => exact h.emits_log

/-- Work under a blocked signal adds what it adds without. -/
theorem emits_withBlocked {body : SignalSet → Routine α}
    (hbody : ∀ previous, Emits p (body previous)) (signals : SignalSet) :
    Emits p (withBlocked signals body) := by
  refine (Kernel.emits_changeMask h _ _).bind fun result ↦ ?_
  cases result with
  | error errno => exact emits_fail _
  | ok previous =>
    exact (hbody previous).attempt.bind fun result ↦
      (emits_restoreMask h previous).bind fun _ ↦ emits_ofExcept result

/-- A failure that does not matter is only logged. -/
theorem emits_logFailure (component : Component) (text : String) (failure : Option Errno) :
    Emits p (logFailure component text failure) := by
  cases failure with
  | none => exact emits_pure ()
  | some errno => exact h.emits_log

/-! ### The child's part -/

/-- To give up is to say why on the error stream, which is minor, and to end. -/
theorem emits_abandon (message : String) (status : Nat) : Emits p (abandon message status) :=
  (h.emits_record rfl).bind fun _ ↦ Kernel.emits_leave h status

/-- Handlers are reset by minor calls, up to the first that fails. -/
theorem emits_resetHandlers : ∀ signals, Emits p (resetHandlers signals)
  | [] => emits_pure ()
  | signal :: signals => by
    refine (Kernel.emits_minorCall h fun _ ↦ rfl).bind fun failure ↦ ?_
    cases failure with
    | none => exact emits_resetHandlers signals
    | some errno => exact emits_fail _

/-- A child makes minor calls only, whether or not its program is started. -/
theorem emits_child (program : String) (argv : List String) (previous : SignalSet) :
    Emits p (child program argv previous) := by
  refine (Kernel.emits_minorCall h fun _ ↦ rfl).bind fun failure ↦ ?_
  cases failure with
  | some errno => exact emits_abandon h _ _
  | none =>
    refine (emits_restoreMask h previous).bind fun _ ↦
      (emits_resetHandlers h _).attempt.bind fun result ↦ ?_
    cases result with
    | error error => exact emits_abandon h _ _
    | ok value =>
      refine (Kernel.emits_execute h argv).bind fun failure ↦ ?_
      split
      · exact emits_finish 0
      · exact emits_abandon h _ _
      · exact emits_abandon h _ _

/-! ### Starting and leaving -/

theorem emits_installHandlers : ∀ signals, Emits p (installHandlers signals)
  | [] => h.emits_log
  | signal :: signals => by
    refine (Kernel.emits_minorCall h fun _ ↦ rfl).bind fun failure ↦ ?_
    cases failure with
    | none => exact emits_installHandlers signals
    | some errno => exact emits_fail _

/-- To start is to install handlers, by minor calls. -/
theorem emits_start : Emits p Shell.start :=
  (emits_installHandlers h _).bind fun _ ↦ h.emits_log

/-- To leave the shell is to log it and to end. -/
theorem emits_leave (status : Nat) : Emits p (leave status : Routine α) :=
  emits_state fun _ ↦ (h.emits_log.given _).bind fun _ ↦ h.emits_log.bind fun _ ↦
    emits_finish status

/-! ### Continuing a job -/

/-- A misuse is logged and told by an error. -/
theorem emits_refuse (builtin : Builtin) (misuse : Misuse) :
    Emits p (refuse builtin misuse : Routine α) := h.emits_log.bind fun _ ↦ emits_fail _

theorem emits_jobArgument (builtin : Builtin) (args : List String) :
    Emits p (jobArgument builtin args) := by
  unfold jobArgument
  split
  · exact emits_refuse h _ _
  · split
    · exact emits_refuse h _ _
    · exact emits_pure _

/-- What follows may use that the first argument is the specification. -/
theorem emits_jobArgument_bind {builtin : Builtin} {args : List String}
    {next : JobSpec → Routine α} (hnext : ∀ arg rest spec, args = arg :: rest →
      JobSpec.parse? arg = some spec → Emits p (next spec)) :
    Emits p (jobArgument builtin args >>= next) := by
  refine fun m ↦ (emits_jobArgument h builtin args m).bind fun spec m' hdone ↦ ?_
  obtain ⟨-, arg, rest, hargs, hspec⟩ := exists_of_jobArgument hdone
  exact hnext arg rest spec hargs hspec m'

/-- To continue a job has to be permitted for the job that is found, at the state in which it is. -/
theorem emits_resume {spec : JobSpec} {newState : JobState}
    (hresume : PermitsResume p spec newState) (ground : String) :
    Emits p (resume spec newState ground) := by
  intro m
  cases hresolve : m.state.jobs.resolve spec with
  | error error => exact .of_eq (resume_of_error hresolve) Emitted.refl
  | ok job =>
    have hsent : m.playsChildren = false → Emitted p m (m.continuing spec job ground) := by
      intro hplays
      have hlogged : Emitted p m (m.addressing spec job ground) :=
        .recording hplays (h.minor _ rfl)
      have hdecided : Emitted p m ((m.addressing spec job ground).deciding .send) :=
        hlogged.trans (.ofState hlogged.plays rfl rfl rfl rfl rfl)
      exact hdecided.trans (.recording hdecided.plays (hresume.continued _ job _ hresolve))
    cases hfailure : m.failure? .send with
    | some errno => exact .of_eq (resume_of_errno hresolve hfailure) hsent
    | none =>
      have hresumed := resume_of_none newState ground hresolve hfailure
      cases hset : m.state.jobs.setState job.pid newState with
      | none =>
        rw [hset] at hresumed
        exact .of_eq hresumed hsent
      | some restated =>
        simp only [hset, Option.elim_some] at hresumed
        refine .of_eq hresumed fun hplays ↦ ?_
        have hcontinued := hsent hplays
        refine hcontinued.trans (.changingJobs hcontinued.plays ?_)
        exact hresume.restated _ job restated.1 _ hresolve hset

/-- In the background nothing follows. -/
theorem emits_background {spec : JobSpec} (hresume : PermitsResume p spec .background) :
    Emits p (background spec) := by
  refine (emits_resume h hresume _).bind ?_
  rintro ⟨pid, _ | job⟩
  · exact emits_fail _
  · exact emits_pure job

end

/-! ### Launching -/

/-- To register a process is to add a job to the table and, if it is wanted, to say so. -/
theorem emits_register {pid : Pid} {newState : JobState} {commandLine : String}
    (h : PermitsMinor p) (hsaid : ∀ text s, p ⟨.out text, s⟩)
    (hadded : ∀ job s, job.state = newState → job.commandLine = commandLine →
      p ⟨.jobs (.added job), s⟩) : Emits p (register pid newState commandLine) := by
  refine emits_state fun s ↦ emits_ofExcept_bind fun result hadd ↦ ?_
  obtain ⟨-, hjob, -⟩ := JobTable.exists_of_add hadd
  refine (emits_changeJobs fun s _ ↦ hadded _ s ?_ ?_).bind fun _ ↦ h.emits_log.bind fun _ ↦ ?_
  · rw [hjob]
  · rw [hjob]
  · exact emits_state fun s ↦ ((emits_record (hsaid _)).given _).bind fun _ ↦ emits_pure _

section

variable {command : Command} (h : PermitsMinor p) (hsaid : ∀ text s, p ⟨.out text, s⟩)
include h hsaid

/-- A new child becomes the command's job, or is killed if there is no room. -/
theorem emits_adopt (hadopt : PermitsAdoption p command) (pid : Pid) :
    Emits p (adopt pid (initialState command) command.input) := by
  refine (Kernel.emits_minorCall h fun _ ↦ rfl).bind fun failure ↦ ?_
  refine (emits_logFailure h _ _ failure).bind fun _ ↦ ?_
  have hregister : Emits p (register pid (initialState command) command.input) :=
    emits_register h hsaid hadopt.added
  refine hregister.attempt.bind fun result ↦ ?_
  cases result with
  | ok job => exact emits_pure job
  | error error =>
    exact (Kernel.emits_attemptCall fun answer s ↦ hadopt.killed pid answer s).bind fun failure ↦
      (emits_logFailure h _ _ failure).bind fun _ ↦ emits_fail error

/-- A launch forks, and what it does as the parent is to adopt the child. -/
theorem emits_launch (hlaunch : PermitsLaunch p command) : Emits p (launch command) := by
  unfold launch
  split
  · exact emits_fail _
  split
  · exact emits_fail _
  · next program _ =>
    refine emits_withBlocked h (fun previous ↦ ?_) _
    have hchild := emits_child h program command.argv previous
    refine (Kernel.emits_fork h hchild hlaunch.forked).bind fun result ↦ ?_
    cases result with
    | error errno => exact emits_fail _
    | ok pid => exact emits_adopt h hsaid hlaunch.toPermitsAdoption pid

end

section

variable (h : PermitsDrain p)
include h

/-! ### Drains -/

/-- A status changes the table as it says, and of a signal the user is told. -/
theorem emits_apply (status : WaitStatus) : Emits p (apply status) := by
  have hminor := h.toPermitsMinor
  have hlearned : ∀ (s : State) {change : JobChange} {table : JobTable},
      s.jobs.learn? status = some (change, table) → Emits p (changeJobs change table) :=
    fun s _ _ hlearn ↦ emits_changeJobs fun s _ ↦ h.learned _ _ status _ s hlearn
  cases status with
  | exited pid code =>
    refine hminor.emits_log.bind fun _ ↦ emits_state fun s ↦ ?_
    cases hremove : s.jobs.remove pid with
    | none => exact hminor.emits_log
    | some removed => exact hlearned s (by simp [JobTable.learn?, hremove])
  | signaled pid signal =>
    refine hminor.emits_log.bind fun _ ↦ emits_state fun s ↦ ?_
    cases hremove : s.jobs.remove pid with
    | none => exact hminor.emits_log
    | some removed =>
      exact (hlearned s (by simp [JobTable.learn?, hremove])).bind fun _ ↦ emits_record (h.said _)
  | stopped pid signal =>
    refine hminor.emits_log.bind fun _ ↦ emits_state fun s ↦ ?_
    cases hset : s.jobs.setState pid .stopped with
    | none => exact hminor.emits_log
    | some restated =>
      exact (hlearned s (by simp [JobTable.learn?, hset])).bind fun _ ↦ emits_record (h.said _)
  | continued pid => exact hminor.emits_log
  | traced pid => exact hminor.emits_log

/-- A pass learns each status that it reads. -/
theorem emits_reapAll : ∀ queue, Emits p (reapAll queue)
  | [] => Kernel.emits_waitEmpty h.toPermitsMinor
  | entry :: rest => by
    refine (Kernel.emits_takeEntry h.toPermitsMinor entry rest).bind fun _ ↦ ?_
    split
    · exact emits_pure ()
    · exact emits_fail _
    · exact emits_pure ()
    · exact (h.toPermitsMinor.emits_record rfl).bind fun _ ↦ (emits_apply h _).bind fun _ ↦
        emits_reapAll rest

theorem emits_reap : Emits p reap := emits_state fun s ↦ emits_reapAll h s.kernel.waitQueue

/-- A key is passed on by a signal to the foreground job, if there is one. -/
theorem emits_relay {signal : Signal} (hsignal : signal = .int ∨ signal = .tstp) :
    Emits p (relay signal) := by
  have hminor := h.toPermitsMinor
  refine emits_state fun s ↦ ?_
  split
  · next pid _ =>
    have hcall : Emits p (Kernel.sendToGroup pid signal) :=
      Kernel.emits_attemptCall fun answer s ↦ h.relayed pid signal answer s hsignal
    exact hminor.emits_log.bind fun _ ↦ hcall.bind fun failure ↦
      emits_logFailure hminor _ _ failure
  · exact hminor.emits_log

theorem emits_onEvent {routine : Routine Unit} (hroutine : Emits p routine) (was : Bool)
    (name : String) : Emits p (onEvent was name routine) :=
  Emits.given (h.toPermitsMinor.emits_log.bind fun _ ↦ hroutine) was

/-- A drain reaps and passes on the two keys, as far as it was noted that there is reason to. -/
theorem emits_drain : Emits p drain := by
  have htake : Emits p takeNoted :=
    emits_state fun s ↦ (emits_modifyState (f := fun s ↦ { s with noted := {} }) (fun _ ↦ rfl)
      fun _ ↦ rfl).bind fun _ ↦ emits_pure s.noted
  refine htake.bind fun noted ↦ (emits_onEvent h (emits_reap h) _ _).bind fun _ ↦ ?_
  refine (emits_onEvent h (emits_relay h (Or.inl rfl)) _ _).bind fun _ ↦ ?_
  exact (emits_onEvent h (emits_relay h (Or.inr rfl)) _ _).bind fun _ ↦
    h.toPermitsMinor.emits_record rfl

end

section

variable (h : PermitsWait p)
include h

/-! ### Waiting -/

/-- A wait drains and sleeps, as often as its bound allows. -/
theorem emits_awaitForeground (pid : Pid) (previous : SignalSet) :
    ∀ n, Emits p (awaitForeground pid previous n)
  | 0 => emits_stall
  | n + 1 => by
    refine (emits_drain h.toPermitsDrain).bind fun _ ↦ emits_state fun s ↦ ?_
    split
    · refine (h.toPermitsMinor.emits_record rfl).bind fun _ ↦ ?_
      have hsuspend := Kernel.emits_suspend h.toPermitsMinor (h.suspended (sleepMask previous))
      exact hsuspend.bind fun _ ↦ emits_awaitForeground pid previous n
    · exact emits_pure ()

theorem emits_waitFor (pid : Pid) : Emits p (waitFor pid) := by
  refine emits_withBlocked h.toPermitsMinor (fun previous ↦ emits_machine fun m _ ↦ ?_) _
  exact (emits_awaitForeground h pid previous _).bind fun _ ↦ h.toPermitsMinor.emits_log

/-- In the foreground a wait follows. -/
theorem emits_foreground {spec : JobSpec} (hresume : PermitsResume p spec .foreground) :
    Emits p (foreground spec) :=
  (emits_resume h.toPermitsMinor hresume _).bind fun result ↦ emits_waitFor h result.1

/-! ### Commands -/

variable {command : Command} (hcommand : PermitsCommand p command)
include hcommand

/-- A builtin command continues only the job that the command names. -/
theorem emits_perform {builtin : Builtin} (hprogram : command.program? = some builtin.name) :
    Emits p (perform command.args builtin) := by
  have hresumes : ∀ {spec arg rest newState}, command.args = arg :: rest →
      JobSpec.parse? arg = some spec →
      (builtin.name = "fg" ∧ newState = .foreground ∨ builtin.name = "bg" ∧
        newState = .background) → PermitsResume p spec newState := by
    intro spec arg rest newState hargs hspec hname
    have hargv : command.argv = builtin.name :: arg :: rest := by
      rw [← hargs]
      exact (List.cons_head?_tail hprogram).symm
    refine hcommand.resumes spec newState ⟨arg, rest, hspec, ?_⟩
    rw [hargv]
    exact hname.imp (fun ⟨hfg, hstate⟩ ↦ ⟨by rw [hfg], hstate⟩)
      fun ⟨hbg, hstate⟩ ↦ ⟨by rw [hbg], hstate⟩
  have hminor := h.toPermitsMinor
  cases builtin with
  | bg =>
    refine emits_jobArgument_bind hminor fun arg rest spec hargs hspec ↦ ?_
    have hresume := hresumes hargs hspec (Or.inr ⟨rfl, rfl⟩)
    exact (emits_background hminor hresume).bind fun job ↦ emits_record (h.said _)
  | fg =>
    refine emits_jobArgument_bind hminor fun arg rest spec hargs hspec ↦ ?_
    exact emits_foreground h (hresumes hargs hspec (Or.inl ⟨rfl, rfl⟩))
  | jobs => exact emits_state fun s ↦ emits_forM (fun job ↦ emits_record (h.said _)) _
  | quit => exact emits_leave hminor 0

theorem emits_runBuiltin {builtin : Builtin} (hprogram : command.program? = some builtin.name) :
    Emits p (runBuiltin builtin command.args) := by
  refine (emits_perform h hcommand hprogram).attempt.bind fun result ↦ ?_
  cases result with
  | ok value => exact emits_pure ()
  | error error => exact h.toPermitsMinor.emits_log.bind fun _ ↦ emits_fail error

/-- A program is launched, and announced or waited for. -/
theorem emits_runProgram (hprogram : command.NamesProgram) : Emits p (runProgram command) := by
  have hlaunch := emits_launch h.toPermitsMinor h.said (hcommand.launches hprogram)
  refine hlaunch.bind fun job ↦ ?_
  split
  · refine emits_state fun s ↦ ?_
    split
    · exact emits_record (h.said _)
    · exact emits_pure ()
  · exact emits_waitFor h job.pid

omit hcommand in
theorem emits_echo (command : Command) : Emits p (echo command) :=
  ((emits_record (h.said _)).given _).bind fun _ ↦ emits_record (h.said _)

/-- A command does what its first word asks for. -/
theorem emits_run : Emits p (run command) := by
  unfold run
  split
  · exact emits_pure ()
  · next program hsome =>
    refine h.toPermitsMinor.emits_log.bind fun _ ↦ emits_state fun s ↦
      ((emits_echo h command).given _).bind fun _ ↦ ?_
    split
    · next builtin hbuiltin =>
      rw [← Builtin.name_of_ofName? hbuiltin] at hsome
      exact emits_runBuiltin h hcommand hsome
    · next hnone =>
      exact emits_runProgram h hcommand ⟨program, hsome, Builtin.ofName?_eq_none_iff.1 hnone⟩

end

section

variable (h : PermitsWait p)
include h

/-! ### Lines -/

/-- A line drains and then does what its command asks for, if it can be parsed. -/
theorem emits_execute {line : String}
    (hcommand : ∀ command, Command.parse line = .ok command → PermitsCommand p command) :
    Emits p (execute line) :=
  (emits_drain h.toPermitsDrain).bind fun _ ↦
    emits_ofExcept_bind fun command hparse ↦ emits_run h (hcommand command hparse)

/-- A report adds only minor things. -/
theorem emits_reporting {routine : Routine Unit} (hroutine : Emits p routine) :
    Emits p (reporting routine) := by
  refine hroutine.attempt.bind fun result ↦ ?_
  cases result with
  | ok value => exact emits_pure ()
  | error error =>
    dsimp only
    split
    · exact h.toPermitsMinor.emits_log.bind fun _ ↦ h.toPermitsMinor.emits_record rfl
    · exact emits_fail error

/-- Bytes that are no text ask for nothing. -/
theorem emits_executeBytes {piece : List UInt8}
    (hcommand : ∀ command, commandOf? piece = some command → PermitsCommand p command) :
    Emits p (executeBytes piece) := by
  unfold executeBytes
  split
  · next text hdecode =>
    refine emits_execute h fun command hparse ↦ hcommand command ?_
    rw [commandOf?, hdecode, Option.bind_some, hparse]
    rfl
  · exact emits_fail _

/-- What comes before a line is a drain and perhaps a prompt. -/
theorem emits_beforeLine : Emits p beforeLine :=
  (emits_drain h.toPermitsDrain).bind fun _ ↦ emits_state fun _ ↦
    (emits_record (h.said _)).given _

/-- An input does what its lines ask for. -/
theorem emits_executeLines : ∀ {pieces : List (List UInt8)},
    (∀ command ∈ pieces.filterMap commandOf?, PermitsCommand p command) →
      Emits p (executeLines pieces)
  | [], _ => (emits_beforeLine h).bind fun _ ↦ h.toPermitsMinor.emits_log
  | piece :: pieces, hcommands => by
    have hline : Emits p (executeBytes piece) := emits_executeBytes h fun command hcommand ↦
      hcommands command (List.mem_filterMap.2 ⟨piece, List.mem_cons_self, hcommand⟩)
    refine (emits_beforeLine h).bind fun _ ↦ (emits_reporting h hline).bind fun _ ↦ ?_
    refine emits_executeLines fun command hmem ↦ hcommands command ?_
    obtain ⟨piece', hpiece, hcommand⟩ := List.mem_filterMap.1 hmem
    exact List.mem_filterMap.2 ⟨piece', List.mem_cons_of_mem _ hpiece, hcommand⟩

end

end Shell

/-! ### Instructions -/

/-- An instruction that names no job does nothing. -/
theorem Instruction.emits_withSpec {text : String} {routine : JobSpec → Routine Reply}
    (h : ∀ spec, JobSpec.parse? text = some spec → Emits p (routine spec)) :
    Emits p (withSpec text routine) := by
  unfold withSpec
  split
  · exact emits_pure _
  · next spec hspec => exact h spec hspec

/-- **An instruction adds what it is permitted to by what it asks for.** -/
theorem Instruction.emits_perform {instruction : Instruction} (h : PermitsWait p)
    (hinstruction : PermitsInstruction p instruction) : Emits p instruction.perform := by
  cases instruction with
  | line text =>
    have hline : Emits p (Shell.execute text) := Shell.emits_execute h fun command hparse ↦ by
      refine hinstruction.commands command ?_
      rw [commands, hparse]
      exact List.mem_singleton.2 rfl
    exact (Shell.emits_reporting h hline).bind fun _ ↦ emits_pure _
  | input bytes =>
    exact (Shell.emits_executeLines h hinstruction.commands).bind fun _ ↦ emits_pure _
  | foreground text =>
    refine emits_withSpec fun spec hspec ↦ ?_
    have hresume := hinstruction.resumes spec .foreground (.foreground hspec)
    exact (Shell.emits_foreground h hresume).bind fun _ ↦ emits_pure _
  | background text =>
    refine emits_withSpec fun spec hspec ↦ ?_
    have hresume := hinstruction.resumes spec .background (.background hspec)
    exact (Shell.emits_background h.toPermitsMinor hresume).bind fun _ ↦ emits_pure _
  | occur what => exact (Kernel.emits_happen h.toPermitsMinor what).bind fun _ ↦ emits_pure _
  | inspect => exact emits_state fun s ↦ emits_pure _
  | leave code => exact Shell.emits_leave h.toPermitsMinor _

end JobShell
