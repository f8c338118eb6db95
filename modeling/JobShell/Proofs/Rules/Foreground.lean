import JobShell.Proofs.Rules.Drain
import JobShell.Shell.Foreground

/-!
# Rules for waiting and continuing

A wait is a loop with one invariant, `waiting`, which holds before each of its drains. What a drain
achieves, `drained`, is what the shell knows when it goes to sleep and when it leaves the loop. Both
may depend on how many more drains the loop allows.
-/

namespace JobShell

namespace Machine

variable (m : Machine) (spec : JobSpec) (job : Job) (ground : String)

/-- The machine before a job is sent the continuation signal. -/
def addressing : Machine :=
  m.recording (.log ⟨.debug, .jobControl, s!"putting job {spec.text} ({job.pid}) in {ground}"⟩)

/-- The machine after a job was sent the continuation signal, with success or not. -/
def continuing : Machine :=
  (m.addressing spec job ground).attempting .send (.send (-job.pid) .cont)

end Machine

namespace Shell

open Routine

variable {pre : Machine → Prop}

/-! ### Waiting -/

/-- Draining and sleeping by turns, with at most `n` drains to come. -/
theorem triple_awaitForeground_by_count (waiting drained : Nat → Machine → Prop)
    {post : Post Unit} {pid : Pid} {previous : SignalSet}
    (hdrain : ∀ n, Triple (waiting (n + 1)) drain (post.upTo fun _ ↦ drained n))
    (hsleep : ∀ n, Triple (fun m ↦ drained n m ∧ m.state.jobs.foregroundPid? = some pid)
      (do record (.sleepsFor pid); Kernel.suspend (sleepMask previous))
      (post.upTo fun _ ↦ waiting n))
    (hleave : ∀ n m, drained n m → m.state.jobs.foregroundPid? ≠ some pid → post.done () m)
    (hstalled : ∀ m, waiting 0 m → post.stalled m) :
    ∀ n, Triple (waiting n) (awaitForeground pid previous n) post
  | 0 => triple_stall hstalled
  | n + 1 => by
    refine Triple.bind (fun _ ↦ drained n) (hdrain n) fun _ ↦ triple_state fun s ↦ ?_
    split
    · next hpid =>
      -- The loop's two acts are taken together, as going to sleep is one move.
      have hnext : Triple (fun m ↦ drained n m ∧ m.state = s)
          ((do record (.sleepsFor pid); Kernel.suspend (sleepMask previous)) >>= fun _ ↦
            awaitForeground pid previous n) post := by
        refine Triple.bind (fun _ ↦ waiting n) ((hsleep n).of_imp ?_) fun _ ↦
          triple_awaitForeground_by_count waiting drained hdrain hsleep hleave hstalled n
        rintro m ⟨hm, rfl⟩
        exact ⟨hm, hpid⟩
      rw [bind_assoc] at hnext
      exact hnext
    · next hpid =>
      refine triple_pure ?_
      rintro m ⟨hm, rfl⟩
      exact hleave n m hm hpid

/-- Draining and sleeping by turns, with the same before each drain. -/
theorem triple_awaitForeground (drained : Machine → Prop) {waiting : Machine → Prop}
    {post : Post Unit} {pid : Pid} {previous : SignalSet}
    (hdrain : Triple waiting drain (post.upTo fun _ ↦ drained))
    (hsleep : Triple (fun m ↦ drained m ∧ m.state.jobs.foregroundPid? = some pid)
      (do record (.sleepsFor pid); Kernel.suspend (sleepMask previous))
      (post.upTo fun _ ↦ waiting))
    (hleave : ∀ m, drained m → m.state.jobs.foregroundPid? ≠ some pid → post.done () m)
    (hstalled : ∀ m, waiting m → post.stalled m) (n : Nat) :
    Triple waiting (awaitForeground pid previous n) post :=
  triple_awaitForeground_by_count (fun _ ↦ waiting) (fun _ ↦ drained) (fun _ ↦ hdrain)
    (fun _ ↦ hsleep) (fun _ ↦ hleave) hstalled n

/-- Going to sleep. -/
theorem triple_sleep {drained asleep waiting : Machine → Prop} {pid : Pid} {mask : SignalSet}
    (h : Undisturbed asleep)
    (hcall : ∀ m, drained m →
      asleep ((m.recording (.sleepsFor pid)).recording (.call ⟨.suspend mask, .errno .eintr⟩)))
    (hended : ∀ m pids, pids = m.state.kernel.forked ∨ pids = m.state.kernel.alive →
      asleep m → asleep (m.endingAll pids))
    (hquit : ∀ m, asleep m → m.state.kernel.pending.contains .quit = false)
    (hwake : ∀ m, asleep m → waiting (m.delivering mask)) :
    Triple drained (do record (.sleepsFor pid); Kernel.suspend mask)
      { done := fun _ ↦ waiting, exited := asleep } := by
  have hrecord : Triple drained (record (.sleepsFor pid))
      { done := fun _ m' ↦ ∃ m, m' = m.recording (.sleepsFor pid) ∧ drained m } :=
    fun m hm ↦ ⟨m, rfl, hm⟩
  refine hrecord.andThen _ fun _ ↦ Kernel.triple_suspend h ?_ hended hquit hwake
  rintro - ⟨m, rfl, hm⟩
  exact hcall m hm

/-- A wait: the loop with the noted signals blocked. `worked` holds once the loop has a result. -/
theorem triple_waitFor (waiting : SignalSet → Machine → Prop)
    (worked : SignalSet → Except Error Unit → Machine → Prop) {post : Post Unit} {pid : Pid}
    (h : Steady pre) (hworked : ∀ previous, Steady (worked previous (.ok ())))
    (hquit : ∀ m, pre m → m.state.kernel.pending.contains .quit = false)
    (hfail : ∀ m errno, pre m → post.failed (.ofCall .maskingSignals errno)
      (m.recording (.call ⟨.changeMask .block .noted, .errno errno⟩)))
    (hblock : ∀ m, pre m → waiting m.state.kernel.mask (m.remasking .block .noted))
    (hawait : ∀ previous n, Triple (fun m ↦ waiting previous m ∧ waitBound m = n)
      (awaitForeground pid previous n)
      ⟨fun _ ↦ worked previous (.ok ()), fun error ↦ worked previous (.error error), post.exited,
        post.stalled⟩)
    (hrestore : ∀ previous result, Triple (worked previous result) (restoreMask previous)
      { done := fun _ m ↦ post.Holds (.ofResult result) m }) :
    Triple pre (waitFor pid) post := by
  refine triple_withBlocked h hquit hfail hblock (fun previous ↦ ?_) hrestore
  refine triple_machine fun m ↦ Triple.bind (fun _ ↦ worked previous (.ok ())) ?_ fun _ ↦ ?_
  · refine (hawait previous (waitBound m)).of_imp ?_
    rintro m' ⟨hm, rfl⟩
    exact ⟨hm, rfl⟩
  · exact (triple_log (hworked previous)).of_done fun _ _ hm ↦ hm

/-! ### Continuing -/

/-! What becomes of a job that is continued, as equations. -/

section

variable {m : Machine} {spec : JobSpec} {pid : Pid} {job : Job} {newState : JobState}
  {ground : String} {error : Error} {errno : Errno}

theorem continueJob_of_some (h : m.failure? .send = some errno) : continueJob spec pid m =
    (.failed ⟨.misuse (.cannotContinue spec) 1, [.call errno]⟩,
      m.attempting .send (.send (-pid) .cont)) := by
  refine (bind_of_done (Kernel.attemptCall_apply ..)).trans ?_
  rw [h]
  rfl

theorem continueJob_of_none (h : m.failure? .send = none) : continueJob spec pid m =
    (.done (), m.attempting .send (.send (-pid) .cont)) := by
  refine (bind_of_done (Kernel.attemptCall_apply ..)).trans ?_
  rw [h]
  rfl

/-- A specification that names no job does nothing at all. -/
theorem resume_of_error (h : m.state.jobs.resolve spec = .error error) :
    resume spec newState ground m = (.failed error, m) := by
  show (ofExcept (m.state.jobs.resolve spec) >>= _ : Routine (Pid × Option Job)) m = _
  rw [h]
  rfl

/-- A job that cannot be sent the signal keeps its state. -/
theorem resume_of_errno (h : m.state.jobs.resolve spec = .ok job)
    (hsend : m.failure? .send = some errno) : resume spec newState ground m =
      (.failed ⟨.misuse (.cannotContinue spec) 1, [.call errno]⟩,
        m.continuing spec job ground) := by
  have hcontinue : continueJob spec job.pid (m.addressing spec job ground) = _ :=
    continueJob_of_some hsend
  show (ofExcept (m.state.jobs.resolve spec) >>= _ : Routine (Pid × Option Job)) m = _
  rw [h]
  exact (bind_of_done rfl).trans ((bind_of_done rfl).trans (bind_of_failed hcontinue))

/-- A job that was sent the signal changes its state, if it is in the table by its process. -/
theorem resume_of_none (newState : JobState) (ground : String)
    (h : m.state.jobs.resolve spec = .ok job) (hsend : m.failure? .send = none) :
    let restated? := m.state.jobs.setState job.pid newState
    resume spec newState ground m = (.done (job.pid, restated?.map Prod.fst),
      restated?.elim (m.continuing spec job ground) fun restated ↦
        (m.continuing spec job ground).changingJobs (.restated restated.1) restated.2) := by
  have hcontinue : continueJob spec job.pid (m.addressing spec job ground) =
      (.done (), m.continuing spec job ground) := continueJob_of_none hsend
  have hstate : (m.continuing spec job ground).state.jobs = m.state.jobs := rfl
  show (ofExcept (m.state.jobs.resolve spec) >>= _ : Routine (Pid × Option Job)) m = _
  rw [h]
  refine (bind_of_done rfl).trans ((bind_of_done rfl).trans ?_)
  refine (bind_of_done hcontinue).trans ((bind_of_done rfl).trans ?_)
  rw [hstate]
  cases m.state.jobs.setState job.pid newState with
  | none => rfl
  | some restated => rfl

end

/-- Continuing the job that `spec` names: `continued` holds between the signal and the change of the
job's state. -/
theorem triple_resume (continued : Job → Machine → Prop) {post : Post (Pid × Option Job)}
    {spec : JobSpec} {newState : JobState} {ground : String} (h : Steady pre)
    (hresolve : ∀ m error, pre m → m.state.jobs.resolve spec = .error error → post.failed error m)
    (hfail : ∀ m job errno, pre m → m.state.jobs.resolve spec = .ok job →
      post.failed ⟨.misuse (.cannotContinue spec) 1, [.call errno]⟩
        (m.recording (.call ⟨.send (-job.pid) .cont, .errno errno⟩)))
    (hsend : ∀ m job, pre m → m.state.jobs.resolve spec = .ok job →
      continued job (m.recording (.call ⟨.send (-job.pid) .cont, .number 0⟩)))
    (hset : ∀ m job changed table, continued job m →
      m.state.jobs.setState job.pid newState = some (changed, table) →
        post.done (job.pid, some changed) (m.changingJobs (.restated changed) table))
    (hgone : ∀ m job, continued job m → m.state.jobs.setState job.pid newState = none →
      post.done (job.pid, none) m) :
    Triple pre (resume spec newState ground) post := by
  refine triple_state fun s ↦ Triple.bind
    (fun job m ↦ (pre m ∧ m.state = s) ∧ s.jobs.resolve spec = .ok job) ?_ fun job ↦ ?_
  · refine triple_ofExcept ?_ ?_
    · intro job m hok hm
      exact ⟨hm, hok⟩
    · rintro error m herror ⟨hm, rfl⟩
      exact hresolve m error hm herror
  have hsteady : Steady fun m ↦ (pre m ∧ m.state = s) ∧ s.jobs.resolve spec = .ok job :=
    (h.and (steady_state fun s' ↦ s' = s)).and (steady_state fun _ ↦ s.jobs.resolve spec = .ok job)
  have hsent : Triple (fun m ↦ (pre m ∧ m.state = s) ∧ s.jobs.resolve spec = .ok job)
      (Kernel.sendToGroup job.pid .cont)
      { done := fun failure ↦ failure.elim (continued job) fun errno ↦
          post.failed ⟨.misuse (.cannotContinue spec) 1, [.call errno]⟩ } := by
    refine Kernel.triple_attemptCall hsteady ?_
    rintro m failure ⟨⟨hm, rfl⟩, hok⟩
    cases failure with
    | none => exact hsend m job hm hok
    | some errno => exact hfail m job errno hm hok
  have hcontinue : Triple (fun m ↦ (pre m ∧ m.state = s) ∧ s.jobs.resolve spec = .ok job)
      (continueJob spec job.pid) (post.upTo fun _ ↦ continued job) := by
    refine hsent.andThen _ fun failure ↦ ?_
    cases failure with
    | none => exact triple_pure fun _ hm ↦ hm
    | some errno => exact triple_fail fun _ hm ↦ hm
  refine (triple_log hsteady).andThen _ fun _ ↦ Triple.bind _ hcontinue fun _ ↦ ?_
  refine triple_state fun s' ↦ ?_
  split
  · next changed table hsome =>
    refine Triple.andThen (fun _ ↦ post.done (job.pid, some changed)) (triple_changeJobs ?_)
      fun _ ↦ triple_pure fun _ hm ↦ hm
    rintro m ⟨hm, rfl⟩
    exact hset m job changed table hm hsome
  · next hnone =>
    refine triple_pure ?_
    rintro m ⟨hm, rfl⟩
    exact hgone m job hm hnone

end Shell

end JobShell
