import JobShell.Proofs.Rules.Drain
import JobShell.Shell.Launch

/-!
# Rules for launching

A launch passes through three stages with the signal for children blocked: before the fork, between
the fork and the job table, and after it. The child that a fork turns into never comes back, so all
that is asked of it is how it may end.
-/

namespace JobShell.Shell

open Routine

variable {pre : Machine → Prop}

/-! ### The child -/

/-- A child that gives up says why and ends. -/
theorem triple_abandon (h : Steady pre) {message : String} {status : Nat} :
    Triple pre (abandon message status) { done := fun _ _ ↦ False, exited := pre } := by
  refine (triple_printError h).andThen _ fun _ ↦ ?_
  exact (triple_quiet h rfl).andThen _ fun _ ↦ triple_finish fun _ hm ↦ hm

/-- Handlers are reset one after the other, up to the first that fails. -/
theorem triple_resetHandlers (h : Steady pre) :
    ∀ signals, Triple pre (resetHandlers signals) { done := fun _ ↦ pre, failed := fun _ ↦ pre }
  | [] => triple_pure fun _ hm ↦ hm
  | signal :: signals => by
    have hreset : Triple pre (Kernel.resetHandler signal) { done := fun _ ↦ pre } :=
      Kernel.triple_quietCall h fun _ ↦ rfl
    refine hreset.andThen _ fun failure ↦ ?_
    cases failure with
    | none => exact triple_resetHandlers h signals
    | some errno => exact triple_fail fun _ hm ↦ hm

/-- A child restores the mask and ends, whatever fails. `restored` holds once it did so. -/
theorem triple_child {restored : Machine → Prop} {program : String} {argv : List String}
    {previous : SignalSet} (h : Steady pre) (h' : Steady restored)
    (hquit : ∀ m, pre m → m.state.kernel.pending.contains .quit = false)
    (hfail : ∀ m errno, pre m →
      restored (m.recording (.call ⟨.changeMask .replace previous, .errno errno⟩)))
    (hdone : ∀ m, pre m → restored (m.remasking .replace previous)) :
    Triple pre (child program argv previous)
      { done := fun _ _ ↦ False, exited := fun m ↦ pre m ∨ restored m } := by
  have hgroup : Triple pre (Kernel.setProcessGroup 0 0) { done := fun _ ↦ pre } :=
    Kernel.triple_quietCall h fun _ ↦ rfl
  have habandon : ∀ message status, Triple restored (abandon message status)
      { done := fun _ _ ↦ False, exited := fun m ↦ pre m ∨ restored m } :=
    fun message status ↦ (triple_abandon h').imp (fun _ _ hm ↦ hm) fun m hm ↦ Or.inr hm
  refine hgroup.andThen _ fun failure ↦ ?_
  cases failure with
  | some errno => exact (triple_abandon h).imp (fun _ _ hm ↦ hm) fun m hm ↦ Or.inl hm
  | none =>
    have hreset : Triple restored (attempt (resetHandlers Handled.installation))
        { done := fun _ ↦ restored } := Triple.attempt (triple_resetHandlers h' _)
    refine (triple_restoreMask h h' hquit hfail hdone).andThen _ fun _ ↦ ?_
    refine hreset.andThen _ fun result ↦ ?_
    cases result with
    | error error => exact habandon _ _
    | ok value =>
      have hexecute : Triple restored (Kernel.execute argv) { done := fun _ ↦ restored } :=
        triple_machine fun m ↦ ((triple_quiet h' rfl).of_imp fun m' hm ↦ hm.1).andThen _
          fun _ ↦ triple_pure fun _ hm ↦ hm
      refine hexecute.andThen _ fun failure ↦ ?_
      split
      · exact triple_finish fun _ hm ↦ Or.inr hm
      · exact habandon _ _
      · exact habandon _ _

/-! ### The parent -/

/-- A new child is entered into the table, or killed. `forked` holds before, `worked` after. -/
theorem triple_adopt {forked : Machine → Prop} {worked : Except Error Job → Machine → Prop}
    {pid : Pid} {newState : JobState} {commandLine : String} (h : Steady forked)
    (hworked : ∀ result, Steady (worked result))
    (hadd : ∀ m job table, forked m → m.state.jobs.add pid newState commandLine = .ok (job, table) →
      worked (.ok job) (m.changingJobs (.added job) table))
    (hrefuse : ∀ m error failure, forked m →
      m.state.jobs.add pid newState commandLine = .error error →
        worked (.error error) (m.recording (.call ⟨.send (-pid) .kill, .ofFailure failure⟩))) :
    Triple forked (adopt pid newState commandLine)
      { done := fun job ↦ worked (.ok job), failed := fun error ↦ worked (.error error) } := by
  have hgroup : Triple forked (Kernel.setProcessGroup pid pid) { done := fun _ ↦ forked } :=
    Kernel.triple_quietCall h fun _ ↦ rfl
  have hregister : Triple forked (register pid newState commandLine)
      { done := fun job ↦ worked (.ok job)
        failed := fun error m ↦ forked m ∧
          m.state.jobs.add pid newState commandLine = .error error } := by
    refine triple_state fun s ↦ Triple.bind (fun result m ↦ forked m ∧
      m.state.jobs.add pid newState commandLine = .ok result) ?_ fun result ↦ ?_
    · refine triple_ofExcept ?_ ?_
      · rintro result m hok ⟨hm, rfl⟩
        exact ⟨hm, hok⟩
      · rintro error m herror ⟨hm, rfl⟩
        exact ⟨hm, herror⟩
    · obtain ⟨job, table⟩ := result
      have hsteady := hworked (.ok job)
      have hchange : Triple (fun m ↦ forked m ∧
          m.state.jobs.add pid newState commandLine = .ok (job, table))
          (changeJobs (.added job) table) { done := fun _ ↦ worked (.ok job) } :=
        triple_changeJobs fun m hm ↦ hadd m job table hm.1 hm.2
      refine hchange.andThen _ fun _ ↦ (triple_log hsteady).andThen _ fun _ ↦
        triple_state fun s ↦ Triple.andThen (fun _ ↦ worked (.ok job)) ?_
          fun _ ↦ triple_pure fun _ hm ↦ hm
      refine triple_given (fun _ ↦ (triple_printLine hsteady).of_imp fun m hm ↦ hm.1) ?_
      exact fun _ _ hm ↦ hm.1
  refine hgroup.andThen _ fun failure ↦ (triple_logFailure h failure).andThen _ fun _ ↦ ?_
  -- A refusal changes nothing, so the process is still there to be killed.
  refine Triple.andThen (onResult (fun job ↦ worked (.ok job)) fun error m ↦
    forked m ∧ m.state.jobs.add pid newState commandLine = .error error)
    (Triple.attempt hregister) fun result ↦ ?_
  cases result with
  | ok job => exact triple_pure fun _ hm ↦ hm
  | error error =>
    have hkill : Triple (fun m ↦ forked m ∧
        m.state.jobs.add pid newState commandLine = .error error)
        (Kernel.sendToGroup pid .kill) { done := fun _ ↦ worked (.error error) } := by
      refine Kernel.triple_attemptCall (h.and (steady_state fun s ↦
        s.jobs.add pid newState commandLine = .error error)) ?_
      rintro m failure ⟨hm, herror⟩
      exact hrefuse m error failure hm herror
    refine hkill.andThen _ fun failure ↦ ?_
    exact (triple_logFailure (hworked _) failure).andThen _ fun _ ↦ triple_fail fun _ hm ↦ hm

/-- A launch of a command that names a program. `launching` holds once the signal for children is
blocked, `forked` once there is a child, `worked` once the launch has a result. -/
theorem triple_launch (launching : SignalSet → Machine → Prop)
    (forked : SignalSet → Pid → Machine → Prop)
    (worked : SignalSet → Except Error Job → Machine → Prop) {post : Post Job} {command : Command}
    (hprogram : command.program? ≠ none) (h : Steady pre)
    (hlaunching : ∀ previous, Steady (launching previous))
    (hforked : ∀ previous pid, Undisturbed (forked previous pid))
    (hworked : ∀ previous result, Steady (worked previous result))
    (hplays : ∀ previous pid m, forked previous pid m → m.playsChildren = false)
    (hrefuse : ∀ m, pre m → post.failed (.of (.malformedLine command.input)) m)
    (hquit : ∀ m, pre m → m.state.kernel.pending.contains .quit = false)
    (hfail : ∀ m errno, pre m → post.failed (.ofCall .maskingSignals errno)
      (m.recording (.call ⟨.changeMask .block .children, .errno errno⟩)))
    (hblock : ∀ m, pre m → launching m.state.kernel.mask (m.remasking .block .children))
    (hunforked : ∀ previous m errno, launching previous m →
      worked previous (.error (.ofCall .forking errno)) (m.recording (.call ⟨.fork, .errno errno⟩)))
    (hfork : ∀ previous m, launching previous m →
      forked previous m.state.kernel.nextPid m.spawning)
    (hexited : ∀ previous pid m, forked previous pid m → post.exited m.quitting)
    (hchild : ∀ previous program, Triple (forked previous 0) (child program command.argv previous)
      { done := fun _ _ ↦ True, exited := post.exited })
    (hadd : ∀ previous pid m job table, forked previous pid m → pid ≠ 0 →
      m.state.jobs.add pid (initialState command) command.input = .ok (job, table) →
        worked previous (.ok job) (m.changingJobs (.added job) table))
    (hfull : ∀ previous pid m error failure, forked previous pid m → pid ≠ 0 →
      m.state.jobs.add pid (initialState command) command.input = .error error →
        worked previous (.error error)
          (m.recording (.call ⟨.send (-pid) .kill, .ofFailure failure⟩)))
    (hrestore : ∀ previous result, Triple (worked previous result) (restoreMask previous)
      { done := fun _ m ↦ post.Holds (.ofResult result) m }) :
    Triple pre (launch command) post := by
  unfold launch
  split
  · exact triple_fail hrefuse
  split
  · next hnone => exact absurd hnone hprogram
  · next program hsome =>
    refine triple_withBlocked h hquit hfail hblock (fun previous ↦ ?_) hrestore
    refine Triple.bind (onResult (fun pid m ↦ forked previous pid m ∧ pid ≠ 0) fun errno ↦
      worked previous (.error (.ofCall .forking errno))) (Triple.of_exited ?_) fun result ↦ ?_
    · exact Kernel.triple_fork (hlaunching previous) (hforked previous) (hplays previous)
        (hunforked previous) (hfork previous) (hexited previous)
        (fun pid m hne hm ↦ ⟨hm, hne⟩) (hchild previous program)
    · cases result with
      | error errno => exact triple_fail fun _ hm ↦ hm
      | ok pid =>
        have hparent := triple_adopt
          ((hforked previous pid).and (steady_state fun _ ↦ pid ≠ 0)) (hworked previous)
          (fun m job table hm ↦ hadd previous pid m job table hm.1 hm.2)
          (fun m error failure hm ↦ hfull previous pid m error failure hm.1 hm.2)
        exact hparent.of_failed

end JobShell.Shell
