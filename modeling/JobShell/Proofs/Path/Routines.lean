import JobShell.Proofs.Waiting

/-!
# The routines follow paths

Each routine that drains, waits, continues or launches starts in one phase and, however it ends,
leaves the machine on a path, in the phase that belongs to its end. Here the rules for the single
routines are applied once and for all, with being on a path in the place of every condition.
-/

namespace JobShell

/-- The machine is somewhere on a path. -/
def OnPath (again : Phase → Prop) (start : Machine → Prop) (m : Machine) : Prop :=
  ∃ p, Path again start p m

/-- Where work leads: it is settled, or it failed with an error and came to that. Work never stalls,
as its only loop is that of a wait. -/
def Post.working {α : Type} (again : Phase → Prop) (start : Machine → Prop) : Post α where
  done _ := Path again start (.reached .settled)
  failed error := Path again start (.reached (.failed error))
  exited := OnPath again start

/-- What work comes to that has a result. -/
def Upshot.ofResult {α : Type} (done : α → Upshot) : Except Error α → Upshot
  | .ok value => done value
  | .error error => failed error

/-- What continuing a job in the background comes to: it fails if the job is gone. -/
def Upshot.ofBackground : Pid × Option Job → Upshot
  | (_, some _) => settled
  | (pid, none) => failed (.of (.noSuchProcess s!"{pid}"))

namespace Path

variable {again : Phase → Prop} {start : Machine → Prop} {p : Phase}

/-- A phase need not be named. -/
theorem onPath {m : Machine} (h : Path again start p m) : OnPath again start m := ⟨p, h⟩

/-- The script is no part of a path. -/
theorem withScript {m : Machine} (h : Path again start p m) (script : Script) :
    Path again start p { m with script } := h.move (.same rfl rfl rfl)

/-- What is quiet happens in every phase. -/
theorem steady : Steady (Path again start p) where
  script _ script _ hm := hm.withScript script
  quiet _ _ hevent hm := hm.move (.record (.quiet hevent))

/-- What happens of itself stays within an open phase. -/
theorem undisturbed (hp : p.IsOpen) : Undisturbed (Path again start p) where
  toSteady := steady
  after _ what hm := hm.move (.happen what hp)
  sleep _ _ _ hm := hm.move (.same rfl rfl rfl)

end Path

namespace Shell

open Routine

variable {again : Phase → Prop} {start : Machine → Prop}

/-! ### Drains -/

/-- A pass takes, reads and learns one entry after another, and then the keys are next. -/
theorem path_reap (site : Site) : Triple (Path again start (.reaping site)) reap
    { done := fun _ ↦ Path again start (.relaying site)
      failed := fun error ↦ Path again start (site.failed error) } := by
  have hlearning : ∀ status, Steady (Path again start (.learning site status)) :=
    fun _ ↦ Path.steady
  refine triple_reap fun queue ↦ triple_reapAll Path.steady hlearning ?_ ?_ ?_ ?_ ?_ ?_ queue
  · exact fun m answer hm hempty ↦ hm.move (.record (.waitEmpty site answer hempty))
  · intro m entry rest hm hqueue hread
    exact (hm.move (.takeEntry site hqueue)).move (.turn (.stop site hread))
  · intro m entry rest errno hm hqueue hread hne
    exact (hm.move (.takeEntry site hqueue)).move (.turn (.unreadable site hread hne))
  · intro m entry rest status hm hqueue hread
    exact (hm.move (.takeEntry site hqueue)).move (.record (.learn site hread))
  · exact fun status m change table hm hlearn ↦ hm.move (.changeJobs (.learned site hlearn))
  · exact fun status m hm hlearn ↦ hm.move (.turn (.unchanged site hlearn))

/-- Whether there is a pass depends on what was noted. -/
theorem path_onEvent_reap (site : Site) (was : Bool) :
    Triple (Path again start (if was then .reaping site else .relaying site))
      (onEvent was "ChildStatus" reap)
      { done := fun _ ↦ Path again start (.relaying site)
        failed := fun error ↦ Path again start (site.failed error) } := by
  refine Triple.of_imp (triple_onEvent_reap Path.steady (path_reap site) was) fun m hm ↦ ⟨?_, ?_⟩
  · rintro rfl
    exact hm
  · rintro rfl
    exact hm

/-- A drain leads from where its site has it begin to where its site goes on. -/
theorem path_drain (site : Site) : Triple (Path again start site.before) drain
    { done := fun _ ↦ Path again start site.after
      failed := fun error ↦ Path again start (site.failed error) } := by
  refine triple_drain Path.steady Path.steady ?_ ?_ (path_reap site) ?_ ?_
  · intro m hm hnoted
    have hmove := Move.takeNoted (m := m) site
    rw [if_pos hnoted] at hmove
    exact hm.move hmove
  · intro m hm hnoted
    have hmove := Move.takeNoted (m := m) site
    rw [if_neg (by rw [hnoted]; decide)] at hmove
    exact hm.move hmove
  · intro signal hsignal
    refine triple_relay Path.steady Path.steady (fun m pid failure hm hpid ↦ ?_) fun _ hm _ ↦ hm
    exact hm.move (.record (.relay site failure hpid hsignal))
  · exact fun m hm ↦ hm.move (.record (.drained site))

/-! ### Waiting -/

variable (hstart : ∀ m, start m → Sound .ready m)
include hstart

/-- The quit key is never held back, so no change of the mask lets it through. -/
theorem quit_of_path (p : Phase) (m : Machine) (h : Path again start p m) :
    m.state.kernel.pending.contains .quit = false := (h.sound hstart).state.quit

/-- However the mask is restored, work comes to what it was to come to. -/
theorem path_restoreMask (previous : SignalSet) (upshot : Upshot) :
    Triple (Path again start (.restoring previous upshot)) (restoreMask previous)
      { done := fun _ ↦ Path again start (.reached upshot) } := by
  refine triple_restoreMask Path.steady Path.steady (quit_of_path hstart _) ?_ ?_
  · exact fun m errno hm ↦ hm.move (.record (.unrestored previous upshot errno))
  · exact fun m hm ↦ hm.move (.remask (.restore _ previous upshot))

/-- The shell sleeps only while the process is in the foreground, and wakes where it waits, or the
quit key ends it asleep. -/
theorem path_sleep (previous : SignalSet) (pid : Pid) :
    Triple (fun m ↦ Path again start (.drained previous pid) m ∧
        m.state.jobs.foregroundPid? = some pid)
      (do record (.sleepsFor pid); Kernel.suspend (sleepMask previous))
      { done := fun _ ↦ Path again start (.waiting previous pid)
        exited := Path again start (.asleep previous pid) } := by
  have hasleep : Undisturbed (Path again start (.asleep previous pid)) := Path.undisturbed trivial
  refine triple_sleep hasleep ?_ ?_ (quit_of_path hstart _) ?_
  · exact fun m hm ↦ hm.1.move (.sleep previous hm.2)
  · exact fun m pids hpids hm ↦ hm.move (.endAll previous pid hpids)
  · exact fun m hm ↦ hm.move (.wake previous pid)

/-- The loop goes from waiting to waiting, until a drain finds that the process has left the
foreground. -/
theorem path_awaitForeground (previous : SignalSet) (pid : Pid) (n : Nat) :
    Triple (Path again start (.waiting previous pid)) (awaitForeground pid previous n)
      { done := fun _ ↦ Path again start (.restoring previous .settled)
        failed := fun error ↦ Path again start (.restoring previous (.failed error))
        exited := OnPath again start
        stalled := OnPath again start } := by
  refine triple_awaitForeground (Path again start (.drained previous pid)) ?_ ?_ ?_ ?_ n
  · exact (path_drain (.wait previous pid)).of_failed
  · exact (path_sleep hstart previous pid).imp (fun _ m hm ↦ hm) fun m hm ↦ hm.onPath
  · exact fun m hm hpid ↦ hm.move (.turn (.leave previous hpid))
  · exact fun m hm ↦ hm.onPath

/-- A wait begins where work comes to waiting. It ends before its bound, whatever the script. -/
theorem path_waitFor (pid : Pid) :
    Triple (Path again start (.reached (.awaiting pid))) (waitFor pid)
      (.working again start) := by
  have hwait : Triple (Path again start (.reached (.awaiting pid))) (waitFor pid)
      { done := fun _ ↦ Path again start (.reached .settled)
        failed := fun error ↦ Path again start (.reached (.failed error))
        exited := OnPath again start
        stalled := OnPath again start } := by
    refine triple_waitFor (fun previous ↦ Path again start (.waiting previous pid))
      (fun previous result ↦
        Path again start (.restoring previous (.ofResult (fun _ ↦ .settled) result)))
      Path.steady (fun _ ↦ Path.steady) (quit_of_path hstart _) ?_ ?_ ?_ ?_
    · exact fun m errno hm ↦ hm.move (.record (.unblockedWait pid errno))
    · exact fun m hm ↦ hm.move (.remask (.wait _ pid))
    · intro previous n
      have hawait : Triple (Path again start (.waiting previous pid))
          (awaitForeground pid previous n) _ := path_awaitForeground hstart previous pid n
      exact hawait.of_imp fun m hm ↦ hm.1
    · intro previous result
      cases result with
      | ok value => exact path_restoreMask hstart previous .settled
      | error error => exact path_restoreMask hstart previous (.failed error)
  exact hwait.of_ne_stalled fun m hm ↦ (alternates_waitFor pid m (hm.sound hstart).state).1

/-! ### Continuing -/

omit hstart in
/-- A specification that names no job is the user's mistake. -/
theorem recoverable_of_resolve {table : JobTable} {spec : JobSpec} {error : Error}
    (h : table.resolve spec = .error error) : error.recoverable = true := by
  unfold JobTable.resolve at h
  split at h
  · split at h
    · cases h
    · obtain rfl := Except.error.inj h
      rfl
  · split at h
    · cases h
    · obtain rfl := Except.error.inj h
      rfl

omit hstart in
/-- To continue a job is to find it, to send it the signal and to set its state. What that leads to
is for the state to say. -/
theorem path_resume {spec : JobSpec} {newState : JobState} {ground : String}
    (done : Pid × Option Job → Phase)
    (hset : ∀ s job changed table, s.jobs.setState job.pid newState = some (changed, table) →
      Rewrite (.continued job) s (.restated changed) table (done (job.pid, some changed)))
    (hgone : ∀ s job, s.jobs.setState job.pid newState = none →
      Turn (.continued job) s (done (job.pid, none))) :
    Triple (Path again start .ready) (resume spec newState ground)
      { done := fun result ↦ Path again start (done result)
        failed := fun error ↦ Path again start (.reached (.failed error)) } := by
  refine triple_resume (fun job ↦ Path again start (.continued job)) Path.steady ?_ ?_ ?_ ?_ ?_
  · exact fun m error hm herror ↦ hm.move (.turn (.refuse (recoverable_of_resolve herror)))
  · exact fun m job errno hm hresolve ↦ hm.move (.record (.unresumed errno hresolve))
  · exact fun m job hm hresolve ↦ hm.move (.record (.resume hresolve))
  · exact fun m job changed table hm h ↦ hm.move (.changeJobs (hset m.state job changed table h))
  · exact fun m job hm h ↦ hm.move (.turn (hgone m.state job h))

/-- In the foreground a wait for the job follows. -/
theorem path_foreground (spec : JobSpec) :
    Triple (Path again start .ready) (foreground spec) (.working again start) := by
  have hresume : Triple (Path again start .ready) (resume spec .foreground "foreground")
      { done := fun result ↦ Path again start (.reached (.awaiting result.1))
        failed := fun error ↦ Path again start (.reached (.failed error)) } :=
    path_resume (fun result ↦ .reached (.awaiting result.1))
      (fun _ _ _ _ h ↦ .foreground h) (fun _ _ h ↦ .goneForeground h)
  exact Triple.bind _ hresume.of_failed fun result ↦ path_waitFor hstart result.1

omit hstart in
/-- In the background the job's new state settles it. -/
theorem path_background (spec : JobSpec) :
    Triple (Path again start .ready) (background spec) (.working again start) := by
  have hresume : Triple (Path again start .ready) (resume spec .background "background")
      { done := fun result ↦ Path again start (.reached (.ofBackground result))
        failed := fun error ↦ Path again start (.reached (.failed error)) } :=
    path_resume (fun result ↦ .reached (.ofBackground result))
      (fun _ _ _ _ h ↦ .background h) (fun _ _ h ↦ .goneBackground h)
  refine Triple.bind _ hresume.of_failed ?_
  rintro ⟨pid, _ | job⟩
  · exact triple_fail fun _ hm ↦ hm
  · exact triple_pure fun _ hm ↦ hm

/-! ### Launching -/

/-- What a launch comes to that has made a job. -/
def launched (command : Command) (job : Job) : Upshot :=
  if command.background then .settled else .awaiting job.pid

omit hstart in
/-- A new job is in the foreground unless the command asks for the background. -/
theorem ofJob_eq_launched {table table' : JobTable} {pid : Pid} {command : Command} {job : Job}
    (h : table.add pid (initialState command) command.input = .ok (job, table')) :
    Upshot.ofJob job = launched command job := by
  obtain ⟨-, rfl, -⟩ := JobTable.exists_of_add h
  show (if initialState command = .foreground then Upshot.awaiting pid else .settled) =
    if command.background then .settled else .awaiting pid
  unfold initialState
  cases command.background <;> rfl

/-- What a child does is the end of its path. -/
theorem path_child (program : String) (argv : List String) (previous : SignalSet) :
    Triple (Path again start (.forked previous 0)) (child program argv previous)
      { done := fun _ _ ↦ True, exited := OnPath again start } := by
  have hchild : Triple (Path again start (.restoring previous .child))
      (child program argv previous)
      { done := fun _ _ ↦ False
        exited := fun m ↦ Path again start (.restoring previous .child) m ∨
          Path again start (.reached .child) m } := by
    refine triple_child Path.steady Path.steady (quit_of_path hstart _) ?_ ?_
    · exact fun m errno hm ↦ hm.move (.record (.unrestored previous .child errno))
    · exact fun m hm ↦ hm.move (.remask (.restore _ previous .child))
  refine Triple.of_imp (hchild.imp nofun ?_) fun m hm ↦ hm.move (.turn (.child previous))
  exact fun m hm ↦ hm.elim Path.onPath Path.onPath

/-- A launch comes to a job that is settled or to be waited for, fails, or ends with the child's or
the shell's process. -/
theorem path_launch {command : Command} (hprogram : command.program? ≠ none) :
    Triple (Path again start .ready) (launch command)
      { done := fun job ↦ Path again start (.reached (launched command job))
        failed := fun error ↦ Path again start (.reached (.failed error))
        exited := OnPath again start } := by
  refine triple_launch (fun previous ↦ Path again start (.launching previous))
    (fun previous pid ↦ Path again start (.forked previous pid))
    (fun previous result ↦
      Path again start (.restoring previous (.ofResult (launched command) result)))
    hprogram Path.steady (fun _ ↦ Path.steady) (fun _ _ ↦ Path.undisturbed trivial)
    (fun _ _ ↦ Path.steady) (fun previous pid m hm ↦ (hm.sound hstart).plays) ?_
    (quit_of_path hstart _) ?_ ?_ ?_ ?_ ?_ ?_ ?_ ?_ ?_
  · exact fun m hm ↦ hm.move (.turn (.refuse rfl))
  · exact fun m errno hm ↦ hm.move (.record (.unblockedLaunch errno))
  · exact fun m hm ↦ hm.move (.remask (.launch _))
  · exact fun previous m errno hm ↦ hm.move (.record (.unforked previous errno))
  · exact fun previous m hm ↦ hm.move (.spawn previous)
  · intro previous pid m hm
    have hopen : Undisturbed (Path again start (.forked previous pid)) := Path.undisturbed trivial
    exact (hopen.quitting hm).onPath
  · exact fun previous program ↦ path_child hstart program command.argv previous
  · intro previous pid m job table hm hne hadd
    have hmove := hm.move (.changeJobs (.add previous hne hadd))
    rw [ofJob_eq_launched hadd] at hmove
    exact hmove
  · intro previous pid m error failure hm hne hadd
    exact hm.move (.record (.kill previous failure hne hadd))
  · intro previous result
    cases result with
    | ok job => exact path_restoreMask hstart previous (launched command job)
    | error error => exact path_restoreMask hstart previous (.failed error)

end Shell

end JobShell
