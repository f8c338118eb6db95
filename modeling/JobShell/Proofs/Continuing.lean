import JobShell.Proofs.Emissions.Routines
import JobShell.Proofs.ForegroundJobs
import JobShell.Proofs.Onlooker
import JobShell.Proofs.Paired.Routines
import JobShell.Proofs.Path.Tables

/-!
# Continuing a job

`fg` and `bg` look up a job, send it the continuation signal and change its state, in this order, so
each way to fail comes before any change of the table. What they look up is a job of the table, and
the search by process id that changes its state finds the same job again. In the background that
is all. In the foreground a wait follows, which may reap, stop and signal any job, and which ends
when this one is no longer in the foreground.
-/

namespace JobShell

open Routine

/-! ### Ways to end -/

/-- What is said of a job that could not be sent the continuation signal. -/
def JobSpec.undelivered (spec : JobSpec) (errno : Errno) : Error :=
  ⟨.misuse (.cannotContinue spec) 1, [.call errno]⟩

/-- From `m` to `m'` the shell did nothing but try to send the continuation signal to a job. -/
structure Machine.FailsToContinue (m : Machine) (spec : JobSpec) (job : Job) (ground : String)
    (errno : Errno) (m' : Machine) : Prop where
  state : m'.state = m.state
  trace : m'.trace = ⟨.call ⟨.send (-job.pid) .cont, .errno errno⟩, m.state⟩ ::
    (m.addressing spec job ground).trace

/-- From `m` to `m'` the shell did nothing but send the continuation signal to a job and then give
it a new state. -/
structure Machine.Continues (m : Machine) (spec : JobSpec) (job : Job) (ground : String)
    (newState : JobState) (m' : Machine) : Prop where
  /-- The job's slot holds it under its new state, and every other slot is as it was. -/
  rewrites : ∃ i, m.state.jobs.Rewrites m'.state.jobs i (some job)
    (some { job with state := newState })
  nextId : m'.state.jobs.nextId = m.state.jobs.nextId
  state : m'.state = { m.state with jobs := m'.state.jobs }
  trace : m'.trace = ⟨.jobs (.restated { job with state := newState }), m'.state⟩ ::
    ⟨.call ⟨.send (-job.pid) .cont, .number 0⟩, m.state⟩ :: (m.addressing spec job ground).trace
  past : m'.past = m.past

namespace Machine

variable {m m' : Machine} {spec : JobSpec} {job : Job} {ground : String} {newState : JobState}
  {errno : Errno}

theorem failsToContinue (h : m.failure? .send = some errno) :
    m.FailsToContinue spec job ground errno (m.continuing spec job ground) := by
  refine ⟨rfl, ?_⟩
  show (⟨.call ⟨.send (-job.pid) .cont, .ofFailure (m.failure? .send)⟩, m.state⟩ : Moment) :: _ = _
  rw [h]
  rfl

/-- The search by process id finds the job that was named. -/
theorem exists_continues (hacts : m.state.jobs.ActsOnOneSlot) (hjob : job ∈ m.state.jobs.jobs)
    (h : m.failure? .send = none) (spec : JobSpec) (ground : String) (newState : JobState) :
    ∃ table, m.state.jobs.setState job.pid newState = some ({ job with state := newState }, table) ∧
      m.Continues spec job ground newState ((m.continuing spec job ground).changingJobs
        (.restated { job with state := newState }) table) := by
  obtain ⟨table, i, hset, hrewrites, hnext⟩ := hacts.setState job hjob newState
  refine ⟨table, hset, ⟨i, hrewrites⟩, hnext, rfl, ?_, rfl⟩
  show _ :: (⟨.call ⟨.send (-job.pid) .cont, .ofFailure (m.failure? .send)⟩, m.state⟩ : Moment) ::
    _ = _
  rw [h]
  rfl

theorem Continues.exists_history (h : m.Continues spec job ground newState m') :
    ∃ earlier, m'.history = ⟨.jobs (.restated { job with state := newState }), m'.state⟩ ::
      earlier ++ m.history := by
  refine ⟨[⟨.call ⟨.send (-job.pid) .cont, .number 0⟩, m.state⟩,
    ⟨.log ⟨.debug, .jobControl, s!"putting job {spec.text} ({job.pid}) in {ground}"⟩, m.state⟩], ?_⟩
  rw [history, h.trace, h.past]
  rfl

/-- To somebody who overlooks the log it is the same under which number a job is continued. -/
theorem alike_continuing (m : Machine) (spec spec' : JobSpec) (job : Job) (ground : String) :
    Onlooker.user.Alike m.state.settings (m.continuing spec job ground)
      (m.continuing spec' job ground) := by
  have haddressing : Onlooker.user.Alike m.state.settings (m.addressing spec job ground)
      (m.addressing spec' job ground) :=
    Comparison.log_right _ (Comparison.log_left _ (.refl m))
  exact (haddressing.withScript _).recording _

end Machine

namespace Shell

variable {m : Machine} {spec : JobSpec} {job : Job} {table : JobTable}

/-! ### In the background -/

/-- A job that is not found is the failure, and nothing has happened. -/
theorem background_of_resolve_eq_error {error : Error}
    (h : m.state.jobs.resolve spec = .error error) : background spec m = (.failed error, m) :=
  bind_of_failed (resume_of_error h)

/-- A signal that is not delivered is the failure, and the table stays. -/
theorem background_of_errno {errno : Errno} (h : m.state.jobs.resolve spec = .ok job)
    (hsend : m.failure? .send = some errno) :
    background spec m = (.failed (spec.undelivered errno), m.continuing spec job "background") :=
  bind_of_failed (resume_of_errno h hsend)

/-- A job that got its signal goes on in the background. -/
theorem background_of_setState {changed : Job} (h : m.state.jobs.resolve spec = .ok job)
    (hsend : m.failure? .send = none)
    (hset : m.state.jobs.setState job.pid .background = some (changed, table)) :
    background spec m = (.done changed,
      (m.continuing spec job "background").changingJobs (.restated changed) table) := by
  have hresume := resume_of_none .background "background" h hsend
  rw [hset] at hresume
  exact bind_of_done hresume

/-! ### In the foreground -/

/-- A job that is not found is the failure here too. -/
theorem foreground_of_resolve_eq_error {error : Error}
    (h : m.state.jobs.resolve spec = .error error) : foreground spec m = (.failed error, m) :=
  bind_of_failed (resume_of_error h)

/-- A signal that is not delivered is the failure here too. -/
theorem foreground_of_errno {errno : Errno} (h : m.state.jobs.resolve spec = .ok job)
    (hsend : m.failure? .send = some errno) :
    foreground spec m = (.failed (spec.undelivered errno), m.continuing spec job "foreground") :=
  bind_of_failed (resume_of_errno h hsend)

/-- A job that got its signal goes on in front, and the shell waits for it. -/
theorem foreground_of_setState {changed : Job} (h : m.state.jobs.resolve spec = .ok job)
    (hsend : m.failure? .send = none)
    (hset : m.state.jobs.setState job.pid .foreground = some (changed, table)) :
    foreground spec m = waitFor job.pid
      ((m.continuing spec job "foreground").changingJobs (.restated changed) table) := by
  have hresume := resume_of_none .foreground "foreground" h hsend
  simp only [hset, Option.map_some, Option.elim_some] at hresume
  show (resume spec .foreground "foreground" >>= fun result ↦ waitFor result.1) m = _
  rw [bind_of_done hresume]

/-- No process is sent the continuation signal. -/
def ContinuesNothing (moment : Moment) : Prop :=
  ∀ target answer, moment.event ≠ .call ⟨.send target .cont, answer⟩

/-- A wait passes on the two keys and sends nothing else. -/
theorem permitsWait_continuesNothing : PermitsWait ContinuesNothing where
  minor moment hminor target answer hevent := by
    rw [hevent] at hminor
    cases hminor
  said _ _ _ _ := nofun
  learned _ _ _ _ _ _ _ _ := nofun
  relayed pid signal answer s hsignal target answer' hevent := by
    cases hevent
    exact hsignal.elim nofun nofun
  suspended _ _ _ _ _ := nofun

/-- Waiting for a job does not continue any. -/
theorem exists_news_of_waitFor (hplays : m.playsChildren = false) (pid : Pid) :
    ∃ news, (waitFor pid m).2.history = news ++ m.history ∧
      ∀ moment ∈ news, ContinuesNothing moment := by
  obtain ⟨-, hpast, -, -, news, htrace, hnews⟩ :=
    emits_waitFor permitsWait_continuesNothing pid m hplays
  refine ⟨news, ?_, fun moment hmem ↦ (hnews moment hmem).of_said ?_⟩
  · rw [Machine.history, Machine.history, hpast, htrace, List.append_assoc]
  · exact permitsWait_continuesNothing.said

/-- Continuing a job in the foreground: the signal and the change of state come before a wait, in
which no job is continued. -/
def ContinuesBeforeWait (m : Machine) (spec : JobSpec) (job : Job) : Prop :=
  ∃ m₁, m.Continues spec job "foreground" .foreground m₁ ∧
    foreground spec m = waitFor job.pid m₁ ∧
      ∃ news, (foreground spec m).2.history = news ++ m₁.history ∧
        ∀ moment ∈ news, ContinuesNothing moment

section

variable {session : Session} (h : Path Phase.IsFine session.Begins .ready m)
include h

theorem continuesBeforeWait (hresolve : m.state.jobs.resolve spec = .ok job)
    (hsend : m.failure? .send = none) : ContinuesBeforeWait m spec job := by
  have hjob := JobTable.mem_jobs_of_resolve hresolve
  obtain ⟨table, hset, hcontinues⟩ := m.exists_continues (Session.actsOnOneSlot_of_path h) hjob
    hsend spec "foreground" .foreground
  have hforeground := foreground_of_setState hresolve hsend hset
  refine ⟨_, hcontinues, hforeground, ?_⟩
  rw [hforeground]
  refine exists_news_of_waitFor ?_ job.pid
  exact (h.sound session.sound_of_begins).plays

/-- When a job was continued in the foreground, it was removed or is stopped. -/
theorem stopped_of_continuesBeforeWait {m' : Machine} (hcontinues : ContinuesBeforeWait m spec job)
    (hdone : foreground spec m = (.done (), m')) :
    ∀ other ∈ m'.state.jobs.jobs, other.pid = job.pid → other.state = .stopped := by
  obtain ⟨m₁, hcontinues, -, news, hnews, -⟩ := hcontinues
  obtain ⟨earlier, hearlier⟩ := hcontinues.exists_history
  obtain ⟨added, hadded, hstopped⟩ :=
    stopped_of_fronted h (fun _ hstart ↦ path_foreground hstart spec) hdone
  -- The change of the job's state is among what was added to the history.
  obtain rfl : added = news ++ ⟨.jobs (.restated { job with state := .foreground }), m₁.state⟩ ::
      earlier := by
    refine List.append_cancel_right (hadded.symm.trans ?_)
    rw [hdone] at hnews
    rw [hnews, hearlier, List.append_assoc]
  exact hstopped _ (List.mem_append_right _ List.mem_cons_self)
    { job with state := .foreground } rfl

/-! ### Either way -/

/-- How continuing the job that `spec` names depends on whether the signal can be sent. -/
structure ContinuesNamed (m : Machine) (spec : JobSpec) (job : Job) : Prop where
  /-- If not, the user is told why, and nothing in the shell's state changes. -/
  undelivered : ∀ errno, m.failure? .send = some errno →
    (spec.undelivered errno).recoverable = true ∧
      (∃ m', background spec m = (.failed (spec.undelivered errno), m') ∧
        m.FailsToContinue spec job "background" errno m') ∧
      ∃ m', foreground spec m = (.failed (spec.undelivered errno), m') ∧
        m.FailsToContinue spec job "foreground" errno m'
  /-- In the background, nothing is done but what it takes to continue the job. -/
  inBackground : m.failure? .send = none → ∃ m',
    background spec m = (.done { job with state := .background }, m') ∧
      m.Continues spec job "background" .background m'
  inForeground : m.failure? .send = none → ContinuesBeforeWait m spec job
  /-- Once the wait in the foreground is over, the job was removed or is stopped. -/
  afterWait : m.failure? .send = none → ∀ m', foreground spec m = (.done (), m') →
    ∀ other ∈ m'.state.jobs.jobs, other.pid = job.pid → other.state = .stopped

theorem continuesNamed (hresolve : m.state.jobs.resolve spec = .ok job) :
    ContinuesNamed m spec job where
  undelivered errno hsend := by
    refine ⟨rfl, ⟨_, background_of_errno hresolve hsend, ?_⟩,
      ⟨_, foreground_of_errno hresolve hsend, ?_⟩⟩
    · exact Machine.failsToContinue hsend
    · exact Machine.failsToContinue hsend
  inBackground hsend := by
    have hjob := JobTable.mem_jobs_of_resolve hresolve
    obtain ⟨table, hset, hcontinues⟩ := m.exists_continues (Session.actsOnOneSlot_of_path h) hjob
      hsend spec "background" .background
    exact ⟨_, background_of_setState hresolve hsend hset, hcontinues⟩
  inForeground hsend := continuesBeforeWait h hresolve hsend
  afterWait hsend m' hdone :=
    stopped_of_continuesBeforeWait h (continuesBeforeWait h hresolve hsend) hdone

/-- It is the same under which of its numbers a job is continued, up to the number that is shown in
the log and in the error. -/
structure ContinuesAlike (m : Machine) (spec spec' : JobSpec) : Prop where
  inBackground : Onlooker.user.Alike m.state.settings (background spec m).2 (background spec' m).2
  inForeground : Onlooker.user.Alike m.state.settings (foreground spec m).2 (foreground spec' m).2
  outcomes : m.failure? .send = none →
    (background spec' m).1 = (background spec m).1 ∧
      (foreground spec' m).1 = (foreground spec m).1

/-- Which of its names a job is continued by makes no difference. -/
theorem continuesAlike {spec' : JobSpec} (hresolve : m.state.jobs.resolve spec = .ok job)
    (hresolve' : m.state.jobs.resolve spec' = .ok job) : ContinuesAlike m spec spec' := by
  have hjob := JobTable.mem_jobs_of_resolve hresolve
  have halike := m.alike_continuing spec spec' job
  cases hsend : m.failure? .send with
  | some errno =>
    refine ⟨?_, ?_, fun hnone ↦ ?_⟩
    · rw [background_of_errno hresolve hsend, background_of_errno hresolve' hsend]
      exact halike "background"
    · rw [foreground_of_errno hresolve hsend, foreground_of_errno hresolve' hsend]
      exact halike "foreground"
    · cases hnone.symm.trans hsend
  | none =>
    have hacts := (Session.actsOnOneSlot_of_path h).setState job hjob
    obtain ⟨table, -, hback, -⟩ := hacts .background
    obtain ⟨table', -, hfront, -⟩ := hacts .foreground
    have hchanged : ∀ ground change table, Onlooker.user.Alike m.state.settings
        ((m.continuing spec job ground).changingJobs change table)
        ((m.continuing spec' job ground).changingJobs change table) := fun ground change table ↦
      (Comparison.withJobs table (halike ground)).recording _
    have hwait := paired_waitFor (R := Onlooker.user.Alike m.state.settings) job.pid _ _
      (hchanged "foreground" (.restated { job with state := .foreground }) table')
    rw [← foreground_of_setState hresolve hsend hfront,
      ← foreground_of_setState hresolve' hsend hfront] at hwait
    refine ⟨?_, hwait.2, fun _ ↦ ⟨?_, hwait.1.symm⟩⟩
    · rw [background_of_setState hresolve hsend hback, background_of_setState hresolve' hsend hback]
      exact hchanged "background" _ table
    · rw [background_of_setState hresolve hsend hback, background_of_setState hresolve' hsend hback]

end

/-- **Continuing a job.** At every point of a session in which nothing is under way and no fatal
error has occurred, whatever the script: if no job has the number that `spec` gives, then `fg` and
`bg` say so and nothing else happens. Otherwise they act on the one job that has it, as
`ContinuesNamed` says, and they do the same under the job's other number. -/
theorem continue_by_spec (session : Session) (m : Machine)
    (h : Path Phase.IsFine session.Begins .ready m) (spec : JobSpec) :
    ((∀ job ∈ m.state.jobs.jobs, ¬spec.Names job) →
      background spec m = (.failed spec.unknown, m) ∧
        foreground spec m = (.failed spec.unknown, m)) ∧
      ∀ job ∈ m.state.jobs.jobs, spec.Names job → ContinuesNamed m spec job ∧
        ∀ spec', spec'.Names job → ContinuesAlike m spec spec' := by
  have hviews := Session.viewsAgree_of_path h
  refine ⟨fun hnone ↦ ?_, fun job hjob hnames ↦ ?_⟩
  · have hresolve := hviews.resolve_of_not_names hnone
    exact ⟨background_of_resolve_eq_error hresolve, foreground_of_resolve_eq_error hresolve⟩
  · have hresolve := hviews.resolve_of_names hjob hnames
    refine ⟨continuesNamed h hresolve, fun spec' hnames' ↦ ?_⟩
    exact continuesAlike h hresolve (hviews.resolve_of_names hjob hnames')

/-- A session in which a program runs in the background. -/
def resting : Session where
  steps := [⟨.line "rest &", {}⟩]

/-- The machine once the program has been started. -/
def rested : Machine := (Step.perform ⟨.line "rest &", {}⟩ resting.start.machine).machine

/-- The program has a number of each kind, and no other number names it. -/
theorem continue_by_spec_of_rested :
    Path Phase.IsFine resting.Begins .ready rested ∧
      background (.job 2) rested = (.failed (.of (.noSuchJob "%2")), rested) ∧
      rested.state.jobs.jobs = [⟨1, 1001, .background, "rest &"⟩] ∧
      ContinuesNamed rested (.job 1) ⟨1, 1001, .background, "rest &"⟩ ∧
      ContinuesAlike rested (.job 1) (.process 1001) := by
  have hpath : Path Phase.IsFine resting.Begins .ready rested := by
    refine Session.Idles.path (.step _ (.start ?_) ?_ ?_)
    · decide +kernel
    · decide +kernel
    · decide +kernel
  have hjobs : rested.state.jobs.jobs = [⟨1, 1001, .background, "rest &"⟩] := by decide +kernel
  obtain ⟨hunknown, -⟩ := continue_by_spec resting rested hpath (.job 2)
  obtain ⟨-, hnamed⟩ := continue_by_spec resting rested hpath (.job 1)
  rw [hjobs] at hunknown hnamed
  obtain ⟨hcontinues, halike⟩ := hnamed _ (List.mem_singleton.2 rfl) rfl
  refine ⟨hpath, (hunknown fun job hjob hnames ↦ ?_).1, hjobs, hcontinues, halike _ rfl⟩
  obtain rfl := List.mem_singleton.1 hjob
  cases hnames

end Shell

end JobShell
