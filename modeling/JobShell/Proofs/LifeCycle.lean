import JobShell.Proofs.Emissions.Routines
import JobShell.Proofs.ForegroundJobs
import JobShell.Proofs.Path.Tables
import JobShell.Proofs.ReapOrder

/-!
# The life cycle of a job

A job is entered into a free slot of the table and stays in that slot, under the same numbers and
the same command line, until it leaves the table. Only its state changes meanwhile. What a change
takes is looked at from two sides. A path knows what came before: a job leaves the table or is
stopped only when a wait has just told so, and none is in the foreground when a job is put in the
background. What was asked of the shell tells the rest: a job is launched, or given one of the two
other states, only by a command or an instruction that asks for it.
-/

namespace JobShell

open Routine

/-! ### Changes of the table -/

namespace Trace

/-- The job table that the latest moment shows. -/
def table : Trace → JobTable
  | [] => .empty
  | moment :: _ => moment.state.jobs

/-- What happened apart from quiet events. -/
def acts (trace : Trace) : Trace := trace.filter fun moment ↦ !moment.event.isQuiet

/-- A wait has just told the shell this status: nothing but quiet events happened since. -/
def Tells (trace : Trace) (status : WaitStatus) : Prop :=
  ∃ s s' rest, trace.acts =
    ⟨.learned status, s⟩ :: ⟨.call ⟨.wait, .number status.pid⟩, s'⟩ :: rest

theorem acts_cons_of_isQuiet {moment : Moment} (h : moment.event.isQuiet = true) (trace : Trace) :
    acts (moment :: trace) = trace.acts :=
  List.filter_cons_of_neg (by simp [h])

/-- More moments with the same job table. -/
theorem table_append {news earlier : Trace} {table : JobTable}
    (hnews : ∀ moment ∈ news, moment.state.jobs = table) (h : earlier.table = table) :
    Trace.table (news ++ earlier) = table := by
  cases news with
  | nil => exact h
  | cons moment news => exact hnews moment List.mem_cons_self

end Trace

/-- A step in the life of a job: what may be done to a table, which becomes `table` by it, after
what happened `before`. The two parameters say what was asked for: jobs to be launched, and jobs to
be continued and given a state. -/
inductive LifeStep (launches : Job → Prop) (continues : JobSpec → JobState → Prop) (before : Trace)
    (table : JobTable) : JobChange → Prop
  /-- A new job takes a free slot. -/
  | launched {i : Nat} {job : Job} (h : before.table.Rewrites table i none (some job))
    (hlaunch : launches job) : LifeStep launches continues before table (.added job)
  /-- A job leaves its slot when a wait has told of its end. -/
  | ended {i : Nat} {job : Job} {status : WaitStatus}
    (h : before.table.Rewrites table i (some job) none) (htells : before.Tells status)
    (hended : status.ended? = some job.pid) :
    LifeStep launches continues before table (.removed job)
  /-- A job is stopped when a wait has told that it is. -/
  | stopped {i : Nat} {job : Job} {signal : Signal}
    (h : before.table.Rewrites table i (some job) (some { job with state := .stopped }))
    (htells : before.Tells (.stopped job.pid signal)) :
    LifeStep launches continues before table (.restated { job with state := .stopped })
  /-- A job that is named is put in the foreground. -/
  | fronted {i : Nat} {job : Job} {spec : JobSpec}
    (h : before.table.Rewrites table i (some job) (some { job with state := .foreground }))
    (hasked : continues spec .foreground) (hnames : spec.Names job) :
    LifeStep launches continues before table (.restated { job with state := .foreground })
  /-- A job that is named is put in the background, but not from the foreground. -/
  | backed {i : Nat} {job : Job} {spec : JobSpec}
    (h : before.table.Rewrites table i (some job) (some { job with state := .background }))
    (hasked : continues spec .background) (hnames : spec.Names job)
    (hstate : job.state ≠ .foreground) :
    LifeStep launches continues before table (.restated { job with state := .background })

namespace LifeStep

variable {launches : Job → Prop} {continues : JobSpec → JobState → Prop} {before : Trace}
  {table : JobTable} {change : JobChange}

/-- What was asked for may be found out after the fact, from the change itself. -/
theorem attributed (h : LifeStep (fun _ ↦ True) (fun _ _ ↦ True) before table change)
    (hadded : ∀ job, change = .added job → launches job)
    (hrestated : ∀ job, change = .restated job → job.state = .stopped ∨
      ∃ spec, continues spec job.state ∧ spec.Names job) :
    LifeStep launches continues before table change := by
  have hnamed : ∀ {spec : JobSpec} {job : Job} {newState : JobState},
      spec.Names { job with state := newState } → spec.Names job := by
    intro spec job newState h
    cases spec <;> exact h
  cases h with
  | launched h => exact .launched h (hadded _ rfl)
  | ended h htells hended => exact .ended h htells hended
  | stopped h htells => exact .stopped h htells
  | fronted h =>
    obtain hstopped | ⟨spec, hasked, hnames⟩ := hrestated _ rfl
    · cases hstopped
    · exact .fronted h hasked (hnamed hnames)
  | backed h _ _ hstate =>
    obtain hstopped | ⟨spec, hasked, hnames⟩ := hrestated _ rfl
    · cases hstopped
    · exact .backed h hasked (hnamed hnames) hstate

/-- A job that is not removed stays in its slot, with all but its state. -/
theorem at?_eq (h : LifeStep launches continues before table change) {i : Nat} {job : Job}
    (hat : before.table.at? i = some job)
    (hkeep : ∀ gone, change = .removed gone → gone.pid ≠ job.pid) :
    ∃ state, table.at? i = some { job with state } := by
  have hrewritten : ∀ {k : Nat} {old new : Option Job}, before.table.Rewrites table k old new →
      (old = some job → ∃ state, new = some { job with state }) →
        ∃ state, table.at? i = some { job with state } := by
    intro k old new hrewrites hsame
    by_cases hi : i = k
    · subst hi
      rw [hrewrites.new]
      exact hsame (hrewrites.old.symm.trans hat)
    · exact ⟨job.state, (hrewrites.rest i hi).trans hat⟩
  cases h with
  | launched h => exact hrewritten h nofun
  | ended h =>
    refine hrewritten h fun heq ↦ ?_
    obtain rfl := Option.some.inj heq
    exact absurd rfl (hkeep _ rfl)
  | stopped h | fronted h | backed h =>
    refine hrewritten h fun heq ↦ ?_
    obtain rfl := Option.some.inj heq
    exact ⟨_, rfl⟩

end LifeStep

/-- A moment is accounted for: if it is a change of the job table, then this is a step in the life
of a job, and if not, then the table is as it was. -/
structure Accounted (launches : Job → Prop) (continues : JobSpec → JobState → Prop)
    (before : Trace) (moment : Moment) : Prop where
  changes : ∀ change, moment.event = .jobs change →
    LifeStep launches continues before moment.state.jobs change
  rest : (∀ change, moment.event ≠ .jobs change) → moment.state.jobs = before.table

/-- From when it is in a slot until it is removed, a job stays there with all but its state. -/
theorem Accounted.at?_eq {launches : Job → Prop} {continues : JobSpec → JobState → Prop}
    {later earlier : Trace} {i : Nat} {job : Job}
    (h : ∀ after moment before, later = after ++ moment :: before →
      Accounted launches continues (before ++ earlier) moment)
    (hat : earlier.table.at? i = some job)
    (hkeep : ∀ moment ∈ later, ∀ gone, moment.event = .jobs (.removed gone) → gone.pid ≠ job.pid) :
    ∃ state, (Trace.table (later ++ earlier)).at? i = some { job with state } := by
  induction later with
  | nil => exact ⟨job.state, hat⟩
  | cons moment later ih =>
    obtain ⟨state, hstate⟩ := ih
      (fun after other before heq ↦ h (moment :: after) other before (by rw [heq]; rfl))
      fun other hmem ↦ hkeep other (List.mem_cons_of_mem _ hmem)
    have hmoment := h [] moment later rfl
    show ∃ state, moment.state.jobs.at? i = _
    by_cases hchange : ∃ change, moment.event = .jobs change
    · obtain ⟨change, hevent⟩ := hchange
      obtain ⟨state', hstate'⟩ := (hmoment.changes change hevent).at?_eq hstate fun gone hgone ↦
        hkeep moment List.mem_cons_self gone (hgone ▸ hevent)
      exact ⟨state', hstate'⟩
    · rw [hmoment.rest fun change hevent ↦ hchange ⟨change, hevent⟩]
      exact ⟨state, hstate⟩

/-! ### What a path knows -/

/-- What a phase knows of the latest events: in a drain, what the last wait answered and told. -/
def Phase.Recalls : Phase → Trace → Prop
  | taken _ entry, trace =>
    ∃ s rest, trace.acts = ⟨.call ⟨.wait, Kernel.waitAnswer entry⟩, s⟩ :: rest
  | learning _ status, trace => trace.Tells status
  | _, _ => True

/-- Quiet events leave what is known. -/
theorem Phase.Recalls.quiet {p : Phase} {trace : Trace} {moment : Moment} (h : p.Recalls trace)
    (hquiet : moment.event.isQuiet = true) : p.Recalls (moment :: trace) := by
  have hacts := Trace.acts_cons_of_isQuiet hquiet trace
  cases p with
  | taken site entry =>
    obtain ⟨s, rest, heq⟩ := h
    exact ⟨s, rest, hacts.trans heq⟩
  | learning site status =>
    obtain ⟨s, s', rest, heq⟩ := h
    exact ⟨s, s', rest, hacts.trans heq⟩
  | _ => trivial

/-- What a wait answers that tells a status is the process that the status is about. -/
theorem waitAnswer_of_read {entry : WaitEntry} {status : WaitStatus}
    (h : entry.read = .ok (some status)) : Kernel.waitAnswer entry = .number status.pid := by
  have hpid := WaitEntry.pid?_of_status? (WaitEntry.status?_eq_some.2 h)
  cases entry with
  | failure errno => cases h
  | status pid change =>
    obtain rfl : pid = status.pid := Option.some.inj hpid
    rfl

theorem Move.recalls {p p' : Phase} {m m' : Machine} (h : p.Recalls m.history)
    (hmove : Move p m p' m') : p'.Recalls m'.history := by
  cases hmove with
  | same _ hhistory =>
    rw [hhistory]
    exact h
  | turn hturn =>
    cases hturn with
    | unreadable site => cases site <;> trivial
    | _ => trivial
  | @record _ _ _ event hremark =>
    cases hremark with
    | quiet hquiet => exact h.quiet hquiet
    | @learn _ site entry status hread =>
      obtain ⟨s, rest, heq⟩ := h
      rw [waitAnswer_of_read hread] at heq
      refine ⟨m.state, s, rest, ?_⟩
      rw [← heq]
      rfl
    | drained site => cases site <;> trivial
    | _ => trivial
  | happen what hopen =>
    cases p with
    | ready | forked | asleep => trivial
    | _ => cases hopen
  | takeNoted => split <;> trivial
  | takeEntry => exact ⟨_, _, rfl⟩
  | changeJobs hrewrite => cases hrewrite <;> trivial
  | remask hremask => cases hremask <;> trivial
  | _ => trivial

theorem Move.table_history {p p' : Phase} {m m' : Machine} (hmove : Move p m p' m')
    (h : Trace.table m.history = m.state.jobs) : Trace.table m'.history = m'.state.jobs := by
  rcases hmove.jobs_cases with ⟨hsame, news, hhistory, hnews⟩ | ⟨change, table, -, -, hhistory⟩
  · rw [hhistory, hsame]
    exact Trace.table_append (fun moment hmem ↦ (hnews moment hmem).1) h
  · rw [hhistory]
    rfl

/-- The latest moment of a path shows the job table, and a drain knows what it was told. -/
theorem Path.table_and_recalls {again : Phase → Prop} {start : Machine → Prop} {p : Phase}
    {m : Machine} (hstart : ∀ m, start m → m.history = [] ∧ m.state.jobs = .empty)
    (h : Path again start p m) : Trace.table m.history = m.state.jobs ∧ p.Recalls m.history := by
  induction h with
  | start h =>
    obtain ⟨hhistory, hjobs⟩ := hstart _ h
    rw [hhistory, hjobs]
    exact ⟨rfl, trivial⟩
  | move _ hmove ih => exact ⟨hmove.table_history ih.1, hmove.recalls ih.2⟩
  | again _ _ ih => exact ⟨ih.1, trivial⟩

/-- Each change of the table is a step in the life of a job, whatever was asked for. -/
theorem Rewrite.lifeStep {p p' : Phase} {m : Machine} {change : JobChange} {table : JobTable}
    (h : Rewrite p m.state change table p') (htable : Trace.table m.history = m.state.jobs)
    (hrecalls : p.Recalls m.history) (hdisciplined : Disciplined p m.state.jobs) :
    LifeStep (fun _ ↦ True) (fun _ _ ↦ True) m.history table change := by
  have hcontinued : ∀ {pid : Pid} {newState : JobState} {changed : Job},
      m.state.jobs.setState pid newState = some (changed, table) → ∃ i old,
        m.history.table.Rewrites table i (some old) (some { old with state := newState }) ∧
          old.pid = pid ∧ changed = { old with state := newState } ∧ old ∈ m.state.jobs.jobs := by
    intro pid newState changed hset
    obtain ⟨i, old, hrewrites, hfirst, rfl⟩ := JobTable.rewrites_of_setState hset
    refine ⟨i, old, ?_, hfirst.pid_eq, rfl, JobTable.mem_jobs_of_at? hrewrites.lt hrewrites.old⟩
    rw [htable]
    exact hrewrites
  have hself : ∀ job, (JobSpec.process job.pid).Names job := fun _ ↦ rfl
  cases h with
  | learned site hlearn =>
    rcases JobTable.exists_of_learn? hlearn with ⟨pid, job, hended, rfl, hremove⟩ |
      ⟨-, job, -, rfl, -⟩
    · obtain ⟨i, hrewrites, -⟩ := JobTable.rewrites_of_remove hremove
      obtain ⟨-, rfl, -⟩ := JobTable.exists_of_remove hremove
      rw [← htable] at hrewrites
      exact .ended hrewrites hrecalls hended
    · obtain ⟨pid, signal, rfl, hset⟩ := JobTable.stopped_of_learn? hlearn
      obtain ⟨i, old, hrewrites, rfl, rfl, -⟩ := hcontinued hset
      exact .stopped hrewrites hrecalls
  | foreground hset =>
    obtain ⟨i, old, hrewrites, -, rfl, -⟩ := hcontinued hset
    exact .fronted hrewrites trivial (hself old)
  | background hset =>
    obtain ⟨i, old, hrewrites, -, rfl, hold⟩ := hcontinued hset
    refine .backed hrewrites trivial (hself old) fun hstate ↦ ?_
    -- A job is continued only while none is in the foreground.
    obtain ⟨front, hpermits, hfront⟩ := hdisciplined
    obtain rfl : front = none := hpermits
    cases hfront old hold hstate
  | add previous hne hadd =>
    obtain ⟨i, hrewrites, -⟩ := JobTable.rewrites_of_add hadd
    rw [← htable] at hrewrites
    exact .launched hrewrites trivial

namespace Session

variable {session : Session} {p : Phase} {m : Machine}

theorem jobs_of_begins (m : Machine) (h : session.Begins m) :
    m.history = [] ∧ m.state.jobs = .empty := by
  rw [show m = session.initial from h]
  exact ⟨rfl, rfl⟩

/-- Without a fatal error, every moment is accounted for, whatever was asked for. -/
theorem accounted_of_path (h : Path Phase.IsFine session.Begins p m) {later earlier : Trace}
    {moment : Moment} (hsplit : m.history = later ++ moment :: earlier) :
    Accounted (fun _ ↦ True) (fun _ _ ↦ True) earlier moment ∧
      moment.state.jobs.pids.Nodup := by
  obtain ⟨q, n, q', n', after, before, hpath, hmove, hhistory, rfl⟩ :=
    h.exists_move_of_history session.history_of_begins hsplit
  obtain ⟨htable, hrecalls⟩ := hpath.table_and_recalls jobs_of_begins
  have hdisciplined := hpath.disciplined (fun _ ↦ id) session.sound_of_begins disciplined_of_begins
  have hnodup := ((hpath.move hmove).sound session.sound_of_begins).state.nodup
  rcases hmove.jobs_cases with ⟨hsame, news, hnews, hquiet⟩ | ⟨change, table, hrewrite, rfl, hnew⟩
  · obtain rfl : news = after ++ moment :: before :=
      List.append_cancel_right (hnews.symm.trans hhistory)
    obtain ⟨hjobs, hnone⟩ := hquiet moment (by simp)
    refine ⟨⟨fun change hevent ↦ absurd hevent (hnone change), fun _ ↦ ?_⟩, ?_⟩
    · rw [hjobs]
      refine (Trace.table_append (fun other hmem ↦ (hquiet other ?_).1) htable).symm
      exact List.mem_append_right _ (List.mem_cons_of_mem _ hmem)
    · rw [hjobs, ← hsame]
      exact hnodup
  · obtain ⟨rfl, rfl, rfl⟩ : after = [] ∧ moment = ⟨.jobs change, n'.state⟩ ∧ before = [] := by
      have hsingle : after ++ moment :: before = [⟨.jobs change, n'.state⟩] :=
        List.append_cancel_right (hhistory.symm.trans hnew)
      simpa [List.append_eq_cons_iff] using hsingle
    refine ⟨⟨fun other hevent ↦ ?_, fun hnone ↦ absurd rfl (hnone change)⟩, hnodup⟩
    obtain rfl : change = other := Event.jobs.inj hevent
    exact hrewrite.lifeStep htable hrecalls hdisciplined

end Session

/-! ### What was asked for -/

/-- The command has the job launched, in the background only if it asks for that. -/
def Command.Launches (command : Command) (job : Job) : Prop :=
  command.NamesProgram ∧ job.state = Shell.initialState command ∧ job.commandLine = command.input

namespace Instruction

variable (instruction : Instruction)

/-- The instruction has the job launched by a command. -/
def Launches (job : Job) : Prop := ∃ command ∈ instruction.commands, command.Launches job

/-- The instruction asks that the job that `spec` names be continued, by a command or without. -/
def Continues (spec : JobSpec) (newState : JobState) : Prop :=
  instruction.Resumes spec newState ∨
    ∃ command ∈ instruction.commands, command.Resumes spec newState

end Instruction

/-- A change of the table is one that was asked for, or one for which nobody has to ask. -/
structure AskedFor (launches : Job → Prop) (continues : JobSpec → JobState → Prop)
    (moment : Moment) : Prop where
  added : ∀ job, moment.event = .jobs (.added job) → launches job
  restated : ∀ changed, moment.event = .jobs (.restated changed) → changed.state = .stopped ∨
    ∃ spec, continues spec changed.state ∧ ∃ (table : JobTable) (job : Job),
      table.resolve spec = .ok job ∧
        table.setState job.pid changed.state = some (changed, moment.state.jobs)

section

variable {launches : Job → Prop} {continues : JobSpec → JobState → Prop} {moment : Moment}

theorem askedFor_of_ne (h : ∀ change, moment.event ≠ .jobs change) :
    AskedFor launches continues moment :=
  ⟨fun _ hevent ↦ absurd hevent (h _), fun _ hevent ↦ absurd hevent (h _)⟩

theorem permitsWait_askedFor : PermitsWait (AskedFor launches continues) where
  minor moment hminor := by
    refine askedFor_of_ne fun change hevent ↦ ?_
    rw [hevent] at hminor
    cases hminor
  said _ _ := askedFor_of_ne fun _ ↦ nofun
  learned table table' status change s hlearn := by
    rcases JobTable.exists_of_learn? hlearn with ⟨pid, gone, -, rfl, -⟩ |
      ⟨pid, stopped, -, rfl, hset⟩
    · exact ⟨fun _ ↦ nofun, fun _ ↦ nofun⟩
    · refine ⟨fun _ ↦ nofun, fun changed hevent ↦ Or.inl ?_⟩
      obtain rfl := JobChange.restated.inj (Event.jobs.inj hevent)
      obtain ⟨-, -, old, -, -, rfl, -⟩ := JobTable.exists_of_setState hset
      rfl
  relayed _ _ _ _ _ := askedFor_of_ne fun _ ↦ nofun
  suspended _ _ _ := askedFor_of_ne fun _ ↦ nofun

theorem permitsResume_askedFor {spec : JobSpec} {newState : JobState}
    (h : continues spec newState) : PermitsResume (AskedFor launches continues) spec newState where
  continued _ _ _ _ := askedFor_of_ne fun _ ↦ nofun
  restated table job changed s hresolve hset := by
    refine ⟨fun _ ↦ nofun, fun other hevent ↦ Or.inr ⟨spec, ?_⟩⟩
    obtain rfl := JobChange.restated.inj (Event.jobs.inj hevent)
    obtain rfl : changed.state = newState := by
      obtain ⟨-, -, old, -, -, rfl, -⟩ := JobTable.exists_of_setState hset
      rfl
    exact ⟨h, table, job, hresolve, hset⟩

theorem permitsCommand_askedFor {command : Command}
    (hlaunches : ∀ job, command.Launches job → launches job)
    (hcontinues : ∀ spec newState, command.Resumes spec newState → continues spec newState) :
    PermitsCommand (AskedFor launches continues) command where
  resumes spec newState h := permitsResume_askedFor (hcontinues spec newState h)
  launches hprogram := by
    refine ⟨⟨fun job s hstate hline ↦ ?_, fun _ _ _ ↦ askedFor_of_ne fun _ ↦ nofun⟩,
      fun _ _ ↦ askedFor_of_ne fun _ ↦ nofun⟩
    refine ⟨fun added hevent ↦ ?_, fun _ ↦ nofun⟩
    obtain rfl := JobChange.added.inj (Event.jobs.inj hevent)
    exact hlaunches job ⟨hprogram, hstate, hline⟩

theorem permitsInstruction_askedFor (instruction : Instruction) :
    PermitsInstruction (AskedFor instruction.Launches instruction.Continues) instruction where
  commands command hmem := permitsCommand_askedFor (fun _ h ↦ ⟨command, hmem, h⟩)
    fun _ _ h ↦ Or.inr ⟨command, hmem, h⟩
  resumes _ _ h := permitsResume_askedFor (Or.inl h)

/-- What a path knows and what was asked for together account for a moment. -/
theorem Accounted.attributed {before : Trace}
    (h : Accounted (fun _ ↦ True) (fun _ _ ↦ True) before moment)
    (hnodup : moment.state.jobs.pids.Nodup) (hasked : AskedFor launches continues moment) :
    Accounted launches continues before moment where
  changes change hevent := by
    refine (h.changes change hevent).attributed (fun job hadded ↦ ?_) fun job hrestated ↦ ?_
    · exact hasked.added job (hadded ▸ hevent)
    · refine (hasked.restated job (hrestated ▸ hevent)).imp_right ?_
      rintro ⟨spec, hcontinues, table, named, hresolve, hset⟩
      exact ⟨spec, hcontinues, JobTable.names_of_setState hresolve hset hnodup⟩
  rest := h.rest

end

/-! ### Sessions -/

section

variable {α : Type} {session : Session} {m : Machine} {later earlier : Trace} {moment : Moment}
  (h : Path Phase.IsFine session.Begins .ready m)
include h

/-- Work that does what is asked for, and is a path, is accounted for. -/
theorem accounted_of_emits {launches : Job → Prop} {continues : JobSpec → JobState → Prop}
    {routine : Routine α} (hemits : Emits (AskedFor launches continues) routine)
    (hpath : OnPath Phase.IsFine session.Begins (routine m).2)
    (hsplit : (routine m).2.history = later ++ moment :: (earlier ++ m.history)) :
    Accounted launches continues (earlier ++ m.history) moment := by
  obtain ⟨p, hpath⟩ := hpath
  obtain ⟨-, hpast, -, -, news, htrace, hnews⟩ := hemits m (h.sound session.sound_of_begins).plays
  obtain ⟨haccounted, hnodup⟩ := Session.accounted_of_path hpath hsplit
  have hnew : news ++ m.history = (later ++ moment :: earlier) ++ m.history := by
    rw [List.append_assoc, List.cons_append, ← hsplit, Machine.history, Machine.history, hpast,
      htrace, List.append_assoc]
  have hmem : moment ∈ news := by
    rw [List.append_cancel_right hnew]
    exact List.mem_append_right _ List.mem_cons_self
  exact haccounted.attributed hnodup ((hnews moment hmem).of_said permitsWait_askedFor.said)

/-- What a step does to the job table is accounted for by its instruction. -/
theorem accounted_of_step (step : Step)
    (hsplit : (step.perform m).machine.history = later ++ moment :: (earlier ++ m.history)) :
    Accounted step.instruction.Launches step.instruction.Continues (earlier ++ m.history)
      moment := by
  have hleaves : (step.perform m).ending.Leaves Phase.IsFine session.Begins
      (step.perform m).machine := Machine.leaves_perform h
    (Instruction.path_perform session.sound_of_begins trivial step.instruction)
  exact accounted_of_emits (h.beginStep step.script)
    (Instruction.emits_perform permitsWait_askedFor (permitsInstruction_askedFor _)) hleaves.onPath
    hsplit

/-- What a line of an input does to the job table is accounted for by the command in it. -/
theorem accounted_of_line (piece : List UInt8)
    (hsplit : (Shell.reporting (Shell.executeBytes piece) m).2.history =
      later ++ moment :: (earlier ++ m.history)) :
    Accounted (fun job ↦ ∃ command ∈ Shell.commandOf? piece, command.Launches job)
      (fun spec newState ↦ ∃ command ∈ Shell.commandOf? piece, command.Resumes spec newState)
      (earlier ++ m.history) moment := by
  refine accounted_of_emits h (Shell.emits_reporting permitsWait_askedFor
    (Shell.emits_executeBytes permitsWait_askedFor fun command hcommand ↦ ?_)) ?_ hsplit
  · exact permitsCommand_askedFor (fun _ h ↦ ⟨command, hcommand, h⟩)
      fun _ _ h ↦ ⟨command, hcommand, h⟩
  · have hpost := Shell.path_reporting (Shell.path_executeBytes session.sound_of_begins piece) m h
    generalize Shell.reporting (Shell.executeBytes piece) m = result at hpost ⊢
    obtain ⟨value | error | status | _, m'⟩ := result
    · exact Path.onPath hpost
    · exact Path.onPath hpost
    · exact hpost
    · exact hpost.elim

end

/-- In a session without a fatal error, each report is that of a step done on the machine that the
report before it left. -/
theorem perform_of_getElem? {start : Machine → Prop} (hsound : ∀ m, start m → Sound .ready m) :
    ∀ {k : Nat} {steps : List Step} {step : Step} {first previous report : Report},
      Path Phase.IsFine start .ready first.machine → steps[k]? = some step →
        (first :: reports steps first.machine)[k]? = some previous →
          (reports steps first.machine)[k]? = some report →
            (∀ before ∈ (reports steps first.machine).take k, before.ending.isFatal = false) →
              Path Phase.IsFine start .ready previous.machine ∧
                report = step.perform previous.machine
  | _, [], _, _, _, _, _, hstep, _, _, _ => absurd hstep.symm (by simp)
  | 0, step :: steps, _, first, previous, report, hfirst, hstep, hprevious, hreport, _ => by
    obtain rfl := Option.some.inj hstep
    obtain rfl := Option.some.inj hprevious
    rw [reports] at hreport
    exact ⟨hfirst, (Option.some.inj hreport).symm⟩
  | k + 1, next :: steps, step, first, previous, report, hfirst, hstep, hprevious, hreport,
      hfatal => by
    have hleaves : (next.perform first.machine).ending.Leaves Phase.IsFine start
        (next.perform first.machine).machine :=
      Machine.leaves_perform hfirst (Instruction.path_perform hsound trivial next.instruction)
    rw [reports] at hprevious hreport hfatal
    split at hreport
    · next hgoes =>
      rw [if_pos hgoes] at hprevious hfatal
      rw [List.take_succ_cons, List.forall_mem_cons] at hfatal
      have hready := path_of_goesOn trivial hleaves hgoes (survives_of_isFatal hfatal.1)
      have hrest : steps[k]? = some step := hstep
      have hbefore : (next.perform first.machine ::
          reports steps (next.perform first.machine).machine)[k]? = some previous := hprevious
      exact perform_of_getElem? hsound hready hrest hbefore hreport hfatal.2
    · exact absurd hreport.symm (by simp)

namespace Session

variable (session : Session)

/-- The report after the first `k + 1` of a session is that of its step `k`. -/
theorem perform_of_run {k : Nat} {step : Step} {previous report : Report}
    (hstep : session.steps[k]? = some step) (hprevious : session.run[k]? = some previous)
    (hreport : session.run[k + 1]? = some report)
    (hfatal : ∀ before ∈ session.run.take (k + 1), before.ending.isFatal = false) :
    Path Phase.IsFine session.Begins .ready previous.machine ∧
      report = step.perform previous.machine := by
  rw [session.run_eq_ite] at hprevious hreport hfatal
  split at hreport
  · next hok =>
    rw [if_pos hok] at hprevious hfatal
    rw [List.take_succ_cons, List.forall_mem_cons] at hfatal
    refine perform_of_getElem? session.sound_of_begins ?_ hstep hprevious hreport hfatal.2
    refine path_of_goesOn trivial (session.leaves_start _) ?_ (survives_of_isFatal hfatal.1)
    rw [hok]
    rfl
  · exact absurd hreport.symm (by simp)

/-- Starting the shell leaves the job table alone. -/
theorem start_ne_jobs : ∀ moment ∈ session.start.trace, ∀ change, moment.event ≠ .jobs change := by
  have hminor : PermitsMinor fun moment ↦ ∀ change, moment.event ≠ .jobs change := by
    refine ⟨fun moment hminor change hevent ↦ ?_⟩
    rw [hevent] at hminor
    cases hminor
  obtain ⟨-, -, -, -, news, htrace, hnews⟩ := ((Shell.emits_start hminor).bind fun _ ↦
    emits_pure Reply.ok) (session.initial.beginStep session.startScript) rfl
  have hall : session.start.trace = news ++ [] := htrace
  rw [hall, List.append_nil]
  intro moment hmem
  have hpermits := hnews moment hmem
  generalize ((Shell.start >>= fun _ ↦ pure Reply.ok : Routine Reply)
    (session.initial.beginStep session.startScript)).1 = outcome at hpermits
  exact hpermits.of_said fun _ _ _ ↦ nofun

end Session

/-- From when it is in a slot until it is removed, each job of a history stays in that slot, with
its numbers and its command line. -/
def Trace.KeepsJobs (history : Trace) : Prop :=
  ∀ after news past i job, history = after ++ (news ++ past) →
    (Trace.table past).at? i = some job →
      (∀ moment ∈ news, ∀ gone, moment.event = .jobs (.removed gone) → gone.pid ≠ job.pid) →
        ∃ state, (Trace.table (news ++ past)).at? i = some { job with state }

/-- A session in which a job goes through all of its states. -/
def wandering : Session where
  steps := [⟨.line "nap", { batches := [[.child 1001 (.stopped 20)]] }⟩, ⟨.line "bg %1", {}⟩,
    ⟨.line "fg %1", { batches := [[.child 1001 (.exited 0)]] }⟩]

-- Every kind of step in the life of a job occurs.
example : [.jobs (.added ⟨1, 1001, .foreground, "nap"⟩),
    .jobs (.restated ⟨1, 1001, .stopped, "nap"⟩), .jobs (.restated ⟨1, 1001, .background, "nap"⟩),
    .jobs (.restated ⟨1, 1001, .foreground, "nap"⟩),
    .jobs (.removed ⟨1, 1001, .foreground, "nap"⟩)].isSublist wandering.history.events = true := by
  decide +kernel

end JobShell
