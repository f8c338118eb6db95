import JobShell.Proofs.Path.Session
import JobShell.Proofs.Table.Views

/-!
# The job table along a path

Each change of the job table is one of the table's own operations, so whatever these keep holds
along a path. In a session that is that the numbers in the table are in order and that all ways to
look at it agree. Hence a job that is named in any way is the only one that is.
-/

namespace JobShell

/-! ### Jobs that are named -/

namespace JobSpec

/-- The specification is one of the job's numbers. -/
def Names : JobSpec → Job → Prop
  | job id, named => named.id = id
  | process pid, named => named.pid = pid

/-- What is said of a specification that names no job. -/
def unknown : JobSpec → Error
  | job id => .of (.noSuchJob s!"%{id}")
  | process pid => .of (.noSuchProcess s!"{pid}")

end JobSpec

namespace JobTable

variable {table : JobTable} {spec : JobSpec} {job : Job}

/-- What a specification is answered with has the number that it gives. -/
theorem names_of_resolve (h : table.resolve spec = .ok job) : spec.Names job := by
  cases spec with
  | job id =>
    cases hfind : table.byId? id with
    | none =>
      rw [resolve, hfind] at h
      cases h
    | some found =>
      rw [resolve, hfind] at h
      obtain rfl := Except.ok.inj h
      unfold byId? at hfind
      split at hfind
      · cases hfind
      · have hsome := List.find?_some hfind
        exact beq_iff_eq.1 hsome
  | process pid =>
    cases hfind : table.byPid? pid with
    | none =>
      rw [resolve, hfind] at h
      cases h
    | some found =>
      rw [resolve, hfind] at h
      obtain rfl := Except.ok.inj h
      exact (mem_jobs_of_byPid? hfind).2

/-- A job that was named and then given another state is named still. -/
theorem names_of_setState {table' : JobTable} {changed : Job} {newState : JobState}
    (h : table.resolve spec = .ok job)
    (hset : table.setState job.pid newState = some (changed, table'))
    (hnodup : table'.pids.Nodup) : spec.Names changed := by
  rw [pids_setState hset] at hnodup
  obtain ⟨-, -, old, before, after, rfl, hpid, hjobs, -⟩ := exists_of_setState hset
  have hold : old ∈ table.jobs := by
    rw [hjobs]
    exact List.mem_append_right _ List.mem_cons_self
  obtain rfl : old = job := List.inj_on_of_nodup_map hnodup hold (mem_jobs_of_resolve h) hpid
  have hnames := names_of_resolve h
  cases spec <;> exact hnames

namespace ViewsAgree

/-- A job is found under each of its numbers. -/
theorem resolve_of_names (h : table.ViewsAgree) (hjob : job ∈ table.jobs)
    (hnames : spec.Names job) : table.resolve spec = .ok job := by
  obtain ⟨-, -, hprocess, hid⟩ := h.listed job hjob
  cases spec with
  | job id =>
    obtain rfl : job.id = id := hnames
    exact hid
  | process pid =>
    obtain rfl : job.pid = pid := hnames
    exact hprocess

/-- The answer for a number that no job has says so. -/
theorem resolve_of_not_names (h : table.ViewsAgree)
    (hnone : ∀ job ∈ table.jobs, ¬spec.Names job) : table.resolve spec = .error spec.unknown := by
  cases spec with
  | job id => exact (h.unlisted_id id hnone).2
  | process pid => exact (h.unlisted_pid pid hnone).2

end ViewsAgree

end JobTable

/-! ### Tables along a path -/

/-- Whatever changes the table, it is one of the table's own operations. -/
theorem Rewrite.exists_follows {p p' : Phase} {s : State} {change : JobChange} {table : JobTable}
    (h : Rewrite p s change table p') : ∃ operation, s.jobs.Follows operation table := by
  cases h with
  | learned site hlearn =>
    rcases JobTable.exists_of_learn? hlearn with ⟨pid, gone, -, -, hremove⟩ |
      ⟨pid, stopped, -, -, hset⟩
    · exact ⟨_, .remove hremove⟩
    · exact ⟨_, .setState hset⟩
  | foreground hset => exact ⟨_, .setState hset⟩
  | background hset => exact ⟨_, .setState hset⟩
  | add previous hne hadd => exact ⟨_, .add hadd⟩

/-- So the numbers in the table stay in order, from wherever they are at the start. -/
theorem Path.wellFormed {again : Phase → Prop} {start : Machine → Prop} {p : Phase} {m : Machine}
    (h : Path again start p m) (hstart : ∀ m, start m → m.state.jobs.WellFormed) :
    m.state.jobs.WellFormed := by
  induction h with
  | start h => exact hstart _ h
  | move _ hmove ih =>
    rcases hmove.jobs_cases with ⟨hsame, -⟩ | ⟨change, table, hrewrite, rfl, -⟩
    · rw [hsame]
      exact ih
    · obtain ⟨operation, hfollows⟩ := hrewrite.exists_follows
      exact ih.follows hfollows
  | again _ _ ih => exact ih

namespace Session

variable {session : Session} {again : Phase → Prop} {p : Phase} {m : Machine}

/-- A session starts with an empty table. -/
theorem wellFormed_of_path (h : Path again session.Begins p m) : m.state.jobs.WellFormed := by
  refine h.wellFormed fun m hm ↦ ?_
  rw [show m = session.initial from hm]
  exact JobTable.wellFormed_empty

/-- All ways to look up a job agree in a session, as it never adds a process twice. -/
theorem viewsAgree_of_path (h : Path again session.Begins p m) : m.state.jobs.ViewsAgree :=
  JobTable.viewsAgree (wellFormed_of_path h) (h.sound session.sound_of_begins).state.nodup

theorem actsOnOneSlot_of_path (h : Path again session.Begins p m) :
    m.state.jobs.ActsOnOneSlot :=
  JobTable.actsOnOneSlot (wellFormed_of_path h) (h.sound session.sound_of_begins).state.nodup

end Session

end JobShell
