import JobShell.Proofs.Table.Ids

/-!
# Ways to look at a job table

A job of the table is listed, found by its process id, found by its job id, and named by either
specification. These are five searches of the same slots, and each takes the first match. They agree
because no two jobs share an id and, as long as no process is added that has a job already, none
share a process either. Every operation that succeeds rewrites a single slot (`Rewrites`), so the
other jobs keep their places and the order in which they are listed.
-/

namespace JobShell

namespace TableOperation

/-- The operation adds no process that has a job in the table. -/
def IsFresh (table : JobTable) : TableOperation → Prop
  | add pid _ _ => pid ∉ table.pids
  | remove _ | setState _ _ => True

instance (table : JobTable) : (operation : TableOperation) → Decidable (operation.IsFresh table)
  | add pid _ _ => inferInstanceAs (Decidable (pid ∉ table.pids))
  | remove _ | setState _ _ => inferInstanceAs (Decidable True)

end TableOperation

namespace JobTable

variable {table table' : JobTable} {job : Job} {pid : Pid} {state : JobState}
  {commandLine : String}

/-- No operation adds a process that has a job in the table at that time. -/
def AddsFresh (table : JobTable) (operations : List TableOperation) : Prop :=
  table.Throughout (fun table operation ↦ operation.IsFresh table) operations

instance (table : JobTable) (operations : List TableOperation) :
    Decidable (table.AddsFresh operations) :=
  inferInstanceAs (Decidable (Throughout _ table operations))

/-! ### Searches -/

/-- The slot of a job's process is the job's. -/
theorem exists_slotOf?_of_mem (hpositive : ∀ job ∈ table.jobs, 1 ≤ job.pid)
    (hnodup : table.pids.Nodup) (hjob : job ∈ table.jobs) :
    ∃ i < maxJobs, table.slotOf? job.pid = some i ∧ table.at? i = some job := by
  cases hslot : table.slotOf? job.pid with
  | none =>
    rcases slotOf?_eq_none_iff.1 hslot with hlt | hnot
    · exact absurd (hpositive job hjob) (Int.not_le.2 hlt)
    · exact absurd (List.mem_map_of_mem hjob) hnot
  | some i =>
    obtain ⟨hi, -, found, hat, hpid, -⟩ := exists_of_slotOf? hslot
    have hsame := List.inj_on_of_nodup_map hnodup (mem_jobs_of_at? hi hat) hjob hpid
    exact ⟨i, hi, rfl, hsame ▸ hat⟩

/-! ### One slot -/

/-- Slot `i` held `old` and holds `new`, and every other slot is as it was. -/
structure Rewrites (table table' : JobTable) (i : Nat) (old new : Option Job) : Prop where
  lt : i < maxJobs
  old : table.at? i = old
  new : table'.at? i = new
  rest : ∀ j, j ≠ i → table'.at? j = table.at? j

theorem rewrites_setSlot {i : Nat} {old : Option Job} (h : i < maxJobs)
    (hold : table.at? i = old) (new : Option Job) :
    table.Rewrites (table.setSlot i new) i old new :=
  ⟨h, hold, table.at?_setSlot_self h new, fun _ hne ↦ table.at?_setSlot_of_ne new hne⟩

/-- The first job of process `pid` is `job`, in slot `i`. -/
structure HoldsFirst (table : JobTable) (pid : Pid) (i : Nat) (job : Job) : Prop where
  at? : table.at? i = some job
  pid_eq : job.pid = pid
  before : ∀ j < i, ∀ other, table.at? j = some other → other.pid ≠ pid

/-- The search for the slot of a process stops at its first job. -/
theorem exists_holdsFirst {i : Nat} (h : table.slotOf? pid = some i) :
    i < maxJobs ∧ ∃ job, table.HoldsFirst pid i job := by
  obtain ⟨hlt, -, job, hat, hpid, hbefore⟩ := exists_of_slotOf? h
  refine ⟨hlt, job, hat, hpid, fun j hj other hother ↦ hbefore other ?_⟩
  have hlength : j < table.slots.length := by
    rw [table.length_slots]
    exact Nat.lt_trans hj hlt
  rw [at?_eq_getElem hlength] at hother
  exact List.mem_filterMap.2 ⟨_, List.mem_take_iff_getElem.2 ⟨j, by omega, hother⟩, rfl⟩

/-- There is nothing past the last slot. -/
theorem lt_of_at? {i : Nat} (h : table.at? i = some job) : i < maxJobs := by
  have hslot : table.slots[i]? = some (some job) := Option.join_eq_some_iff.1 h
  rw [← table.length_slots]
  exact (List.getElem?_eq_some_iff.1 hslot).1

/-- A process that no operation finds has no job in any slot. -/
theorem pid_ne_of_at? (hpid : 1 ≤ pid) (hnone : pid < 1 ∨ pid ∉ table.pids) {i : Nat}
    (hat : table.at? i = some job) : job.pid ≠ pid := by
  rintro rfl
  rcases hnone with hneg | hnot
  · exact absurd hpid (Int.not_le.2 hneg)
  · exact hnot (List.mem_map_of_mem (mem_jobs_of_at? (lt_of_at? hat) hat))

/-- A new job is put into the lowest free slot. -/
theorem rewrites_of_add (h : table.add pid state commandLine = .ok (job, table')) :
    ∃ i, table.Rewrites table' i none (some job) ∧ ∀ j < i, (table.at? j).isSome = true := by
  unfold add at h
  split at h
  · cases h
  · split at h
    · cases h
    · next i hi =>
      obtain ⟨hlt, hfree, hbefore⟩ := List.findIdx?_eq_some_iff_getElem.1 hi
      obtain ⟨rfl, rfl⟩ := Prod.mk.inj (Except.ok.inj h)
      have hmax : i < maxJobs := by rwa [← table.length_slots]
      have hnone : table.at? i = none := by
        rw [at?_eq_getElem hlt]
        exact Option.isNone_iff_eq_none.1 hfree
      obtain ⟨-, -, hnew, hrest⟩ := rewrites_setSlot hmax hnone (some _)
      refine ⟨i, ⟨hmax, hnone, hnew, hrest⟩, fun j hj ↦ ?_⟩
      rw [at?_eq_getElem (Nat.lt_trans hj hlt), Option.isSome_iff_ne_none]
      simpa using hbefore j hj

/-- The job that is removed is the first one of its process. It leaves a free slot. -/
theorem rewrites_of_remove (h : table.remove pid = some (job, table')) :
    ∃ i, table.Rewrites table' i (some job) none ∧ table.HoldsFirst pid i job := by
  unfold remove at h
  split at h
  · cases h
  · next i hi =>
    obtain ⟨hlt, found, hfirst⟩ := exists_holdsFirst hi
    rw [hfirst.at?] at h
    obtain ⟨rfl, rfl⟩ := Prod.mk.inj (Option.some.inj h)
    obtain ⟨-, -, hnew, hrest⟩ := rewrites_setSlot hlt hfirst.at? none
    exact ⟨i, ⟨hlt, hfirst.at?, hnew, hrest⟩, hfirst⟩

/-- The job whose state is set is the first one of its process. It stays in its slot. -/
theorem rewrites_of_setState (h : table.setState pid state = some (job, table')) :
    ∃ i old, table.Rewrites table' i (some old) (some job) ∧ table.HoldsFirst pid i old ∧
      job = { old with state } := by
  unfold setState at h
  split at h
  · cases h
  · next i hi =>
    obtain ⟨hlt, old, hfirst⟩ := exists_holdsFirst hi
    rw [hfirst.at?] at h
    obtain ⟨rfl, rfl⟩ := Prod.mk.inj (Option.some.inj h)
    exact ⟨i, old, rewrites_setSlot hlt hfirst.at? _, hfirst, rfl⟩

/-! ### Jobs that stay -/

variable {operation : TableOperation} {operations : List TableOperation} {i : Nat}

/-- A job that is not removed keeps its slot and all but its state, and its state unless that is
set. -/
theorem Follows.at?_eq (h : table.Follows operation table') (hat : table.at? i = some job)
    (hkeep : operation ≠ .remove job.pid) :
    ∃ state, table'.at? i = some { job with state } ∧
      ((∀ newState, operation ≠ .setState job.pid newState) → state = job.state) := by
  have hsame : table'.at? i = table.at? i → ∃ state, table'.at? i = some { job with state } ∧
      ((∀ newState, operation ≠ .setState job.pid newState) → state = job.state) :=
    fun heq ↦ ⟨job.state, heq.trans hat, fun _ ↦ rfl⟩
  cases h with
  | add hadd =>
    obtain ⟨k, hrewrites, -⟩ := rewrites_of_add hadd
    refine hsame (hrewrites.rest i ?_)
    rintro rfl
    cases hat.symm.trans hrewrites.old
  | remove hremove =>
    obtain ⟨k, hrewrites, hfirst⟩ := rewrites_of_remove hremove
    refine hsame (hrewrites.rest i ?_)
    rintro rfl
    obtain rfl := Option.some.inj (hat.symm.trans hrewrites.old)
    exact hkeep (congrArg TableOperation.remove hfirst.pid_eq.symm)
  | @setState pid newState changed _ hset =>
    obtain ⟨k, old, hrewrites, hfirst, rfl⟩ := rewrites_of_setState hset
    by_cases hi : i = k
    · subst hi
      obtain rfl := Option.some.inj (hat.symm.trans hrewrites.old)
      exact ⟨newState, hrewrites.new, fun hnot ↦ absurd (by rw [hfirst.pid_eq]) (hnot newState)⟩
    · exact hsame (hrewrites.rest i hi)
  | unchanged => exact hsame rfl

theorem at?_afterAll (hat : table.at? i = some job)
    (hkeep : TableOperation.remove job.pid ∉ operations) :
    ∃ state, (table.afterAll operations).at? i = some { job with state } ∧
      ((∀ newState, TableOperation.setState job.pid newState ∉ operations) →
        state = job.state) := by
  induction operations generalizing table job with
  | nil => exact ⟨job.state, hat, fun _ ↦ rfl⟩
  | cons operation operations ih =>
    obtain ⟨hfirst, hrest⟩ := List.ne_and_not_mem_of_not_mem_cons hkeep
    obtain ⟨state, hafter, hstate⟩ := (table.follows_after operation).at?_eq hat hfirst.symm
    obtain ⟨last, hlast, hlaststate⟩ := ih hafter hrest
    refine ⟨last, hlast, fun hnot ↦ ?_⟩
    rw [hlaststate fun newState hmem ↦ hnot newState (List.mem_cons_of_mem _ hmem)]
    exact hstate fun newState heq ↦ hnot newState (heq ▸ List.mem_cons_self)

/-- An operation leaves the order of the jobs that it neither adds nor removes. -/
theorem Follows.filter_pids (h : table.Follows operation table') (hfresh : operation.IsFresh table)
    {kept : Pid → Bool} (hin : ∀ pid, kept pid = true → pid ∈ table.pids)
    (hkeep : ∀ pid, kept pid = true → operation ≠ .remove pid) :
    table'.pids.filter kept = table.pids.filter kept := by
  have hdrop : ∀ {before after : List Job} {other : Job}, ¬kept other.pid = true →
      ((before ++ other :: after).map Job.pid).filter kept =
        ((before ++ after).map Job.pid).filter kept := by
    intro before after other hother
    rw [List.map_append, List.map_cons, List.filter_append, List.filter_cons_of_neg hother,
      List.map_append, List.filter_append]
  cases h with
  | add hadd =>
    obtain ⟨-, rfl, -, before, after, hjobs, hjobs'⟩ := exists_of_add hadd
    rw [pids, pids, hjobs, hjobs']
    exact hdrop fun hkept ↦ hfresh (hin _ hkept)
  | remove hremove =>
    obtain ⟨-, rfl, -, before, after, hjobs, hjobs', -⟩ := exists_of_remove hremove
    rw [pids, pids, hjobs, hjobs']
    exact (hdrop fun hkept ↦ hkeep _ hkept rfl).symm
  | setState hset => rw [pids_setState hset]
  | unchanged => rfl

theorem filter_pids_afterAll (h : table.AddsFresh operations) {kept : Pid → Bool}
    (hkept : ∀ pid, kept pid = true → pid ∈ table.pids ∧ .remove pid ∉ operations) :
    (table.afterAll operations).pids.filter kept = table.pids.filter kept := by
  induction operations generalizing table with
  | nil => rfl
  | cons operation operations ih =>
    obtain ⟨hfresh, hrest⟩ := h
    have hfirst : (table.after operation).pids.filter kept = table.pids.filter kept :=
      (table.follows_after operation).filter_pids hfresh (fun pid hpid ↦ (hkept pid hpid).1)
        fun pid hpid heq ↦ (hkept pid hpid).2 (heq ▸ List.mem_cons_self)
    rw [← hfirst]
    refine ih hrest fun pid hpid ↦ ⟨?_, fun hmem ↦ ?_⟩
    · have hmem : pid ∈ table.pids.filter kept := List.mem_filter.2 ⟨(hkept pid hpid).1, hpid⟩
      rw [← hfirst] at hmem
      exact (List.mem_filter.1 hmem).1
    · exact (hkept pid hpid).2 (List.mem_cons_of_mem _ hmem)

/-! ### Tables to which only fresh processes were added -/

theorem Follows.nodup_pids (h : table.Follows operation table') (hfresh : operation.IsFresh table)
    (hnodup : table.pids.Nodup) : table'.pids.Nodup := by
  cases h with
  | add hadd => exact nodup_pids_add hadd hnodup hfresh
  | remove hremove => exact nodup_pids_remove hremove hnodup
  | setState hset => rwa [pids_setState hset]
  | unchanged => exact hnodup

theorem nodup_pids_afterAll (h : table.AddsFresh operations) (hnodup : table.pids.Nodup) :
    (table.afterAll operations).pids.Nodup := by
  induction operations generalizing table with
  | nil => exact hnodup
  | cons operation operations ih =>
    exact ih h.2 ((table.follows_after operation).nodup_pids h.1 hnodup)

/-- The search by id finds the one job that has the id. -/
theorem WellFormed.byId?_of_mem {job : Job} (h : table.WellFormed) (hjob : job ∈ table.jobs) :
    table.byId? job.id = some job := by
  have hsome : (table.jobs.find? fun other ↦ other.id == job.id).isSome = true :=
    List.find?_isSome.2 ⟨job, hjob, beq_self_eq_true _⟩
  obtain ⟨found, hfound⟩ := Option.isSome_iff_exists.1 hsome
  have hsame : found.id = job.id := by simpa using List.find?_some hfound
  rw [byId?, if_neg (Nat.not_lt.2 (h.id_mem job hjob).1), hfound,
    List.inj_on_of_nodup_map h.nodup_ids (List.mem_of_find?_eq_some hfound) hjob hsame]

/-- Every way to look up a job finds the jobs that are listed, and no others. -/
structure ViewsAgree (table : JobTable) : Prop where
  /-- A job that is listed is found by each of its numbers and named by either specification. -/
  listed : ∀ job ∈ table.jobs, table.byPid? job.pid = some job ∧ table.byId? job.id = some job ∧
    table.resolve (.process job.pid) = .ok job ∧ table.resolve (.job job.id) = .ok job
  /-- Nothing is found for a process of which no job is listed. -/
  unlisted_pid : ∀ pid, (∀ job ∈ table.jobs, job.pid ≠ pid) → table.byPid? pid = none ∧
    table.resolve (.process pid) = .error (.of (.noSuchProcess s!"{pid}"))
  /-- Nothing is found for an id that no job listed has. -/
  unlisted_id : ∀ id, (∀ job ∈ table.jobs, job.id ≠ id) → table.byId? id = none ∧
    table.resolve (.job id) = .error (.of (.noSuchJob s!"%{id}"))

theorem viewsAgree (h : table.WellFormed) (hnodup : table.pids.Nodup) : table.ViewsAgree where
  listed := by
    intro job hjob
    obtain ⟨i, -, hslot, hat⟩ := exists_slotOf?_of_mem h.pid_pos hnodup hjob
    have hpid : table.byPid? job.pid = some job := by rw [byPid?, hslot, Option.bind_some, hat]
    have hid := h.byId?_of_mem hjob
    exact ⟨hpid, hid, by simp only [resolve, hpid], by simp only [resolve, hid]⟩
  unlisted_pid := by
    intro pid hnot
    have hnone : table.byPid? pid = none := by
      refine Option.eq_none_iff_forall_not_mem.2 fun job hjob ↦ ?_
      obtain ⟨hmem, hpid⟩ := mem_jobs_of_byPid? hjob
      exact hnot job hmem hpid
    exact ⟨hnone, by simp only [resolve, hnone]⟩
  unlisted_id := by
    intro id hnot
    have hnone : table.byId? id = none := by
      unfold byId?
      split
      · rfl
      · exact List.find?_eq_none.2 fun job hjob heq ↦ hnot job hjob (by simpa using heq)
    refine ⟨hnone, ?_⟩
    simp only [resolve, hnone]
    rfl

/-- Each operation acts on a single slot: a new job takes the lowest one that is free, and a job
that is removed or whose state is set is the one of the process that is named. -/
structure ActsOnOneSlot (table : JobTable) : Prop where
  add : ∀ pid state commandLine, 1 ≤ pid → table.size < maxJobs → ∃ id table' i,
    table.add pid state commandLine = .ok (⟨id, pid, state, commandLine⟩, table') ∧
      table.Rewrites table' i none (some ⟨id, pid, state, commandLine⟩) ∧
        ∀ j < i, (table.at? j).isSome = true
  remove : ∀ job ∈ table.jobs, ∃ table' i, table.remove job.pid = some (job, table') ∧
    table.Rewrites table' i (some job) none
  setState : ∀ job ∈ table.jobs, ∀ state, ∃ table' i,
    table.setState job.pid state = some ({ job with state }, table') ∧
      table.Rewrites table' i (some job) (some { job with state }) ∧ table'.nextId = table.nextId
  unlisted : ∀ pid, (∀ job ∈ table.jobs, job.pid ≠ pid) →
    table.remove pid = none ∧ ∀ state, table.setState pid state = none

theorem actsOnOneSlot (h : table.WellFormed) (hnodup : table.pids.Nodup) :
    table.ActsOnOneSlot where
  add := by
    intro pid state commandLine hpid hsize
    obtain ⟨job, table', hadd⟩ := exists_add_iff.2 ⟨hpid, hsize⟩
    obtain ⟨-, rfl, -⟩ := exists_of_add hadd
    obtain ⟨i, hrewrites, hlowest⟩ := rewrites_of_add hadd
    exact ⟨_, table', i, hadd, hrewrites, hlowest⟩
  remove := by
    intro job hjob
    obtain ⟨i, hi, hslot, hat⟩ := exists_slotOf?_of_mem h.pid_pos hnodup hjob
    have hremove := remove_of_slotOf? hslot hat
    obtain ⟨-, -, hnew, hrest⟩ := rewrites_setSlot hi hat none
    exact ⟨_, i, hremove, hi, hat, hnew, hrest⟩
  setState := by
    intro job hjob state
    obtain ⟨i, hi, hslot, hat⟩ := exists_slotOf?_of_mem h.pid_pos hnodup hjob
    exact ⟨_, i, setState_of_slotOf? hslot hat state, rewrites_setSlot hi hat _, rfl⟩
  unlisted := by
    intro pid hnot
    have hpid : pid ∉ table.pids := by
      rintro hmem
      obtain ⟨job, hjob, heq⟩ := List.mem_map.1 hmem
      exact hnot job hjob heq
    exact ⟨remove_eq_none_iff.2 (.inr hpid), fun state ↦ setState_eq_none_iff.2 (.inr hpid)⟩

/-- **All ways to look at a table agree.** Take a new table after any operations none of which added
a process that had a job at that time. A job that is listed is found by its process id and by its
job id and named by both specifications, and nothing is found for any other number. A new job takes
the lowest free slot, and a job is removed, or its state set, by the process id that it alone has,
where all other slots stay as they are. So whatever is done later, a job that is not removed keeps
its slot, and everything but its state, and the jobs that are left are listed in the same order. -/
theorem views_agree_after_any {operations : List TableOperation} (h : empty.AddsFresh operations) :
    let table := empty.afterAll operations
    table.ViewsAgree ∧ table.ActsOnOneSlot ∧
      ∀ more, table.AddsFresh more →
        (∀ i job, table.at? i = some job → TableOperation.remove job.pid ∉ more → ∃ state,
          (table.afterAll more).at? i = some { job with state } ∧
            ((∀ newState, TableOperation.setState job.pid newState ∉ more) →
              state = job.state)) ∧
        ∀ kept : Pid → Bool,
          (∀ pid, kept pid = true → pid ∈ table.pids ∧ TableOperation.remove pid ∉ more) →
            (table.afterAll more).pids.filter kept = table.pids.filter kept := by
  intro table
  have hwellFormed : table.WellFormed := wellFormed_empty.afterAll operations
  have hnodup : table.pids.Nodup := nodup_pids_afterAll h List.nodup_nil
  refine ⟨viewsAgree hwellFormed hnodup, actsOnOneSlot hwellFormed hnodup, fun more hmore ↦ ?_⟩
  exact ⟨fun i job hat hkeep ↦ at?_afterAll hat hkeep,
    fun kept hkept ↦ filter_pids_afterAll hmore hkept⟩

/-- A table in use: the first of three jobs leaves, and its slot is taken by a fourth one. -/
def churning : List TableOperation :=
  [.add 300 .background "a &", .add 200 .background "b &", .add 100 .foreground "c", .remove 300,
    .add 400 .background "d &", .setState 100 .stopped, .add 0 .background "e &", .remove 999]

/-- What is done to it later: another job leaves, and its slot is taken too. -/
def churningOn : List TableOperation :=
  [.remove 200, .add 500 .background "f &", .setState 400 .foreground]

/-- The table is listed in slot order, which is neither that of the ids nor that of the process ids,
and its last job stays where it is. -/
theorem views_agree_churning :
    empty.AddsFresh churning ∧ (empty.afterAll churning).AddsFresh churningOn ∧
      (empty.afterAll churning).jobs = [⟨4, 400, .background, "d &"⟩, ⟨2, 200, .background, "b &"⟩,
        ⟨3, 100, .stopped, "c"⟩] ∧
      (empty.afterAll churning).ViewsAgree ∧ (empty.afterAll churning).ActsOnOneSlot ∧
      ((empty.afterAll churning).afterAll churningOn).at? 2 = some ⟨3, 100, .stopped, "c"⟩ ∧
      ((empty.afterAll churning).afterAll churningOn).pids.filter (fun pid ↦ pid ∈ [100, 400]) =
        (empty.afterAll churning).pids.filter fun pid ↦ pid ∈ [100, 400] := by
  have hfresh : empty.AddsFresh churning := by decide +kernel
  have hlater : (empty.afterAll churning).AddsFresh churningOn := by decide +kernel
  obtain ⟨hviews, hacts, hstay⟩ := views_agree_after_any hfresh
  obtain ⟨hslots, horder⟩ := hstay churningOn hlater
  obtain ⟨state, hat, hstate⟩ := hslots 2 ⟨3, 100, .stopped, "c"⟩ (by decide +kernel)
    (by simp [churningOn])
  obtain rfl := hstate (by simp [churningOn])
  refine ⟨hfresh, hlater, by decide +kernel, hviews, hacts, hat, horder _ fun pid hpid ↦ ?_⟩
  rcases (by simpa using hpid : pid = 100 ∨ pid = 400) with rfl | rfl
  · exact ⟨by decide +kernel, by simp [churningOn]⟩
  · exact ⟨by decide +kernel, by simp [churningOn]⟩

-- Nothing keeps a process from having two jobs in a table, and then the second one is not found.
example : ((empty.afterAll [.add 7 .background "a &", .add 7 .background "b &"]).byPid? 7).map
    Job.commandLine = some "a &" := by decide +kernel

end JobTable

end JobShell
