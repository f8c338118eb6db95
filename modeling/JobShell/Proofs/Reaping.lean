import JobShell.Proofs.Rules.Drain
import JobShell.Proofs.Table.Shape

/-!
# What statuses do to the job table

A status is about the job in the slot of its process. It empties that slot or rewrites the job in
it, and if it empties the slot, the next id is counted anew from the jobs that are left. So what two
statuses do that are about different processes does not depend on their order: they change different
slots, neither search sees the other's change, and the ids that are left at the end are the same.
-/

namespace JobShell

/-- The process that a status is about. -/
def WaitStatus.pid : WaitStatus → Pid
  | exited pid _ | signaled pid _ | stopped pid _ | continued pid | traced pid => pid

/-- What a status leaves in the slot of its job. -/
def WaitStatus.leaves (job : Job) : WaitStatus → Option Job
  | exited _ _ | signaled _ _ => none
  | stopped _ _ => some { job with state := .stopped }
  | continued _ | traced _ => some job

/-- What is left of a job keeps its names. -/
theorem WaitStatus.of_leaves {status : WaitStatus} {job left : Job}
    (h : status.leaves job = some left) : left.pid = job.pid ∧ left.id = job.id := by
  cases status with
  | stopped => exact Option.some.inj h ▸ ⟨rfl, rfl⟩
  | continued => exact Option.some.inj h ▸ ⟨rfl, rfl⟩
  | traced => exact Option.some.inj h ▸ ⟨rfl, rfl⟩
  | _ => cases h

namespace JobTable

variable {table table' : JobTable} {pid other : Pid} {i j : Nat} {job : Job}

/-- The slot holds a job of process `pid`. -/
def holds (pid : Pid) (slot : Option Job) : Bool := slot.any fun job ↦ job.pid == pid

/-! ### Slots -/

/-- A table is its slots and its next id. -/
theorem ext_slots (hslots : table.slots = table'.slots) (hnext : table.nextId = table'.nextId) :
    table = table' := by
  cases table
  cases table'
  cases hslots
  cases hnext
  rfl

/-- A search finds the same after a change that it does not notice. -/
theorem findIdx?_set {α : Type} {p : α → Bool} {xs : List α} {x : α} (hj : j < xs.length)
    (h : p x = p xs[j]) : (xs.set j x).findIdx? p = xs.findIdx? p := by
  have hmap : (xs.set j x).map p = xs.map p := by
    have hlength : j < (xs.map p).length := by rwa [List.length_map]
    have hself : (xs.map p).set j (xs.map p)[j] = xs.map p := List.set_getElem_self hlength
    rwa [List.getElem_map, ← h, ← List.map_set] at hself
  have hfind : ∀ xs : List α, xs.findIdx? p = (xs.map p).findIdx? id := by
    intro xs
    rw [List.findIdx?_map, Function.id_comp]
  rw [hfind, hmap, ← hfind]

/-- Changing the slot of one process does not mislead the search for another. -/
theorem slotOf?_setSlot {slot : Option Job} (h : table.slotOf? other = some j) (hne : pid ≠ other)
    (hslot : ∀ job, slot = some job → job.pid = other) :
    (table.setSlot j slot).slotOf? pid = table.slotOf? pid := by
  obtain ⟨hj, -, job, hat, hpid, -⟩ := exists_of_slotOf? h
  have hlength : j < table.slots.length := by rwa [table.length_slots]
  have hold : holds pid table.slots[j] = false := by
    rw [← at?_eq_getElem hlength, hat]
    simp [holds, hpid, hne.symm]
  have hnew : holds pid slot = false := by
    cases slot with
    | none => rfl
    | some changed => simp [holds, hslot changed rfl, hne.symm]
  show (if pid < 1 then none else (table.slots.set j slot).findIdx? (holds pid)) =
    if pid < 1 then none else table.slots.findIdx? (holds pid)
  rw [findIdx?_set hlength (hnew.trans hold.symm)]

theorem setSlot_comm {slot slot' : Option Job} (h : i ≠ j) :
    (table.setSlot i slot).setSlot j slot' = (table.setSlot j slot').setSlot i slot :=
  ext_slots (List.set_comm slot slot' h) rfl

theorem setSlot_at? (hi : i < maxJobs) : table.setSlot i (table.at? i) = table := by
  have hlength : i < table.slots.length := by rwa [table.length_slots]
  refine ext_slots ?_ rfl
  show table.slots.set i (table.at? i) = table.slots
  rw [at?_eq_getElem hlength, List.set_getElem_self]

/-- The greatest id stays the same when a job is rewritten and keeps its id. -/
theorem greatestId_setSlot {changed : Job} (hi : i < maxJobs) (hat : table.at? i = some job)
    (hid : changed.id = job.id) :
    (table.setSlot i (some changed)).greatestId = table.greatestId := by
  obtain ⟨hjobs, hset⟩ := table.jobs_setSlot hi
  unfold greatestId
  rw [hset, hjobs, hat]
  simp [List.foldl_append, hid]

/-! ### One status -/

/-- The table after a status. -/
def learned (table : JobTable) (status : WaitStatus) : JobTable :=
  ((table.learn? status).map Prod.snd).getD table

/-- What a status prints: the end of a job by a signal, or that it was stopped. -/
def notice? (table : JobTable) : WaitStatus → Option String
  | .signaled pid signal => ((table.byPid? pid).map Job.names).map fun names ↦
    s!"Job {names} terminated by signal {signal.number}\n"
  | .stopped pid signal => ((table.byPid? pid).map Job.names).map fun names ↦
    s!"Job {names} stopped by signal {signal.number}\n"
  | .exited _ _ | .continued _ | .traced _ => none

/-- A status adds no job. -/
theorem pids_learned_sublist (table : JobTable) (status : WaitStatus) :
    (table.learned status).pids.Sublist table.pids := by
  cases hlearn : table.learn? status with
  | none =>
    rw [learned, hlearn]
    exact List.Sublist.refl _
  | some learnt =>
    obtain ⟨change, table'⟩ := learnt
    rw [learned, hlearn]
    show table'.pids.Sublist table.pids
    rcases exists_of_learn? hlearn with ⟨pid, job, -, -, hremove⟩ | ⟨pid, job, -, -, hset⟩
    · obtain ⟨-, -, -, before, after, hjobs, hjobs', -⟩ := exists_of_remove hremove
      rw [pids, pids, hjobs, hjobs']
      exact ((List.sublist_cons_self job after).append_left before).map Job.pid
    · rw [pids_setState hset]

/-- The job that is removed is the one that a search finds. -/
theorem byPid?_eq_remove : table.byPid? pid = (table.remove pid).map Prod.fst := by
  unfold byPid? remove
  cases table.slotOf? pid with
  | none => rfl
  | some i => simp [Option.map_map, Function.comp_def]

/-- The job that changes its state is the one that a search finds, and keeps its names. -/
theorem byPid?_eq_setState (state : JobState) : (table.byPid? pid).map Job.names =
    (table.setState pid state).map fun restated ↦ restated.1.names := by
  unfold byPid? setState
  cases table.slotOf? pid with
  | none => rfl
  | some i =>
    rw [Option.bind_some, Option.map_map]
    rfl

/-- A status about a process without a job changes nothing. -/
theorem learned_of_slotOf?_eq_none {status : WaitStatus} (h : table.slotOf? status.pid = none) :
    table.learned status = table := by
  have hremove : table.remove status.pid = none := by simp [remove, h]
  have hset : table.setState status.pid .stopped = none := by simp [setState, h]
  unfold learned
  cases status with
  | exited pid code => rw [learn?, show table.remove pid = none from hremove]; rfl
  | signaled pid signal => rw [learn?, show table.remove pid = none from hremove]; rfl
  | stopped pid signal => rw [learn?, show table.setState pid .stopped = none from hset]; rfl
  | continued pid => rfl
  | traced pid => rfl

/-- A status about a job changes its slot, and the next id if the job has ended. -/
theorem learned_of_slotOf?_eq_some {status : WaitStatus} (h : table.slotOf? status.pid = some i)
    (hat : table.at? i = some job) :
    table.learned status = if status.ended? = none then table.setSlot i (status.leaves job)
      else (table.setSlot i (status.leaves job)).renumbered := by
  have hsame : table.setSlot i (some job) = table := by
    rw [← hat]
    exact setSlot_at? (exists_of_slotOf? h).1
  have hremove := remove_of_slotOf? h hat
  have hset := setState_of_slotOf? h hat .stopped
  unfold learned
  cases status with
  | exited pid code => rw [learn?, show table.remove pid = _ from hremove]; rfl
  | signaled pid signal => rw [learn?, show table.remove pid = _ from hremove]; rfl
  | stopped pid signal => rw [learn?, show table.setState pid .stopped = _ from hset]; rfl
  | continued pid => exact hsame.symm
  | traced pid => exact hsame.symm

/-! ### Two statuses -/

variable {status status' : WaitStatus}

theorem ne_of_slotOf? (h : table.slotOf? pid = some i) (h' : table.slotOf? other = some j)
    (hne : pid ≠ other) : i ≠ j := by
  obtain ⟨-, -, job, hat, hpid, -⟩ := exists_of_slotOf? h
  obtain ⟨-, -, job', hat', hpid', -⟩ := exists_of_slotOf? h'
  rintro rfl
  obtain rfl := Option.some.inj (hat.symm.trans hat')
  exact hne (hpid.symm.trans hpid')

/-- A status does not touch what is known of another process. -/
theorem slotOf?_learned (table : JobTable) (h : pid ≠ status.pid) :
    (table.learned status).slotOf? pid = table.slotOf? pid := by
  cases hslot : table.slotOf? status.pid with
  | none => rw [learned_of_slotOf?_eq_none hslot]
  | some i =>
    obtain ⟨-, -, job, hat, hpid, -⟩ := exists_of_slotOf? hslot
    have hset : (table.setSlot i (status.leaves job)).slotOf? pid = table.slotOf? pid := by
      refine slotOf?_setSlot hslot h fun left hleft ↦ ?_
      rw [(WaitStatus.of_leaves hleft).1, hpid]
    rw [learned_of_slotOf?_eq_some hslot hat]
    split
    · exact hset
    · exact hset

theorem at?_learned (h : pid ≠ status.pid) (hi : table.slotOf? pid = some i) :
    (table.learned status).at? i = table.at? i := by
  cases hj : table.slotOf? status.pid with
  | none => rw [learned_of_slotOf?_eq_none hj]
  | some j =>
    obtain ⟨-, -, job, hat, -⟩ := exists_of_slotOf? hj
    have hset := at?_setSlot_of_ne table (status.leaves job) (ne_of_slotOf? hi hj h)
    rw [learned_of_slotOf?_eq_some hj hat]
    split
    · exact hset
    · exact hset

theorem byPid?_learned (table : JobTable) (h : pid ≠ status.pid) :
    (table.learned status).byPid? pid = table.byPid? pid := by
  unfold byPid?
  rw [slotOf?_learned table h]
  cases hi : table.slotOf? pid with
  | none => rfl
  | some i => exact at?_learned h hi

theorem notice?_learned (table : JobTable) (h : status'.pid ≠ status.pid) :
    (table.learned status).notice? status' = table.notice? status' := by
  have hsame := congrArg (Option.map Job.names) (byPid?_learned table h)
  cases status' with
  | signaled pid signal => exact congrArg (Option.map _) hsame
  | stopped pid signal => exact congrArg (Option.map _) hsame
  | _ => rfl

theorem greatestId_congr (h : table.slots = table'.slots) :
    table.greatestId = table'.greatestId := by
  unfold greatestId jobs
  rw [h]

theorem slots_learned (h : table.slotOf? status.pid = some i) (hat : table.at? i = some job) :
    (table.learned status).slots = table.slots.set i (status.leaves job) := by
  rw [learned_of_slotOf?_eq_some h hat]
  split <;> rfl

theorem nextId_learned (h : table.slotOf? status.pid = some i) (hat : table.at? i = some job) :
    (table.learned status).nextId = if status.ended? = none then table.nextId
      else wrapId ((table.setSlot i (status.leaves job)).greatestId + 1) := by
  rw [learned_of_slotOf?_eq_some h hat]
  split <;> rfl

/-- What another process's job leaves behind does not change the count of the next id, unless it is
gone. -/
theorem greatestId_setSlot_learned {slot : Option Job} (hij : i ≠ j)
    (h : table.slotOf? status.pid = some j) (hat : table.at? j = some job)
    (hended : status.ended? = none) :
    ((table.learned status).setSlot i slot).greatestId = (table.setSlot i slot).greatestId := by
  obtain ⟨left, hleft⟩ : ∃ left, status.leaves job = some left := by
    cases status with
    | exited => cases hended
    | signaled => cases hended
    | _ => exact ⟨_, rfl⟩
  have hrest : (table.setSlot i slot).at? j = some job := by
    rw [at?_setSlot_of_ne table slot hij.symm, hat]
  rw [← greatestId_setSlot (exists_of_slotOf? h).1 hrest (WaitStatus.of_leaves hleft).2, ← hleft,
    setSlot_comm hij]
  refine greatestId_congr ?_
  show (table.learned status).slots.set i slot = _
  rw [slots_learned h hat]
  rfl

/-- Statuses about different processes may be learned in either order. -/
theorem learned_comm (h : status.pid ≠ status'.pid) :
    (table.learned status).learned status' = (table.learned status').learned status := by
  have hslot := slotOf?_learned table h
  have hslot' := slotOf?_learned table h.symm
  cases hi : table.slotOf? status.pid with
  | none => rw [learned_of_slotOf?_eq_none hi, learned_of_slotOf?_eq_none (hslot.trans hi)]
  | some i =>
    cases hj : table.slotOf? status'.pid with
    | none => rw [learned_of_slotOf?_eq_none hj, learned_of_slotOf?_eq_none (hslot'.trans hj)]
    | some j =>
      have hij := ne_of_slotOf? hi hj h
      obtain ⟨-, -, job, hat, -⟩ := exists_of_slotOf? hi
      obtain ⟨-, -, job', hat', -⟩ := exists_of_slotOf? hj
      have hi' := hslot.trans hi
      have hj' := hslot'.trans hj
      have hat₁ := (at?_learned h hi).trans hat
      have hat₂ := (at?_learned h.symm hj).trans hat'
      have hslots : ((table.learned status).setSlot j (status'.leaves job')).slots =
          ((table.learned status').setSlot i (status.leaves job)).slots := by
        show (table.learned status).slots.set j _ = (table.learned status').slots.set i _
        rw [slots_learned hi hat, slots_learned hj hat', List.set_comm _ _ hij]
      refine ext_slots ?_ ?_
      · rw [slots_learned hj' hat₂, slots_learned hi' hat₁]
        exact hslots
      -- The next id is counted last after an end, from the same ids in either order.
      · rw [nextId_learned hj' hat₂, nextId_learned hi' hat₁, nextId_learned hi hat,
          nextId_learned hj hat']
        by_cases hended : status.ended? = none
        · rw [if_pos hended, if_pos hended]
          by_cases hended' : status'.ended? = none
          · rw [if_pos hended', if_pos hended']
          · rw [if_neg hended', if_neg hended',
              greatestId_setSlot_learned hij.symm hi hat hended]
        · rw [if_neg hended, if_neg hended]
          by_cases hended' : status'.ended? = none
          · rw [if_pos hended', greatestId_setSlot_learned hij hj hat' hended']
          · rw [if_neg hended', greatestId_congr hslots]

/-! ### Many statuses -/

/-- The table after statuses that are learned one after another. -/
def learnedAll (table : JobTable) (statuses : List WaitStatus) : JobTable :=
  statuses.foldl learned table

/-- What statuses print that are learned one after another. -/
def notices (table : JobTable) : List WaitStatus → List String
  | [] => []
  | status :: statuses => (table.notice? status).toList ++ (table.learned status).notices statuses

theorem pids_learnedAll_sublist (table : JobTable) (statuses : List WaitStatus) :
    (table.learnedAll statuses).pids.Sublist table.pids := by
  induction statuses generalizing table with
  | nil => exact List.Sublist.refl _
  | cons status statuses ih => exact (ih (table.learned status)).trans (pids_learned_sublist _ _)

open scoped List in
/-- A status may be learned before others that are about other processes. -/
theorem learnedAll_bubble {before : List WaitStatus} (after : List WaitStatus)
    (h : ∀ other ∈ before, other.pid ≠ status.pid) (table : JobTable) :
    table.learnedAll (before ++ status :: after) = table.learnedAll (status :: (before ++ after)) ∧
      (table.notices (before ++ status :: after)).Perm
        (table.notices (status :: (before ++ after))) := by
  induction before generalizing table with
  | nil => exact ⟨rfl, .refl _⟩
  | cons other before ih =>
    have hne : other.pid ≠ status.pid := h other List.mem_cons_self
    obtain ⟨htable, hnotices⟩ := ih (fun earlier hmem ↦ h earlier (List.mem_cons_of_mem _ hmem))
      (table.learned other)
    -- One after the other, `other` and `status` do the same in either order.
    have hswap : (table.learned other).learned status = (table.learned status).learned other :=
      learned_comm hne
    constructor
    · calc table.learnedAll (other :: before ++ status :: after)
          = ((table.learned other).learned status).learnedAll (before ++ after) := htable
        _ = ((table.learned status).learned other).learnedAll (before ++ after) := by rw [hswap]
        _ = table.learnedAll (status :: (other :: before ++ after)) := rfl
    · have hfirst := notice?_learned table hne.symm
      have hsecond := notice?_learned table hne
      calc table.notices (other :: before ++ status :: after)
          = (table.notice? other).toList ++
              (table.learned other).notices (before ++ status :: after) := rfl
        _ ~ (table.notice? other).toList ++ ((table.notice? status).toList ++
              ((table.learned other).learned status).notices (before ++ after)) := by
            rw [← hfirst]
            exact hnotices.append_left _
        _ ~ (table.notice? status).toList ++ ((table.notice? other).toList ++
              ((table.learned status).learned other).notices (before ++ after)) := by
            rw [hswap, ← List.append_assoc, ← List.append_assoc]
            exact List.perm_append_comm.append_right _
        _ = table.notices (status :: (other :: before ++ after)) := by
            rw [← hsecond]
            rfl

/-- Statuses may be learned in any order that keeps those about one process in theirs. -/
theorem learnedAll_of_sameOrder {statuses statuses' : List WaitStatus}
    (h : ∀ pid, statuses.filter (·.pid = pid) = statuses'.filter (·.pid = pid))
    (table : JobTable) : table.learnedAll statuses = table.learnedAll statuses' ∧
      (table.notices statuses).Perm (table.notices statuses') := by
  induction statuses generalizing statuses' table with
  | nil =>
    cases statuses' with
    | nil => exact ⟨rfl, .refl _⟩
    | cons first rest => exact absurd (h first.pid) (by simp)
  | cons status statuses ih =>
    have hfirst := h status.pid
    rw [List.filter_cons_of_pos (by simp)] at hfirst
    obtain ⟨before, after, rfl, hbefore, -, hafter⟩ := List.filter_eq_cons_iff.1 hfirst.symm
    have hother : ∀ other ∈ before, other.pid ≠ status.pid := by simpa using hbefore
    obtain ⟨htable, hnotices⟩ := learnedAll_bubble after hother table
    have hrest : ∀ pid, statuses.filter (·.pid = pid) = (before ++ after).filter (·.pid = pid) := by
      intro pid
      by_cases hpid : status.pid = pid
      · subst hpid
        rw [List.filter_append, List.filter_eq_nil_iff.2 hbefore, List.nil_append]
        exact hafter.symm
      · have hsame := h pid
        rwa [List.filter_cons_of_neg (by simpa using hpid), List.filter_append,
          List.filter_cons_of_neg (by simpa using hpid), ← List.filter_append] at hsame
    obtain ⟨htable', hnotices'⟩ := ih hrest (table.learned status)
    exact ⟨htable'.trans htable.symm, (hnotices'.append_left _).trans hnotices.symm⟩

end JobTable

end JobShell
