import Mathlib.Data.List.Nodup
import JobShell.Job.Table

/-!
# What the operations do to the list of jobs

The table is an array of slots, but what the shell sees of it is the list of its jobs in slot order.
Each operation that succeeds changes that list at one place: `add` inserts a job, `remove` takes out
the first job of a process, `setState` rewrites it. The lemmas here say so once, so that nothing
else has to look at slots.
-/

namespace JobShell.JobTable

variable {table table' : JobTable} {job : Job} {pid : Pid} {state : JobState}
  {commandLine : String}

/-- The process ids of the jobs, in slot order. -/
def pids (table : JobTable) : List Pid := table.jobs.map Job.pid

/-- The table with the next id counted anew from the jobs in it. -/
def renumbered (table : JobTable) : JobTable :=
  { table with nextId := wrapId (table.greatestId + 1) }

/-! ### Slots -/

/-- Within the table, what a slot holds is the entry of the list. -/
theorem at?_eq_getElem {i : Nat} (hi : i < table.slots.length) :
    table.at? i = table.slots[i] := by
  simp [at?, List.getElem?_eq_getElem hi]

theorem at?_setSlot_self (table : JobTable) {i : Nat} (h : i < maxJobs) (slot : Option Job) :
    (table.setSlot i slot).at? i = slot := by
  have hi : i < table.slots.length := by rwa [table.length_slots]
  unfold at? setSlot
  rw [List.getElem?_set_self hi, Option.join_some]

/-- The other slots do not change with one. -/
theorem at?_setSlot_of_ne (table : JobTable) {i j : Nat} (slot : Option Job) (h : i ≠ j) :
    (table.setSlot j slot).at? i = table.at? i := by
  unfold at? setSlot
  rw [List.getElem?_set_ne h.symm]

/-- A slot divides the list of jobs: what is before it and after it does not depend on it. -/
theorem jobs_setSlot (table : JobTable) {i : Nat} (h : i < maxJobs) :
    table.jobs = (table.slots.take i).filterMap id ++ (table.at? i).toList ++
        (table.slots.drop (i + 1)).filterMap id ∧
      ∀ slot, (table.setSlot i slot).jobs = (table.slots.take i).filterMap id ++ slot.toList ++
        (table.slots.drop (i + 1)).filterMap id := by
  have hi : i < table.slots.length := by rw [table.length_slots]; exact h
  have hone : ∀ slot : Option Job, [slot].filterMap id = slot.toList := by
    intro slot
    cases slot <;> rfl
  constructor
  · have hsplit : table.slots = table.slots.take i ++ [table.slots[i]] ++
        table.slots.drop (i + 1) := by
      rw [List.append_assoc, List.singleton_append, List.getElem_cons_drop, List.take_append_drop]
    have hat : table.at? i = table.slots[i] := at?_eq_getElem hi
    calc table.jobs = (table.slots.take i ++ [table.slots[i]] ++
          table.slots.drop (i + 1)).filterMap id := by rw [← hsplit]; rfl
      _ = _ := by rw [List.filterMap_append, List.filterMap_append, hone, hat]
  · intro slot
    show (table.slots.set i slot).filterMap id = _
    rw [List.set_eq_take_append_cons_drop, if_pos hi, List.filterMap_append,
      ← List.singleton_append, List.filterMap_append, hone, List.append_assoc]

/-- The slot of a process holds its first job. -/
theorem exists_of_slotOf? {i : Nat} (h : table.slotOf? pid = some i) :
    i < maxJobs ∧ 1 ≤ pid ∧ ∃ job, table.at? i = some job ∧ job.pid = pid ∧
      ∀ other ∈ (table.slots.take i).filterMap id, other.pid ≠ pid := by
  unfold slotOf? at h
  split at h
  · simp at h
  · next hpid =>
    obtain ⟨hi, hmatch, hbefore⟩ := List.findIdx?_eq_some_iff_getElem.1 h
    obtain ⟨job, hjob, hp⟩ := (Option.any_eq_true _ _).1 hmatch
    have hlt : i < maxJobs := by rw [← table.length_slots]; exact hi
    refine ⟨hlt, Int.not_lt.1 hpid, job, ?_, by simpa using hp, ?_⟩
    · simp [at?, List.getElem?_eq_getElem hi, hjob]
    · intro other hother heq
      -- The job is in some slot `k` below, where the search would have stopped before `i`.
      obtain ⟨slot, hslot, hsome⟩ := List.mem_filterMap.1 hother
      obtain ⟨k, hk, hget⟩ := List.mem_take_iff_getElem.1 hslot
      have hno := hbefore k (by omega)
      simp only [id] at hsome
      rw [hget, hsome] at hno
      simp [heq] at hno

/-- A search fails for want of a job, and for ids that no process has it does not even begin. -/
theorem slotOf?_eq_none_iff : table.slotOf? pid = none ↔ pid < 1 ∨ pid ∉ table.pids := by
  unfold slotOf?
  split
  · next h => simp [h]
  · next h =>
    rw [List.findIdx?_eq_none_iff]
    simp only [h, false_or, pids, jobs, List.mem_map, List.mem_filterMap, id, not_exists, not_and]
    constructor
    · rintro hall job ⟨slot, hslot, rfl⟩ rfl
      simpa using hall _ hslot
    · intro hno slot hslot
      cases slot with
      | none => rfl
      | some job => simpa using hno job ⟨some job, hslot, rfl⟩

/-- There is no free slot exactly if there are as many jobs as slots. -/
theorem findIdx?_isNone_eq_none_iff :
    table.slots.findIdx? Option.isNone = none ↔ maxJobs ≤ table.size := by
  have hle : table.size ≤ table.slots.length := List.length_filterMap_le id table.slots
  have hall : table.size = table.slots.length ↔ ∀ slot ∈ table.slots, slot.isNone = false := by
    rw [size, jobs, List.filterMap_length_eq_length]
    refine forall₂_congr fun slot _ ↦ ?_
    cases slot <;> simp
  rw [List.findIdx?_eq_none_iff, ← hall, ← table.length_slots]
  omega

/-! ### Searches -/

theorem mem_jobs_of_at? {i : Nat} (hi : i < maxJobs) (h : table.at? i = some job) :
    job ∈ table.jobs := by
  rw [(table.jobs_setSlot hi).1, h]
  exact List.mem_append_left _ (List.mem_append_right _ (List.mem_singleton.2 rfl))

/-- What is found by a process id is a job of that process. -/
theorem mem_jobs_of_byPid? (h : table.byPid? pid = some job) :
    job ∈ table.jobs ∧ job.pid = pid := by
  obtain ⟨i, hslot, hat⟩ := Option.bind_eq_some_iff.1 h
  obtain ⟨hi, -, found, hfound, hpid, -⟩ := exists_of_slotOf? hslot
  obtain rfl := Option.some.inj (hfound.symm.trans hat)
  exact ⟨mem_jobs_of_at? hi hat, hpid⟩

/-- What a specification names is a job of the table. -/
theorem mem_jobs_of_resolve {spec : JobSpec} (h : table.resolve spec = .ok job) :
    job ∈ table.jobs := by
  unfold resolve at h
  cases spec with
  | job id =>
    cases hfind : table.byId? id with
    | none => simp [hfind] at h
    | some found =>
      simp only [hfind, Except.ok.injEq] at h
      subst h
      unfold byId? at hfind
      split at hfind
      · simp at hfind
      · exact List.mem_of_find?_eq_some hfind
  | process pid =>
    cases hfind : table.byPid? pid with
    | none => simp [hfind] at h
    | some found =>
      simp only [hfind, Except.ok.injEq] at h
      subst h
      exact (mem_jobs_of_byPid? hfind).1

/-- The process in the foreground is that of a job of the table. -/
theorem mem_pids_of_foregroundPid? (h : table.foregroundPid? = some pid) : pid ∈ table.pids := by
  obtain ⟨job, hfind, rfl⟩ := Option.map_eq_some_iff.1 h
  exact List.mem_map_of_mem (List.mem_of_find?_eq_some hfind)

/-! ### Operations -/

/-- A new job is put between the jobs of the lower slots and those of the higher ones. -/
theorem exists_of_add (h : table.add pid state commandLine = .ok (job, table')) :
    1 ≤ pid ∧ job = ⟨table.freeId, pid, state, commandLine⟩ ∧
      table'.nextId = wrapId (job.id + 1) ∧
      ∃ before after, table.jobs = before ++ after ∧ table'.jobs = before ++ job :: after := by
  unfold add at h
  split at h
  · simp at h
  · next hpid =>
    split at h
    · simp at h
    · next i hi =>
      obtain ⟨hlt, hfree, -⟩ := List.findIdx?_eq_some_iff_getElem.1 hi
      simp only [Except.ok.injEq, Prod.mk.injEq] at h
      obtain ⟨rfl, rfl⟩ := h
      have hat : table.at? i = none := by
        rw [Option.isNone_iff_eq_none] at hfree
        simp [at?, List.getElem?_eq_getElem hlt, hfree]
      obtain ⟨hjobs, hset⟩ := table.jobs_setSlot (i := i) (by rw [← table.length_slots]; exact hlt)
      rw [hat] at hjobs
      refine ⟨Int.not_lt.1 hpid, rfl, rfl, _, _, by simpa using hjobs, ?_⟩
      show (table.setSlot i _).jobs = _
      rw [hset]
      simp

/-- The only reasons not to add a job: a process id below 1, and else a table without a free
slot. -/
theorem add_eq_error_iff {error : Error} : table.add pid state commandLine = .error error ↔
    (pid < 1 ∧ error = .of (.activity (.trackingPid pid))) ∨
      (1 ≤ pid ∧ maxJobs ≤ table.size ∧ error = .of .tooManyJobs) := by
  unfold add
  split
  · next hpid =>
    simp only [Except.error.injEq, hpid, true_and]
    constructor
    · rintro rfl
      exact Or.inl rfl
    · rintro (rfl | ⟨hpos, -⟩)
      · rfl
      · exact absurd hpid (Int.not_lt.2 hpos)
  · next hpid =>
    split
    · next hnone =>
      have hfull := findIdx?_isNone_eq_none_iff.1 hnone
      simp only [Except.error.injEq, hpid, false_and, false_or, hfull, true_and]
      constructor
      · rintro rfl
        exact ⟨Int.not_lt.1 hpid, rfl⟩
      · rintro ⟨-, rfl⟩
        rfl
    · next i hi =>
      simp only [reduceCtorEq, hpid, false_and, false_or, false_iff]
      rintro ⟨-, hsize, -⟩
      rw [findIdx?_isNone_eq_none_iff.2 hsize] at hi
      simp at hi

/-! What is done to a job, by its slot. -/

/-- A removal, once the slot is found. -/
theorem remove_of_slotOf? {i : Nat} (h : table.slotOf? pid = some i)
    (hat : table.at? i = some job) :
    table.remove pid = some (job, (table.setSlot i none).renumbered) := by
  simp [remove, renumbered, h, hat]

/-- A change of state, once the slot is found. -/
theorem setState_of_slotOf? {i : Nat} (h : table.slotOf? pid = some i)
    (hat : table.at? i = some job) (state : JobState) : table.setState pid state =
      some ({ job with state }, table.setSlot i (some { job with state })) := by
  simp [setState, h, hat]

/-- The job that is removed is the first one of its process. -/
theorem exists_of_remove (h : table.remove pid = some (job, table')) :
    1 ≤ pid ∧ job.pid = pid ∧ table'.nextId = wrapId (table'.greatestId + 1) ∧
      ∃ before after, table.jobs = before ++ job :: after ∧ table'.jobs = before ++ after ∧
        ∀ other ∈ before, other.pid ≠ pid := by
  unfold remove at h
  split at h
  · simp at h
  · next i hi =>
    obtain ⟨hlt, hpos, found, hat, hpid, hbefore⟩ := exists_of_slotOf? hi
    rw [hat] at h
    simp only [Option.map_some, Option.some.injEq, Prod.mk.injEq] at h
    obtain ⟨rfl, rfl⟩ := h
    obtain ⟨hjobs, hset⟩ := table.jobs_setSlot hlt
    rw [hat] at hjobs
    refine ⟨hpos, hpid, rfl, _, _, by simpa using hjobs, ?_, hbefore⟩
    show (table.setSlot i none).jobs = _
    rw [hset]
    simp

/-- A removal fails only if its search does. -/
theorem remove_eq_none_iff : table.remove pid = none ↔ pid < 1 ∨ pid ∉ table.pids := by
  rw [← slotOf?_eq_none_iff]
  unfold remove
  split
  · next h => simp [h]
  · next i h =>
    obtain ⟨-, -, found, hat, -⟩ := exists_of_slotOf? h
    simp [h, hat]

/-- The job that changes its state is the first one of its process. It stays where it is, and
nothing else changes. -/
theorem exists_of_setState (h : table.setState pid state = some (job, table')) :
    1 ≤ pid ∧ table'.nextId = table.nextId ∧
      ∃ old before after, job = { old with state } ∧ old.pid = pid ∧
        table.jobs = before ++ old :: after ∧ table'.jobs = before ++ job :: after ∧
        ∀ other ∈ before, other.pid ≠ pid := by
  unfold setState at h
  split at h
  · simp at h
  · next i hi =>
    obtain ⟨hlt, hpos, found, hat, hpid, hbefore⟩ := exists_of_slotOf? hi
    rw [hat] at h
    simp only [Option.map_some, Option.some.injEq, Prod.mk.injEq] at h
    obtain ⟨rfl, rfl⟩ := h
    obtain ⟨hjobs, hset⟩ := table.jobs_setSlot hlt
    rw [hat] at hjobs
    refine ⟨hpos, rfl, found, _, _, rfl, hpid, by simpa using hjobs, ?_, hbefore⟩
    rw [hset]
    simp

/-- And so does a change of state. -/
theorem setState_eq_none_iff :
    table.setState pid state = none ↔ pid < 1 ∨ pid ∉ table.pids := by
  rw [← slotOf?_eq_none_iff]
  unfold setState
  split
  · next h => simp [h]
  · next i h =>
    obtain ⟨-, -, found, hat, -⟩ := exists_of_slotOf? h
    simp [h, hat]

/-! ### Tables in which no process has two jobs -/

/-- That no process has two jobs, seen from one job among the others. -/
theorem nodup_pids_iff {before after : List Job} (h : table.jobs = before ++ job :: after) :
    table.pids.Nodup ↔ (∀ other ∈ before ++ after, other.pid ≠ job.pid) ∧
      ((before ++ after).map Job.pid).Nodup := by
  rw [pids, h, List.map_append, List.map_cons, List.nodup_middle, ← List.map_append,
    List.nodup_cons]
  refine and_congr_left fun _ ↦ ?_
  simp only [List.mem_map, not_exists, not_and]

theorem mem_append_cons_iff {before after : List Job} {other : Job} :
    other ∈ before ++ job :: after ↔ other = job ∨ other ∈ before ++ after := by
  rw [List.mem_append, List.mem_append, List.mem_cons]
  exact or_left_comm

/-- An addition adds its job and keeps the others. -/
theorem mem_jobs_add_iff (h : table.add pid state commandLine = .ok (job, table')) {other : Job} :
    other ∈ table'.jobs ↔ other = job ∨ other ∈ table.jobs := by
  obtain ⟨-, -, -, before, after, hjobs, hjobs'⟩ := exists_of_add h
  rw [hjobs, hjobs']
  exact mem_append_cons_iff

theorem mem_pids_add_iff (h : table.add pid state commandLine = .ok (job, table')) {other : Pid} :
    other ∈ table'.pids ↔ other = pid ∨ other ∈ table.pids := by
  obtain ⟨-, rfl, -⟩ := exists_of_add h
  simp only [pids, List.mem_map, mem_jobs_add_iff h, or_and_right, exists_or, exists_eq_left]
  exact or_congr_left eq_comm

/-- A process that has no job yet may be given one. -/
theorem nodup_pids_add (h : table.add pid state commandLine = .ok (job, table'))
    (hnodup : table.pids.Nodup) (hpid : pid ∉ table.pids) : table'.pids.Nodup := by
  obtain ⟨-, rfl, -, before, after, hjobs, hjobs'⟩ := exists_of_add h
  rw [nodup_pids_iff hjobs', ← hjobs]
  refine ⟨fun other hmem heq ↦ hpid ?_, hnodup⟩
  exact List.mem_map.2 ⟨other, hmem, heq⟩

/-- A removal leaves the jobs of the other processes, if no process has two. -/
theorem mem_jobs_remove_iff (h : table.remove pid = some (job, table'))
    (hnodup : table.pids.Nodup) {other : Job} :
    other ∈ table'.jobs ↔ other ∈ table.jobs ∧ other.pid ≠ pid := by
  obtain ⟨-, rfl, -, before, after, hjobs, hjobs', -⟩ := exists_of_remove h
  obtain ⟨hrest, -⟩ := (nodup_pids_iff hjobs).1 hnodup
  rw [hjobs, hjobs', mem_append_cons_iff]
  constructor
  · exact fun hmem ↦ ⟨Or.inr hmem, hrest other hmem⟩
  · rintro ⟨rfl | hmem, hne⟩
    · exact absurd rfl hne
    · exact hmem

theorem mem_pids_remove_iff (h : table.remove pid = some (job, table'))
    (hnodup : table.pids.Nodup) {other : Pid} :
    other ∈ table'.pids ↔ other ∈ table.pids ∧ other ≠ pid := by
  simp only [pids, List.mem_map, mem_jobs_remove_iff h hnodup]
  constructor
  · rintro ⟨entry, ⟨hmem, hne⟩, rfl⟩
    exact ⟨⟨entry, hmem, rfl⟩, hne⟩
  · rintro ⟨⟨entry, hmem, rfl⟩, hne⟩
    exact ⟨entry, ⟨hmem, hne⟩, rfl⟩

/-- A removal gives no process a second job. -/
theorem nodup_pids_remove (h : table.remove pid = some (job, table'))
    (hnodup : table.pids.Nodup) : table'.pids.Nodup := by
  obtain ⟨-, -, -, before, after, hjobs, hjobs', -⟩ := exists_of_remove h
  rw [pids, hjobs']
  exact ((nodup_pids_iff hjobs).1 hnodup).2

/-- A change of state keeps the processes and their order. -/
theorem pids_setState (h : table.setState pid state = some (job, table')) :
    table'.pids = table.pids := by
  obtain ⟨-, -, old, before, after, rfl, -, hjobs, hjobs', -⟩ := exists_of_setState h
  rw [pids, pids, hjobs, hjobs', List.map_append, List.map_append, List.map_cons, List.map_cons]

/-- A change of state keeps the jobs of the other processes, if no process has two. -/
theorem mem_jobs_setState_iff (h : table.setState pid state = some (job, table'))
    (hnodup : table.pids.Nodup) {other : Job} :
    other ∈ table'.jobs ↔ other = job ∨ other ∈ table.jobs ∧ other.pid ≠ pid := by
  obtain ⟨-, -, old, before, after, -, rfl, hjobs, hjobs', -⟩ := exists_of_setState h
  obtain ⟨hrest, -⟩ := (nodup_pids_iff hjobs).1 hnodup
  rw [hjobs, hjobs', mem_append_cons_iff, mem_append_cons_iff]
  refine or_congr_right ⟨fun hmem ↦ ⟨Or.inr hmem, hrest other hmem⟩, ?_⟩
  rintro ⟨rfl | hmem, hne⟩
  · exact absurd rfl hne
  · exact hmem

end JobShell.JobTable
