import Mathlib.Data.List.Nodup
import Mathlib.Data.List.Perm.Subperm
import JobShell.Proofs.Table.Shape
import JobShell.Shell.Launch

/-!
# The ids a job table hands out

Whatever is done to a new table, its job ids stay distinct and within the circle from 1 to the
greatest id, and so does the id to be tried next. That is all the search for a free id needs: ids
on the way once around the circle are distinct, so if fewer jobs than ids are in the table, one of
them is free before the search comes back to where it began.
-/

namespace JobShell

/-- An operation that changes a job table. -/
inductive TableOperation
  | add (pid : Pid) (state : JobState) (commandLine : String)
  | remove (pid : Pid)
  | setState (pid : Pid) (state : JobState)

namespace JobTable

/-- The table after an operation. One that fails or finds no job leaves the table as it is. -/
def after (table : JobTable) : TableOperation → JobTable
  | .add pid state commandLine => match table.add pid state commandLine with
    | .ok (_, table') => table'
    | .error _ => table
  | .remove pid => ((table.remove pid).map Prod.snd).getD table
  | .setState pid state => ((table.setState pid state).map Prod.snd).getD table

/-- The table after several operations. -/
def afterAll (table : JobTable) (operations : List TableOperation) : JobTable :=
  operations.foldl after table

/-- The table that follows when an operation is tried: it is carried out, or nothing changes. -/
inductive Follows (table : JobTable) : TableOperation → JobTable → Prop
  | add {pid state commandLine job table'}
    (h : table.add pid state commandLine = .ok (job, table')) :
    Follows table (.add pid state commandLine) table'
  | remove {pid job table'} (h : table.remove pid = some (job, table')) :
    Follows table (.remove pid) table'
  | setState {pid state job table'} (h : table.setState pid state = some (job, table')) :
    Follows table (.setState pid state) table'
  | unchanged (operation : TableOperation) : Follows table operation table

/-- What follows an operation is what the operation leads to, or the same table. -/
theorem follows_after (table : JobTable) (operation : TableOperation) :
    table.Follows operation (table.after operation) := by
  cases operation with
  | add pid state commandLine =>
    cases hadd : table.add pid state commandLine with
    | ok result =>
      rw [show table.after (.add pid state commandLine) = result.2 by simp only [after, hadd]]
      exact .add hadd
    | error error =>
      rw [show table.after (.add pid state commandLine) = table by simp only [after, hadd]]
      exact .unchanged _
  | remove pid =>
    show table.Follows _ (((table.remove pid).map Prod.snd).getD table)
    cases hremove : table.remove pid with
    | none => exact .unchanged _
    | some result => exact .remove hremove
  | setState pid state =>
    show table.Follows _ (((table.setState pid state).map Prod.snd).getD table)
    cases hset : table.setState pid state with
    | none => exact .unchanged _
    | some result => exact .setState hset

/-- Each of several operations that are tried one after the other is as `p` says at its table. -/
def Throughout (p : JobTable → TableOperation → Prop) : JobTable → List TableOperation → Prop
  | _, [] => True
  | table, operation :: operations =>
    p table operation ∧ Throughout p (table.after operation) operations

/-- What can be decided of one operation can be decided along several. -/
instance decidableThroughout (p : JobTable → TableOperation → Prop)
    [∀ table operation, Decidable (p table operation)] :
    (table : JobTable) → (operations : List TableOperation) →
      Decidable (table.Throughout p operations)
  | _, [] => inferInstanceAs (Decidable True)
  | table, operation :: operations =>
    have := decidableThroughout p (table.after operation) operations
    inferInstanceAs (Decidable (p table operation ∧ _))

/-- The numbers in a table are in order: every job has an id of its own on the circle, and a process
id; the id to be tried next is on the circle. -/
structure WellFormed (table : JobTable) : Prop where
  /-- Job ids are on the circle. -/
  id_mem : ∀ job ∈ table.jobs, 1 ≤ job.id ∧ job.id ≤ maxJobs
  /-- No two jobs share an id. -/
  nodup_ids : (table.jobs.map Job.id).Nodup
  /-- Process ids count from 1. -/
  pid_pos : ∀ job ∈ table.jobs, 1 ≤ job.pid
  /-- The next id is on the circle. -/
  nextId_mem : 1 ≤ table.nextId ∧ table.nextId ≤ maxJobs

/-- The search for a free id: begun at `id`, it stops at `free` and has looked at `n` ids. -/
inductive Search (table : JobTable) : (id n free : Nat) → Prop
  | stop {id : Nat} (h : table.usesId id = false) : Search table id 1 id
  | next {id n free : Nat} (h : table.usesId id = true)
      (rest : Search table (wrapId (id + 1)) n free) : Search table id (n + 1) free

variable {table table' : JobTable} {job : Job} {pid : Pid} {state : JobState}
  {commandLine : String}

/-! ### The way around the circle -/

/-- The id that follows the one at a place on the circle is at the next place. -/
theorem wrapId_place (id k : Nat) :
    wrapId ((id - 1 + k) % maxJobs + 1 + 1) = (id - 1 + (k + 1)) % maxJobs + 1 := by
  unfold wrapId
  split <;> simp only [maxJobs] at * <;> omega

/-- The way as it goes on after `k` steps. -/
theorem go_eq_map_range (id n k : Nat) :
    idsFrom.go ((id - 1 + k) % maxJobs + 1) n =
      (List.range n).map fun j ↦ (id - 1 + (k + j)) % maxJobs + 1 := by
  induction n generalizing k with
  | zero => rfl
  | succ n ih =>
    rw [idsFrom.go, wrapId_place, ih, List.range_succ_eq_map, List.map_cons, List.map_map]
    refine congrArg₂ List.cons rfl (List.map_congr_left fun j _ ↦ ?_)
    show (id - 1 + (k + 1 + j)) % maxJobs + 1 = (id - 1 + (k + (j + 1))) % maxJobs + 1
    rw [Nat.add_assoc k 1 j, Nat.add_comm 1 j]

/-- The `k`-th id on the way from an id of the circle is the one `k` places further on. -/
theorem go_of_mem_circle {id : Nat} (h : 1 ≤ id ∧ id ≤ maxJobs) (n : Nat) :
    idsFrom.go id n = (List.range n).map fun k ↦ (id - 1 + k) % maxJobs + 1 := by
  have hid : (id - 1 + 0) % maxJobs + 1 = id := by
    rw [Nat.add_zero, Nat.mod_eq_of_lt] <;> omega
  have hgo := go_eq_map_range id n 0
  rw [hid] at hgo
  simpa only [Nat.zero_add] using hgo

/-- The ids that are tried are those at the places once around the circle. -/
theorem idsFrom_eq_map_range {id : Nat} (h : 1 ≤ id ∧ id ≤ maxJobs) :
    idsFrom id = (List.range maxJobs).map fun k ↦ (id - 1 + k) % maxJobs + 1 :=
  go_of_mem_circle h maxJobs

/-- Once around the circle each id is tried. -/
theorem mem_idsFrom_iff {id other : Nat} (h : 1 ≤ id ∧ id ≤ maxJobs) :
    other ∈ idsFrom id ↔ 1 ≤ other ∧ other ≤ maxJobs := by
  rw [idsFrom_eq_map_range h, List.mem_map]
  constructor
  · rintro ⟨k, -, rfl⟩
    exact ⟨by omega, Nat.mod_lt _ (by decide)⟩
  · intro hother
    refine ⟨(other + maxJobs - id) % maxJobs, List.mem_range.2 (Nat.mod_lt _ (by decide)), ?_⟩
    simp only [maxJobs] at *
    omega

/-- And none is tried twice. -/
theorem nodup_idsFrom {id : Nat} (h : 1 ≤ id ∧ id ≤ maxJobs) : (idsFrom id).Nodup := by
  rw [idsFrom_eq_map_range h]
  refine List.Nodup.map_on ?_ List.nodup_range
  intro j hj k hk heq
  rw [List.mem_range] at hj hk
  simp only [maxJobs] at hj hk heq
  omega

/-! ### The search for a free id -/

/-- An id is in use if a job has it. -/
theorem usesId_iff {id : Nat} : table.usesId id = true ↔ ∃ job ∈ table.jobs, job.id = id := by
  simp [usesId]

/-- What a search finds is free. -/
theorem Search.usesId_eq_false {id n free : Nat} (h : Search table id n free) :
    table.usesId free = false := by
  induction h with
  | stop h => exact h
  | next _ _ ih => exact ih

/-- And it is on the circle. -/
theorem Search.mem_circle {id n free : Nat} (h : Search table id n free)
    (hid : 1 ≤ id ∧ id ≤ maxJobs) : 1 ≤ free ∧ free ≤ maxJobs := by
  induction h with
  | stop _ => exact hid
  | next _ _ ih => exact ih (wrapId_mem_circle _)

/-- Looking along the next `n` ids is the search, if it stops among them. -/
theorem exists_search_of_find? {id n free : Nat}
    (h : ((idsFrom.go id n).find? fun id ↦ !table.usesId id) = some free) :
    ∃ k ≤ n, Search table id k free := by
  induction n generalizing id with
  | zero => simp [idsFrom.go] at h
  | succ n ih =>
    rw [idsFrom.go, List.find?_cons] at h
    cases huse : table.usesId id with
    | false =>
      simp only [huse, Bool.not_false, Option.some.injEq] at h
      subst h
      exact ⟨1, by omega, .stop huse⟩
    | true =>
      simp only [huse, Bool.not_true] at h
      obtain ⟨k, hk, hsearch⟩ := ih h
      exact ⟨k + 1, by omega, .next huse hsearch⟩

/-- **Pigeonhole.** With fewer jobs than ids, some id on the way around the circle is free. -/
theorem exists_free_of_size_lt (h : table.WellFormed) (hsize : table.size < maxJobs) :
    ∃ id ∈ idsFrom table.nextId, table.usesId id = false := by
  -- If all of them were used, then they were among the ids of the jobs, of which there are fewer.
  by_contra hall
  have hsub : idsFrom table.nextId ⊆ table.jobs.map Job.id := by
    intro id hid
    have huse : table.usesId id = true := by
      cases huse : table.usesId id with
      | true => rfl
      | false => exact absurd ⟨id, hid, huse⟩ hall
    obtain ⟨job, hjob, rfl⟩ := usesId_iff.1 huse
    exact List.mem_map_of_mem hjob
  have hle := ((nodup_idsFrom h.nextId_mem).subperm hsub).length_le
  rw [length_idsFrom, List.length_map] at hle
  exact absurd hsize (by simpa [size] using hle)

/-- The next job gets the first id on the way that is free. -/
theorem find?_eq_some_freeId (h : table.WellFormed) (hsize : table.size < maxJobs) :
    ((idsFrom table.nextId).find? fun id ↦ !table.usesId id) = some table.freeId := by
  obtain ⟨id, hid, hfree⟩ := exists_free_of_size_lt h hsize
  have hsome : ((idsFrom table.nextId).find? fun id ↦ !table.usesId id).isSome = true := by
    rw [List.find?_isSome]
    exact ⟨id, hid, by rw [hfree]; rfl⟩
  obtain ⟨free, hfind⟩ := Option.isSome_iff_exists.1 hsome
  rw [freeId, hfind]
  rfl

/-- The search ends within one round, and its result is the id that the next job gets. -/
theorem exists_search_freeId (h : table.WellFormed) (hsize : table.size < maxJobs) :
    ∃ n ≤ maxJobs, Search table table.nextId n table.freeId :=
  exists_search_of_find? (find?_eq_some_freeId h hsize)

/-! ### What every operation keeps -/

/-- An addition succeeds for each proper process for which there is room. -/
theorem exists_add_iff : (∃ job table', table.add pid state commandLine = .ok (job, table')) ↔
    1 ≤ pid ∧ table.size < maxJobs := by
  have herror : ∀ error, table.add pid state commandLine = .error error ↔ _ :=
    fun error ↦ add_eq_error_iff
  constructor
  · rintro ⟨job, table', hadd⟩
    by_contra hno
    rcases Int.lt_or_le pid 1 with hpid | hpid
    · have hrefused := (herror _).2 (Or.inl ⟨hpid, rfl⟩)
      rw [hadd] at hrefused
      cases hrefused
    · have hfull : maxJobs ≤ table.size := Nat.not_lt.1 fun hlt ↦ hno ⟨hpid, hlt⟩
      have hrefused := (herror _).2 (Or.inr ⟨hpid, hfull, rfl⟩)
      rw [hadd] at hrefused
      cases hrefused
  · rintro ⟨hpid, hsize⟩
    cases hadd : table.add pid state commandLine with
    | ok result => exact ⟨result.1, result.2, rfl⟩
    | error error =>
      rcases (herror error).1 hadd with ⟨hlt, -⟩ | ⟨-, hfull, -⟩
      · exact absurd hpid (Int.not_le.2 hlt)
      · exact absurd hsize (Nat.not_lt.2 hfull)

/-- An empty table begins with the first id. -/
theorem wellFormed_empty : empty.WellFormed where
  id_mem := by simp [empty, jobs, maxJobs]
  nodup_ids := by simp [empty, jobs, maxJobs]
  pid_pos := by simp [empty, jobs, maxJobs]
  nextId_mem := by decide

/-- The id of a new job is free, so the ids stay distinct. -/
theorem WellFormed.add (h : table.WellFormed)
    (hadd : table.add pid state commandLine = .ok (job, table')) : table'.WellFormed := by
  obtain ⟨hpid, hjob, hnext, before, rest, hjobs, hjobs'⟩ := exists_of_add hadd
  obtain ⟨-, hsize⟩ := exists_add_iff.1 ⟨job, table', hadd⟩
  obtain ⟨n, -, hsearch⟩ := exists_search_freeId h hsize
  have hmem : ∀ other ∈ table'.jobs, other = job ∨ other ∈ table.jobs := by
    intro other hother
    rw [hjobs', List.mem_append, List.mem_cons] at hother
    rw [hjobs, List.mem_append]
    tauto
  have hid : job.id = table.freeId := by rw [hjob]
  refine ⟨?_, ?_, ?_, ?_⟩
  · intro other hother
    rcases hmem other hother with rfl | hold
    · rw [hid]
      exact hsearch.mem_circle h.nextId_mem
    · exact h.id_mem other hold
  -- The search only stops at an id that no job has.
  · have hfresh : job.id ∉ table.jobs.map Job.id := by
      intro hold
      obtain ⟨other, hother, heq⟩ := List.mem_map.1 hold
      have huse := usesId_iff.2 ⟨other, hother, heq⟩
      rw [hid, hsearch.usesId_eq_false] at huse
      simp at huse
    rw [hjobs', List.map_append, List.map_cons, List.nodup_middle, ← List.map_append, ← hjobs]
    exact List.nodup_cons.2 ⟨hfresh, h.nodup_ids⟩
  · intro other hother
    rcases hmem other hother with rfl | hold
    · rw [hjob]
      exact hpid
    · exact h.pid_pos other hold
  · rw [hnext]
    exact wrapId_mem_circle job.id

/-- A removal frees an id, and the next one to be tried is still on the circle. -/
theorem WellFormed.remove (h : table.WellFormed)
    (hremove : table.remove pid = some (job, table')) : table'.WellFormed := by
  obtain ⟨-, -, hnext, before, rest, hjobs, hjobs', -⟩ := exists_of_remove hremove
  have hsub : table'.jobs.Sublist table.jobs := by
    rw [hjobs, hjobs']
    exact (List.Sublist.refl before).append (List.sublist_cons_self job rest)
  refine ⟨fun other hother ↦ h.id_mem other (hsub.subset hother),
    h.nodup_ids.sublist (hsub.map Job.id),
    fun other hother ↦ h.pid_pos other (hsub.subset hother), ?_⟩
  rw [hnext]
  exact wrapId_mem_circle _

/-- A change of state leaves the ids as they are. -/
theorem ids_setState (h : table.setState pid state = some (job, table')) :
    table'.jobs.map Job.id = table.jobs.map Job.id := by
  obtain ⟨-, -, old, before, rest, rfl, -, hjobs, hjobs', -⟩ := exists_of_setState h
  rw [hjobs, hjobs', List.map_append, List.map_append, List.map_cons, List.map_cons]

theorem WellFormed.setState (h : table.WellFormed)
    (hset : table.setState pid state = some (job, table')) : table'.WellFormed := by
  obtain ⟨-, hnext, old, before, rest, rfl, -, hjobs, hjobs', -⟩ := exists_of_setState hset
  have hold : old ∈ table.jobs := by simp [hjobs]
  have hmem : ∀ other ∈ table'.jobs, other = { old with state } ∨ other ∈ table.jobs := by
    intro other hother
    rw [hjobs', List.mem_append, List.mem_cons] at hother
    rw [hjobs, List.mem_append, List.mem_cons]
    tauto
  refine ⟨?_, ?_, ?_, by rw [hnext]; exact h.nextId_mem⟩
  · intro other hother
    rcases hmem other hother with rfl | hother
    · exact h.id_mem old hold
    · exact h.id_mem other hother
  · rw [ids_setState hset]
    exact h.nodup_ids
  · intro other hother
    rcases hmem other hother with rfl | hother
    · exact h.pid_pos old hold
    · exact h.pid_pos other hother

/-- Whatever is tried, the numbers of the table stay in order. -/
theorem WellFormed.follows {operation : TableOperation} (h : table.WellFormed)
    (hfollows : table.Follows operation table') : table'.WellFormed := by
  cases hfollows with
  | add hadd => exact h.add hadd
  | remove hremove => exact h.remove hremove
  | setState hset => exact h.setState hset
  | unchanged => exact h

theorem WellFormed.afterAll (h : table.WellFormed) (operations : List TableOperation) :
    (table.afterAll operations).WellFormed := by
  induction operations generalizing table with
  | nil => exact h
  | cons operation operations ih => exact ih (h.follows (table.follows_after operation))

/-! ### Registering a job -/

/-- A job that cannot be added leaves nothing behind. -/
theorem register_of_add_eq_error {m : Machine} {error : Error}
    (h : m.state.jobs.add pid state commandLine = .error error) :
    Shell.register pid state commandLine m = (.failed error, m) := by
  unfold Shell.register
  have hstate : Routine.state m = (.done m.state, m) := rfl
  rw [Routine.bind_of_done hstate]
  refine Routine.bind_of_failed ?_
  rw [h]
  rfl

/-- **The table after any operations.** Its numbers are in order. A job can be added exactly if its
process id is valid and a slot is free; the search for its id then ends within one round at an id
that is not in use. A job that cannot be added is refused for its process id before it is refused
for want of a slot, and the shell is left as it was. -/
theorem wellFormed_and_add_after_any (operations : List TableOperation) (pid : Pid)
    (state : JobState) (commandLine : String) :
    let table := empty.afterAll operations
    table.WellFormed ∧
      ((∃ job table', table.add pid state commandLine = .ok (job, table')) ↔
        1 ≤ pid ∧ table.size < maxJobs) ∧
      (∀ job table', table.add pid state commandLine = .ok (job, table') →
        (∃ n ≤ maxJobs, Search table table.nextId n job.id) ∧
          ∀ other ∈ table.jobs, other.id ≠ job.id) ∧
      ∀ error, table.add pid state commandLine = .error error →
        error = (if pid < 1 then .of (.activity (.trackingPid pid)) else .of .tooManyJobs) ∧
          table.after (.add pid state commandLine) = table ∧
          ∀ m : Machine, m.state.jobs = table →
            Shell.register pid state commandLine m = (.failed error, m) := by
  intro table
  have h : table.WellFormed := wellFormed_empty.afterAll operations
  refine ⟨h, exists_add_iff, ?_, ?_⟩
  · intro job table' hadd
    obtain ⟨-, hjob, -⟩ := exists_of_add hadd
    obtain ⟨-, hsize⟩ := exists_add_iff.1 ⟨job, table', hadd⟩
    obtain ⟨n, hn, hsearch⟩ := exists_search_freeId h hsize
    have hid : job.id = table.freeId := by rw [hjob]
    refine ⟨⟨n, hn, hid ▸ hsearch⟩, ?_⟩
    intro other hother heq
    have huse := usesId_iff.2 ⟨other, hother, heq⟩
    rw [hid, hsearch.usesId_eq_false] at huse
    simp at huse
  · intro error hadd
    refine ⟨?_, ?_, ?_⟩
    · rcases add_eq_error_iff.1 hadd with ⟨hlt, rfl⟩ | ⟨hpos, -, rfl⟩
      · rw [if_pos hlt]
      · rw [if_neg (Int.not_lt.2 hpos)]
    · simp only [after, hadd]
    · intro m hm
      exact register_of_add_eq_error (hm ▸ hadd)

end JobTable

end JobShell
