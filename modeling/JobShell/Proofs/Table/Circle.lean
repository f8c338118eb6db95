import JobShell.Proofs.Table.Ids

/-!
# The order in which job ids are handed out

The ids that are free, in the order in which they come up on the way around the circle from the id
to be tried next (`freeIds`), are a queue: a new job gets the first of them, and the others stay in
line, because the way then goes on from there and comes to that id last. Only the removal of a job,
which counts the next id anew, forms another queue. It begins after the greatest id in use.
-/

namespace JobShell

namespace TableOperation

/-- The operation adds a job, and the process id is valid. -/
def isValidAdd : TableOperation → Bool
  | add pid _ _ => 1 ≤ pid
  | remove _ | setState _ _ => false

/-- The operation removes no job. -/
def RemovesNone (table : JobTable) : TableOperation → Prop
  | remove pid => table.remove pid = none
  | add .. | setState .. => True

instance (table : JobTable) :
    (operation : TableOperation) → Decidable (operation.RemovesNone table)
  | remove pid => inferInstanceAs (Decidable (table.remove pid = none))
  | add .. | setState .. => inferInstanceAs (Decidable True)

end TableOperation

/-! ### Around the circle -/

/-- All ids in ascending order from the one after `m` to the greatest, and then from 1 to `m`. -/
def circleAfter (m : Nat) : List Nat := List.range' (m + 1) (maxJobs - m) ++ List.range' 1 m

theorem mem_circleAfter_iff {m id : Nat} (h : m ≤ maxJobs) :
    id ∈ circleAfter m ↔ 1 ≤ id ∧ id ≤ maxJobs := by
  simp only [circleAfter, List.mem_append, List.mem_range'_1]
  omega

theorem circleAfter_succ {m : Nat} (h : m + 1 ≤ maxJobs) :
    circleAfter (m + 1) = (circleAfter m).tail ++ [m + 1] := by
  obtain ⟨n, hn⟩ : ∃ n, maxJobs - m = n + 1 := ⟨maxJobs - (m + 1), by omega⟩
  have hn' : maxJobs - (m + 1) = n := by omega
  have hrange : List.range' 1 (m + 1) = List.range' 1 m ++ [m + 1] := by
    rw [List.range'_concat, Nat.one_mul, Nat.add_comm 1 m]
  rw [circleAfter, circleAfter, hn, hn', hrange, List.range'_succ, List.cons_append,
    List.tail_cons, List.append_assoc]

namespace JobTable

variable {table table' : JobTable} {job : Job} {pid : Pid} {state : JobState}
  {commandLine : String}

/-- To begin one step further on is to come to the first id last. -/
theorem idsFrom_wrapId_succ {id : Nat} (h : 1 ≤ id ∧ id ≤ maxJobs) :
    idsFrom (wrapId (id + 1)) = (idsFrom id).tail ++ [id] := by
  have hlast : (wrapId (id + 1) - 1 + (maxJobs - 1)) % maxJobs + 1 = id := by
    unfold wrapId
    split <;> simp only [maxJobs] at * <;> omega
  have hrange : List.range maxJobs = List.range (maxJobs - 1) ++ [maxJobs - 1] := List.range_succ
  rw [idsFrom_eq_map_range (wrapId_mem_circle id), hrange, List.map_append, List.map_singleton,
    hlast, ← go_of_mem_circle (wrapId_mem_circle id)]
  rfl

/-- The way that goes on after one of the ids is the way around to it, and comes to it last. -/
theorem idsFrom_of_append {id next : Nat} {before rest : List Nat} (h : 1 ≤ id ∧ id ≤ maxJobs)
    (hway : idsFrom id = before ++ next :: rest) :
    idsFrom (wrapId (next + 1)) = rest ++ before ++ [next] := by
  induction before generalizing id rest with
  | nil =>
    have hid : id = next := (List.cons.inj hway).1
    rw [← hid, idsFrom_wrapId_succ h, hway, List.append_nil]
    rfl
  | cons first before ih =>
    have hid : id = first := (List.cons.inj hway).1
    have hnext : idsFrom (wrapId (first + 1)) = before ++ next :: (rest ++ [first]) := by
      rw [← hid, idsFrom_wrapId_succ h, hway, hid]
      simp
    rw [ih (wrapId_mem_circle first) hnext]
    simp

/-- The way from the id after `m` is the circle after `m`. -/
theorem idsFrom_eq_circleAfter {m : Nat} (h : m ≤ maxJobs) :
    idsFrom (wrapId (m + 1)) = circleAfter m := by
  induction m with
  | zero => decide
  | succ m ih =>
    have hwrap : wrapId (m + 1) = m + 1 := if_neg (by omega)
    have hway := ih (by omega)
    rw [hwrap] at hway
    rw [idsFrom_wrapId_succ ⟨by omega, h⟩, hway, circleAfter_succ h]

/-! ### The free ids in line -/

/-- No job has the id. -/
def isFree (table : JobTable) (id : Nat) : Bool := !table.usesId id

/-- The free ids, in the order in which they come up. -/
def freeIds (table : JobTable) : List Nat := (idsFrom table.nextId).filter table.isFree

theorem isFree_iff {id : Nat} :
    table.isFree id = true ↔ ∀ job ∈ table.jobs, job.id ≠ id := by
  simp [isFree, usesId]

theorem isFree_add (h : table.add pid state commandLine = .ok (job, table')) {id : Nat} :
    table'.isFree id = true ↔ id ≠ job.id ∧ table.isFree id = true := by
  simp only [isFree_iff, mem_jobs_add_iff h, forall_eq_or_imp]
  exact and_congr_left fun _ ↦ ne_comm

/-- A new job gets the first id in line. -/
theorem freeIds_add (hwellFormed : table.WellFormed)
    (h : table.add pid state commandLine = .ok (job, table')) :
    table.freeIds = job.id :: table'.freeIds := by
  obtain ⟨-, hjob, hnext, -⟩ := exists_of_add h
  have hfind : (idsFrom table.nextId).find? table.isFree = some job.id := by
    rw [hjob]
    exact find?_eq_some_freeId hwellFormed (exists_add_iff.1 ⟨job, table', h⟩).2
  obtain ⟨hfree, before, rest, hway, hused⟩ := List.find?_eq_some_iff_append.1 hfind
  -- On the way, the ids before that of the job are in use, and it does not come up again.
  have hnodup : (before ++ job.id :: rest).Nodup := hway ▸ nodup_idsFrom hwellFormed.nextId_mem
  have hnot : job.id ∉ rest := (List.nodup_cons.1 (List.nodup_append.1 hnodup).2.1).1
  have hbefore (other : JobTable) (hsub : ∀ id, other.isFree id = true → table.isFree id = true) :
      before.filter other.isFree = [] :=
    List.filter_eq_nil_iff.2 fun id hid hother ↦ by simpa [hsub id hother] using hused id hid
  have hrest : rest.filter table'.isFree = rest.filter table.isFree := by
    refine List.filter_congr fun id hid ↦ ?_
    rw [Bool.eq_iff_iff, isFree_add h]
    exact and_iff_right fun heq ↦ hnot (heq ▸ hid)
  have hlast : [job.id].filter table'.isFree = [] :=
    List.filter_cons_of_neg fun hlater ↦ ((isFree_add h).1 hlater).1 rfl
  calc table.freeIds = job.id :: rest.filter table.isFree := by
        rw [freeIds, hway, List.filter_append, hbefore table fun _ ↦ id, List.nil_append,
          List.filter_cons_of_pos hfree]
    _ = job.id :: table'.freeIds := by
        rw [freeIds, hnext, idsFrom_of_append hwellFormed.nextId_mem hway, List.filter_append,
          List.filter_append, hrest, hbefore table' fun _ hlater ↦ ((isFree_add h).1 hlater).2,
          hlast, List.append_nil, List.append_nil]

/-- Setting a state changes no number of a table. -/
theorem Follows.ids_and_nextId (h : table.Follows (.setState pid state) table') :
    table'.jobs.map Job.id = table.jobs.map Job.id ∧ table'.nextId = table.nextId := by
  cases h with
  | setState hset => exact ⟨ids_setState hset, (exists_of_setState hset).2.1⟩
  | unchanged => exact ⟨rfl, rfl⟩

theorem Follows.freeIds_eq (h : table.Follows (.setState pid state) table') :
    table'.freeIds = table.freeIds := by
  obtain ⟨hids, hnext⟩ := h.ids_and_nextId
  have hfree : table'.isFree = table.isFree := by
    funext id
    rw [Bool.eq_iff_iff, isFree_iff, isFree_iff]
    simpa using congrArg (fun ids ↦ id ∉ ids) hids
  rw [freeIds, freeIds, hnext, hfree]

/-- There are as many free ids as free slots. -/
theorem length_freeIds (h : table.WellFormed) : table.freeIds.length + table.size = maxJobs := by
  have hused : ((idsFrom table.nextId).filter table.usesId).Perm (table.jobs.map Job.id) := by
    rw [List.perm_ext_iff_of_nodup ((nodup_idsFrom h.nextId_mem).filter _) h.nodup_ids]
    intro id
    rw [List.mem_filter, mem_idsFrom_iff h.nextId_mem, usesId_iff, List.mem_map]
    refine and_iff_right_of_imp ?_
    rintro ⟨job, hjob, rfl⟩
    exact h.id_mem job hjob
  have hsize : ((idsFrom table.nextId).filter table.usesId).length = table.size := by
    rw [hused.length_eq, List.length_map, size]
  have hsplit := List.length_eq_length_filter_add (l := idsFrom table.nextId) table.usesId
  rw [length_idsFrom, hsize] at hsplit
  rw [hsplit, Nat.add_comm]
  rfl

/-! ### Operations that remove no job -/

/-- The id that an operation hands out: that of the job that it adds. -/
def handedOut? (table : JobTable) : TableOperation → Option Nat
  | .add pid state commandLine => match table.add pid state commandLine with
    | .ok (job, _) => some job.id
    | .error _ => none
  | .remove _ | .setState _ _ => none

/-- The ids that several operations hand out, in order. -/
def handedOut : JobTable → List TableOperation → List Nat
  | _, [] => []
  | table, operation :: operations =>
    (table.handedOut? operation).toList ++ handedOut (table.after operation) operations

/-- No operation removes a job. -/
def RemovesNone (table : JobTable) (operations : List TableOperation) : Prop :=
  table.Throughout (fun table operation ↦ operation.RemovesNone table) operations

instance (table : JobTable) (operations : List TableOperation) :
    Decidable (table.RemovesNone operations) :=
  inferInstanceAs (Decidable (Throughout _ table operations))

variable {operation : TableOperation} {operations : List TableOperation}

/-- A valid addition takes the first id in line, as long as there is one, and no other operation
changes the line. -/
theorem handedOut?_and_freeIds_after (h : table.WellFormed)
    (hnone : operation.RemovesNone table) :
    let n := if operation.isValidAdd then 1 else 0
    (table.handedOut? operation).toList = table.freeIds.take n ∧
      (table.after operation).freeIds = table.freeIds.drop n := by
  cases operation with
  | add pid state commandLine =>
    cases hadd : table.add pid state commandLine with
    | ok result =>
      obtain ⟨job, table'⟩ := result
      have hvalid : (TableOperation.add pid state commandLine).isValidAdd = true :=
        decide_eq_true (exists_of_add hadd).1
      simp only [handedOut?, after, hadd, hvalid, freeIds_add h hadd]
      exact ⟨rfl, rfl⟩
    | error error =>
      simp only [handedOut?, after, hadd]
      rcases add_eq_error_iff.1 hadd with ⟨hpid, -⟩ | ⟨-, hfull, -⟩
      · have hvalid : (TableOperation.add pid state commandLine).isValidAdd = false :=
          decide_eq_false (Int.not_le.2 hpid)
        simp [hvalid]
      · have hlength := length_freeIds h
        have hnil : table.freeIds = [] := List.eq_nil_of_length_eq_zero (by omega)
        simp [hnil]
  | remove pid =>
    have hsame : table.after (.remove pid) = table := by
      show ((table.remove pid).map Prod.snd).getD table = table
      rw [show table.remove pid = none from hnone]
      rfl
    rw [hsame]
    exact ⟨rfl, rfl⟩
  | setState pid state => exact ⟨rfl, (table.follows_after (.setState pid state)).freeIds_eq⟩

/-- Ids are handed out in the order of the line. -/
theorem handedOut_eq_take (h : table.WellFormed) (hnone : table.RemovesNone operations) :
    table.handedOut operations = table.freeIds.take (operations.countP (·.isValidAdd)) := by
  induction operations generalizing table with
  | nil => rfl
  | cons operation operations ih =>
    obtain ⟨hhere, hlater⟩ := hnone
    obtain ⟨hfirst, hline⟩ := handedOut?_and_freeIds_after h hhere
    rw [handedOut, ih (h.follows (table.follows_after operation)) hlater, hfirst, hline,
      ← List.take_add, List.countP_cons, Nat.add_comm]

/-! ### After a removal -/

/-- The table is new, or a job was removed from it and none has been added since. -/
inductive Recounted : JobTable → Prop
  | new : Recounted empty
  | remove (operations : List TableOperation) (pid : Pid)
    (h : ((empty.afterAll operations).remove pid).isSome = true) :
    Recounted ((empty.afterAll operations).after (.remove pid))
  | setState {table : JobTable} (h : Recounted table) (pid : Pid) (state : JobState) :
    Recounted (table.after (.setState pid state))

theorem greatestId_eq_foldl : table.greatestId = (table.jobs.map Job.id).foldl max 0 :=
  List.foldl_map.symm

theorem greatestId_le_iff {n : Nat} :
    table.greatestId ≤ n ↔ ∀ job ∈ table.jobs, job.id ≤ n := by
  have hfold (ids : List Nat) (m : Nat) :
      ids.foldl max m ≤ n ↔ m ≤ n ∧ ∀ id ∈ ids, id ≤ n := by
    induction ids generalizing m with
    | nil => simp
    | cons id ids ih => rw [List.foldl_cons, ih, Nat.max_le, List.forall_mem_cons, and_assoc]
  simp [greatestId_eq_foldl, hfold]

theorem WellFormed.greatestId_le (h : table.WellFormed) : table.greatestId ≤ maxJobs :=
  greatestId_le_iff.2 fun job hjob ↦ (h.id_mem job hjob).2

theorem Recounted.wellFormed (h : table.Recounted) : table.WellFormed := by
  induction h with
  | new => exact wellFormed_empty
  | remove operations pid =>
    exact (wellFormed_empty.afterAll operations).follows (follows_after _ _)
  | setState _ pid state ih => exact ih.follows (follows_after _ _)

/-- The next id to be tried is the one after the greatest in use. -/
theorem Recounted.nextId_eq (h : table.Recounted) :
    table.nextId = wrapId (table.greatestId + 1) := by
  induction h with
  | new => decide
  | remove operations pid h =>
    obtain ⟨⟨job, table⟩, hremove⟩ := Option.isSome_iff_exists.1 h
    have hafter : (empty.afterAll operations).after (.remove pid) = table := by
      simp only [after, hremove]
      rfl
    rw [hafter]
    exact (exists_of_remove hremove).2.2.1
  | @setState table _ pid state ih =>
    obtain ⟨hids, hnext⟩ := (table.follows_after (.setState pid state)).ids_and_nextId
    rw [hnext, ih, greatestId_eq_foldl, greatestId_eq_foldl, hids]

theorem Recounted.freeIds_eq (h : table.Recounted) :
    table.freeIds = (circleAfter table.greatestId).filter table.isFree := by
  rw [freeIds, h.nextId_eq, idsFrom_eq_circleAfter h.wellFormed.greatestId_le]

/-- Ten jobs are added, and the fourth and the last are removed. -/
def shrinking : List TableOperation :=
  [.add 101 .background "a &", .add 102 .background "b &", .add 103 .background "c &",
    .add 104 .background "d &", .add 105 .background "e &", .add 106 .background "f &",
    .add 107 .background "g &", .add 108 .background "h &", .add 109 .background "i &",
    .add 110 .background "j &", .remove 104, .remove 110]

/-- As `shrinking`, where the second job is removed last. Another one is then stopped. -/
def shrunk : JobTable :=
  ((empty.afterAll shrinking).after (.remove 102)).after (.setState 105 .stopped)

/-- Eight valid additions, between which operations fail. -/
def growing : List TableOperation :=
  [.add 201 .background "p &", .add 202 .background "q &", .remove 102, .add 203 .background "r &",
    .add 0 .background "s &", .add 204 .background "t &", .setState 204 .foreground,
    .add 205 .background "u &", .add 206 .background "v &", .add 207 .background "w &",
    .setState 999 .stopped, .add 208 .background "x &"]

-- The removal of a job ends the line: the id that was handed out last is the next one again.
example : (empty.afterAll [.add 201 .background "p &", .add 202 .background "q &",
    .remove 202]).freeId = 2 := by decide +kernel

end JobTable

end JobShell
