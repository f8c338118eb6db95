import JobShell.Proofs.ReapOrder
import JobShell.Proofs.Table.Views

/-!
# What a pass over the wait queue does, failures included

A pass learns one status after another, until a wait fails or the queue is empty. A failure ends the
pass, but it takes nothing back and loses nothing: what was learned before stays learned, the entry
that failed is gone, and what is behind it is still queued, in order, for a later pass.
-/

namespace JobShell

open Routine

/-! ### Failing waits -/

namespace WaitEntry

/-- Why a wait that takes the entry fails, if it does. -/
def errno? (entry : WaitEntry) : Option Errno :=
  match entry.read with
  | .error errno => some errno
  | .ok _ => none

theorem errno?_eq_some {entry : WaitEntry} {errno : Errno} :
    entry.errno? = some errno ↔ entry.read = .error errno := by
  unfold errno?
  cases entry.read <;> simp

/-- The process that the entry is about, if it is about one, has a proper id. -/
def IsProper (entry : WaitEntry) : Prop := ∀ pid, entry.pid? = some pid → 1 ≤ pid

/-- A wait either fails or tells a status. -/
theorem isTelling_of_errno? {entry : WaitEntry} (hproper : entry.IsProper)
    (h : entry.errno? = none) : entry.IsTelling := by
  unfold errno? at h
  cases entry with
  | failure errno => cases h
  | status pid change =>
    have hpid : pid ≠ 0 := by
      rintro rfl
      exact absurd (hproper 0 rfl) (by decide)
    cases hread : change.read? pid with
    | some status => exact ⟨status, read_of_some hpid hread⟩
    | none =>
      rw [read_of_none hpid hread] at h
      cases h

end WaitEntry

/-- Why the first wait fails that does, if one does. -/
def firstFailure? (queue : List WaitEntry) : Option Errno := queue.findSome? WaitEntry.errno?

/-- The position of the first entry on which a wait fails, past the end of the queue if there is
none. -/
def failsAt (queue : List WaitEntry) : Nat := queue.findIdx fun entry ↦ entry.errno?.isSome

/-- Waits do not fail before the first one that does. -/
theorem errno?_eq_none_of_mem_take {queue : List WaitEntry} {entry : WaitEntry}
    (h : entry ∈ queue.take (failsAt queue)) : entry.errno? = none := by
  obtain ⟨i, hi, rfl⟩ := List.mem_iff_getElem.1 h
  rw [List.length_take] at hi
  have hnot := List.not_of_lt_findIdx (Nat.lt_of_lt_of_le hi (Nat.min_le_left _ _))
  rw [List.getElem_take]
  simpa using hnot

/-- Without a failing wait there is nothing behind the entries that can be read. -/
theorem failsAt_of_firstFailure?_eq_none {queue : List WaitEntry} (h : firstFailure? queue = none) :
    failsAt queue = queue.length := by
  refine List.findIdx_eq_length.2 fun entry hmem ↦ ?_
  rw [List.findSome?_eq_none_iff.1 h entry hmem]
  rfl

/-- A failing wait takes the entry at that position. -/
theorem exists_entry_of_firstFailure? {queue : List WaitEntry} {errno : Errno}
    (h : firstFailure? queue = some errno) : ∃ entry, entry.errno? = some errno ∧
      queue.drop (failsAt queue) = entry :: queue.drop (failsAt queue + 1) ∧
      queue.take (failsAt queue + 1) = queue.take (failsAt queue) ++ [entry] := by
  obtain ⟨before, entry, after, rfl, hentry, hbefore⟩ := List.findSome?_eq_some_iff.1 h
  have hlength : before.findIdx (fun other ↦ other.errno?.isSome) = before.length :=
    List.findIdx_eq_length.2 fun other hmem ↦ by rw [hbefore other hmem]; rfl
  have hat : failsAt (before ++ entry :: after) = before.length := by
    rw [failsAt, List.findIdx_append, hlength, if_neg (Nat.lt_irrefl _), List.findIdx_cons, hentry]
    exact Nat.zero_add _
  refine ⟨entry, hentry, ?_, ?_⟩
  · rw [hat, List.drop_left, List.drop_length_add_append]
    rfl
  · rw [hat, List.take_left, List.take_length_add_append]
    rfl

/-! ### What is learned -/

/-- What learning a status does: the table that it leads to and the texts that it prints. A status
concerns the first job of its process, and no slot but the one of that job. -/
inductive Learns : JobTable → WaitStatus → JobTable → List String → Prop
  /-- The job of a process that exited is gone, and the next id is the one after the greatest. -/
  | exited {table table' : JobTable} {pid : Pid} {code i : Nat} {job : Job}
    (hfirst : table.HoldsFirst pid i job) (hrewrites : table.Rewrites table' i (some job) none)
    (hnext : table'.nextId = wrapId (table'.greatestId + 1)) :
    Learns table (.exited pid code) table' []
  /-- The job of a process that was ended is gone likewise, and the user is told. -/
  | signaled {table table' : JobTable} {pid : Pid} {signal : Signal} {i : Nat} {job : Job}
    (hfirst : table.HoldsFirst pid i job) (hrewrites : table.Rewrites table' i (some job) none)
    (hnext : table'.nextId = wrapId (table'.greatestId + 1)) :
    Learns table (.signaled pid signal) table'
      [s!"Job {job.names} terminated by signal {signal.number}\n"]
  /-- The job of a process that was stopped is stopped, and the user is told. -/
  | stopped {table table' : JobTable} {pid : Pid} {signal : Signal} {i : Nat} {job : Job}
    (hfirst : table.HoldsFirst pid i job)
    (hrewrites : table.Rewrites table' i (some job) (some { job with state := .stopped }))
    (hnext : table'.nextId = table.nextId) :
    Learns table (.stopped pid signal) table'
      [s!"Job {job.names} stopped by signal {signal.number}\n"]
  /-- The process has no job. -/
  | stranger {table : JobTable} {status : WaitStatus}
    (h : ∀ i job, table.at? i = some job → job.pid ≠ status.pid) : Learns table status table []
  | continued {table : JobTable} {pid : Pid} : Learns table (.continued pid) table []
  | traced {table : JobTable} {pid : Pid} : Learns table (.traced pid) table []

/-- Statuses are learned one after another, each by the table that the one before led to. -/
inductive LearnsAll : JobTable → List WaitStatus → JobTable → List String → Prop
  | nil {table : JobTable} : LearnsAll table [] table []
  | cons {table next table' : JobTable} {status : WaitStatus} {statuses : List WaitStatus}
    {texts later : List String} (h : Learns table status next texts)
    (hlater : LearnsAll next statuses table' later) :
    LearnsAll table (status :: statuses) table' (texts ++ later)

namespace JobTable

variable (table : JobTable)

/-- A status of a proper process does to the table what it says of the process. -/
theorem learns_learned {status : WaitStatus} (hproper : 1 ≤ status.pid) :
    Learns table status (table.learned status) (table.notice? status).toList := by
  cases status with
  | exited pid code =>
    rw [learned, learn?]
    cases hremove : table.remove pid with
    | none => exact .stranger fun i job ↦ pid_ne_of_at? hproper (remove_eq_none_iff.1 hremove)
    | some removed =>
      obtain ⟨i, hrewrites, hfirst⟩ := rewrites_of_remove hremove
      obtain ⟨-, -, hnext, -⟩ := exists_of_remove hremove
      exact .exited hfirst hrewrites hnext
  | signaled pid signal =>
    rw [learned, learn?, notice?, byPid?_eq_remove]
    cases hremove : table.remove pid with
    | none => exact .stranger fun i job ↦ pid_ne_of_at? hproper (remove_eq_none_iff.1 hremove)
    | some removed =>
      obtain ⟨i, hrewrites, hfirst⟩ := rewrites_of_remove hremove
      obtain ⟨-, -, hnext, -⟩ := exists_of_remove hremove
      exact .signaled hfirst hrewrites hnext
  | stopped pid signal =>
    rw [learned, learn?, notice?, byPid?_eq_setState .stopped]
    cases hset : table.setState pid .stopped with
    | none => exact .stranger fun i job ↦ pid_ne_of_at? hproper (setState_eq_none_iff.1 hset)
    | some restated =>
      obtain ⟨job, table'⟩ := restated
      obtain ⟨i, old, hrewrites, hfirst, rfl⟩ := rewrites_of_setState hset
      obtain ⟨-, hnext, -⟩ := exists_of_setState hset
      exact @Learns.stopped table table' pid signal i old hfirst hrewrites hnext
  | continued pid => exact .continued
  | traced pid => exact .traced

theorem learnsAll_learnedAll {statuses : List WaitStatus}
    (hproper : ∀ status ∈ statuses, 1 ≤ status.pid) :
    LearnsAll table statuses (table.learnedAll statuses) (table.notices statuses) := by
  induction statuses generalizing table with
  | nil => exact .nil
  | cons status statuses ih =>
    obtain ⟨hfirst, hrest⟩ := List.forall_mem_cons.1 hproper
    exact .cons (table.learns_learned hfirst) (ih _ hrest)

end JobTable

namespace Shell

variable {m : Machine} {queue : List WaitEntry}

/-- What is before a failing wait can all be read. -/
theorem isTelling_of_mem_take (hproper : ∀ entry ∈ queue, entry.IsProper) {entry : WaitEntry}
    (h : entry ∈ queue.take (failsAt queue)) : entry.IsTelling :=
  WaitEntry.isTelling_of_errno? (hproper entry (List.mem_of_mem_take h))
    (errno?_eq_none_of_mem_take h)

/-- The statuses of entries about proper processes are about proper processes. -/
theorem one_le_pid_of_mem_statuses (hproper : ∀ entry ∈ queue, entry.IsProper) {n : Nat}
    {status : WaitStatus} (h : status ∈ statuses (queue.take n)) : 1 ≤ status.pid := by
  obtain ⟨entry, hmem, hstatus⟩ := List.mem_filterMap.1 h
  exact hproper entry (List.mem_of_mem_take hmem) status.pid (WaitEntry.pid?_of_status? hstatus)

/-- A pass gets as far as the first entry on which a wait fails, and learns what is before it. -/
theorem exists_reap_of_proper (hqueue : m.state.kernel.waitQueue = queue)
    (hproper : ∀ entry ∈ queue, entry.IsProper) :
    ∃ m', Reaped m (m.state.jobs.learnedAll (statuses (queue.take (failsAt queue))))
        (queue.drop (failsAt queue)) (waits (queue.take (failsAt queue)))
        (m.state.jobs.notices (statuses (queue.take (failsAt queue)))) m' ∧ reap m = reap m' := by
  have hstart : Reaped m m.state.jobs (queue.take (failsAt queue) ++ queue.drop (failsAt queue)) []
      [] m := by
    rw [List.take_append_drop, ← hqueue]
    exact ⟨[], rfl, rfl, rfl⟩
  exact exists_reap_of_telling (fun entry hmem ↦ isTelling_of_mem_take hproper hmem) hstart

/-- A wait that fails ends the pass with the entry it took. -/
theorem reap_of_errno? {entry : WaitEntry} {rest : List WaitEntry} {errno : Errno}
    (hqueue : m.state.kernel.waitQueue = entry :: rest) (h : entry.errno? = some errno) :
    reap m = (if errno = .echild then .done () else .failed (.ofCall .waiting errno),
      m.taking entry rest) := by
  rw [reap_apply hqueue]
  have hread := WaitEntry.errno?_eq_some.1 h
  split
  · next hechild => exact reapAll_of_stop (Or.inl (hechild ▸ hread)) m
  · next hne => exact reapAll_of_error hread hne m

/-- A pass over the wait queue ends with an outcome, has led to a table and added to the trace. -/
structure PassesOver (m : Machine) (queue : List WaitEntry) (outcome : Outcome Unit)
    (table : JobTable) (added : Trace) : Prop where
  /-- The entry on which a wait fails is gone and what is behind it is left, and so is all of the
  machine but the queue, the table and the trace. -/
  ends : reap m = (outcome, m.inPass table (queue.drop (failsAt queue + 1)) added)
  /-- What is before a failure can all be read. -/
  telling : ∀ entry ∈ queue.take (failsAt queue), entry.IsTelling
  /-- The statuses before a failure are learned in order. -/
  learns : LearnsAll m.state.jobs (statuses (queue.take (failsAt queue))) table
    (Trace.printed added)
  /-- The calls are the waits that take the entries, and one that finds the queue empty. -/
  calls : Trace.calls added = waits (queue.take (failsAt queue + 1)) ++
    (if firstFailure? queue = none then [⟨.wait, m.state.kernel.emptyAnswer⟩] else [])
  /-- It is no failure that there is no child. -/
  done : firstFailure? queue = none ∨ firstFailure? queue = some .echild → outcome = .done ()
  /-- Any other failure is that of the pass, and fatal. -/
  failed : ∀ errno, firstFailure? queue = some errno → errno ≠ .echild → ∃ error,
    outcome = .failed error ∧ error.text = "waitpid error" ∧ error.causes = [.call errno] ∧
      error.recoverable = false

/-- **What a pass over the wait queue does, failures included.** It takes the entries before the
first one on which a wait fails, and that one, learns the statuses of the former in order, and
leaves the rest of the queue as it is. It fails only if a wait failed for another reason than that
there is no child. -/
theorem reap_up_to_failure (hqueue : m.state.kernel.waitQueue = queue)
    (hproper : ∀ entry ∈ queue, entry.IsProper) :
    ∃ outcome table added, PassesOver m queue outcome table added := by
  have htelling : ∀ entry ∈ queue.take (failsAt queue), entry.IsTelling :=
    fun entry hmem ↦ isTelling_of_mem_take hproper hmem
  have hlearns := m.state.jobs.learnsAll_learnedAll
    (fun status ↦ one_le_pid_of_mem_statuses hproper (n := failsAt queue))
  obtain ⟨m', hm', hreap⟩ := exists_reap_of_proper hqueue hproper
  cases hfirst : firstFailure? queue with
  | none =>
    have hall : queue.length ≤ failsAt queue :=
      Nat.le_of_eq (failsAt_of_firstFailure?_eq_none hfirst).symm
    have hrest : queue.drop (failsAt queue) = [] := List.drop_eq_nil_of_le hall
    rw [hrest] at hm'
    obtain ⟨_, _, hempty, added, rfl, hcalls, htexts⟩ := triple_waitEmpty_reaped.exists_done hm'
    refine ⟨.done (), _, added, ⟨?_, htelling, htexts ▸ hlearns, ?_, fun _ ↦ rfl, ?_⟩⟩
    · rw [hreap, reap_apply hm'.queue, List.drop_eq_nil_of_le (Nat.le_succ_of_le hall)]
      exact hempty
    · rw [hcalls, List.take_of_length_le hall, List.take_of_length_le (Nat.le_succ_of_le hall),
        if_pos hfirst]
    · simp [hfirst]
  | some errno =>
    obtain ⟨entry, herrno, hdrop, htake⟩ := exists_entry_of_firstFailure? hfirst
    rw [hdrop] at hm'
    obtain ⟨added, htaken, hcalls, htexts⟩ := reaped_taking hm'
    refine ⟨if errno = .echild then .done () else .failed (.ofCall .waiting errno), _, added,
      ⟨?_, htelling, htexts ▸ hlearns, ?_, ?_, ?_⟩⟩
    · rw [hreap, reap_of_errno? hm'.queue herrno, htaken]
    · rw [hcalls, htake, hfirst, if_neg (Option.some_ne_none errno), List.append_nil]
      exact List.map_append.symm
    · rintro (hnone | hechild)
      · rw [hfirst] at hnone
        cases hnone
      · rw [if_pos (Option.some.inj (hfirst.symm.trans hechild))]
    · intro errno' hfirst' hne
      obtain rfl := Option.some.inj (hfirst.symm.trans hfirst')
      exact ⟨_, if_neg hne, rfl, rfl, rfl⟩

/-- A stop and an end of the second job are reported, and then the end of the third job, which
cannot be read; another report of it is behind that. -/
def unreadable : List WaitEntry :=
  [.status 12 (.stopped 20), .status 99 (.exited 0), .status 12 (.signaled 9 true),
    .status 13 (.signaled 200 false), .status 13 (.exited 0)]

/-- The pass ends with the entry that cannot be read. The job that was stopped and ended is gone
from the second slot, and the job whose end could not be read is still in the third. -/
theorem reap_of_unreadable : (threeJobs.queueing unreadable).state.kernel.waitQueue = unreadable ∧
    (∀ entry ∈ unreadable, entry.IsProper) ∧ failsAt unreadable = 3 ∧
    firstFailure? unreadable = some .einval ∧
    ∃ outcome table added, PassesOver (threeJobs.queueing unreadable) unreadable outcome table
      added ∧
      table.jobs = [⟨1, 11, .foreground, "make"⟩, ⟨3, 13, .background, "sleep 9 &"⟩] ∧
      Trace.printed added = ["Job [2] (12) stopped by signal 20\n",
        "Job [2] (12) terminated by signal 9\n"] := by
  have hproper : ∀ entry ∈ unreadable, entry.IsProper := by
    simp [unreadable, WaitEntry.IsProper, WaitEntry.pid?]
  have hpasses : ∃ outcome table added,
      PassesOver (threeJobs.queueing unreadable) unreadable outcome table added :=
    reap_up_to_failure rfl hproper
  obtain ⟨outcome, table, added, hpasses⟩ := hpasses
  refine ⟨rfl, hproper, by decide, by decide, outcome, table, added, hpasses, ?_, ?_⟩
  · have hjobs : (reap (threeJobs.queueing unreadable)).2.state.jobs.jobs =
        [⟨1, 11, .foreground, "make"⟩, ⟨3, 13, .background, "sleep 9 &"⟩] := by decide +kernel
    rwa [hpasses.ends] at hjobs
  · have hprinted : Trace.printed (reap (threeJobs.queueing unreadable)).2.trace =
        ["Job [2] (12) stopped by signal 20\n", "Job [2] (12) terminated by signal 9\n"] := by
      decide +kernel
    rw [hpasses.ends] at hprinted
    -- Nothing was in the trace before the pass.
    rwa [show added = added ++ threeJobs.trace from (List.append_nil added).symm]

end Shell

end JobShell
