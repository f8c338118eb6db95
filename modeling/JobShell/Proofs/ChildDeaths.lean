import JobShell.Proofs.Path.Session
import JobShell.Proofs.ReapOrder

/-!
# What a drain makes of a child's death

A job whose child has exited or was ended by a standard signal leaves the table, the user is told of
the signal, and the drain goes on to what else there is. A child that was ended by any other signal
cannot be told from a wait that failed: its status is gone once it was taken, its job stays, and the
drain fails.
-/

namespace JobShell

open Routine

/-! ### Which ends can be read -/

namespace Change

/-- A status tells what happened: no signal has part in it, or a standard one, or it is the stop of
a traced child. -/
def IsReadable : Change → Prop
  | exited _ | continued => True
  | signaled number _ => 1 ≤ number ∧ number ≤ 31
  | stopped number => number = tracedStop ∨ 1 ≤ number ∧ number ≤ 31

theorem read?_isSome_iff {pid : Pid} {change : Change} :
    (change.read? pid).isSome = true ↔ change.IsReadable := by
  cases change with
  | exited code => exact iff_of_true rfl trivial
  | continued => exact iff_of_true rfl trivial
  | signaled number dumped =>
    rw [read?, Option.isSome_map]
    exact Signal.ofNumber?_isSome_iff
  | stopped number =>
    simp only [read?]
    split
    · next htraced => exact iff_of_true rfl (Or.inl htraced)
    · next htraced =>
      rw [Option.isSome_map, Signal.ofNumber?_isSome_iff]
      exact (or_iff_right htraced).symm

/-- What is printed about the end of a job. -/
def farewell (job : Job) : Change → List String
  | signaled number _ => [s!"Job {job.names} terminated by signal {number}\n"]
  | exited _ | stopped _ | continued => []

end Change

/-! ### The job of a dead child -/

namespace JobTable

variable {table : JobTable} {job : Job}

/-- If no process has two jobs, taking out a job leaves all others. -/
theorem remove_of_mem (hpositive : ∀ pid ∈ table.pids, 1 ≤ pid) (hnodup : table.pids.Nodup)
    (hjob : job ∈ table.jobs) : ∃ table', table.remove job.pid = some (job, table') ∧
      table'.jobs = table.jobs.filter (·.pid ≠ job.pid) := by
  have hmem : job.pid ∈ table.pids := List.mem_map_of_mem hjob
  cases hremove : table.remove job.pid with
  | none =>
    rcases remove_eq_none_iff.1 hremove with hlt | hnot
    · exact absurd hlt (Int.not_lt.2 (hpositive _ hmem))
    · exact absurd hmem hnot
  | some removed =>
    obtain ⟨found, table'⟩ := removed
    obtain ⟨-, hpid, -, before, after, hjobs, hjobs', -⟩ := exists_of_remove hremove
    obtain ⟨hothers, -⟩ := (nodup_pids_iff hjobs).1 hnodup
    rw [hpid] at hothers
    obtain rfl : job = found := by
      rw [hjobs, mem_append_cons_iff] at hjob
      exact hjob.resolve_right fun hrest ↦ hothers job hrest rfl
    refine ⟨table', rfl, ?_⟩
    rw [hjobs', hjobs, ← List.filter_eq_self.2 fun other hmem ↦ decide_eq_true (hothers other hmem)]
    simp

/-- What the end of a job's child does to the table, and what is printed about it. -/
theorem learned_of_isEnd {change : Change} {told : WaitStatus} {table' : JobTable}
    (hremove : table.remove job.pid = some (job, table')) (hend : change.isEnd = true)
    (htold : change.read? job.pid = some told) :
    table.learned told = table' ∧ (table.notice? told).toList = change.farewell job := by
  cases change with
  | exited code =>
    obtain rfl := Option.some.inj htold
    exact ⟨by simp [learned, learn?, hremove], rfl⟩
  | signaled number dumped =>
    obtain ⟨signal, hsignal, rfl⟩ := Option.map_eq_some_iff.1 htold
    refine ⟨by simp [learned, learn?, hremove], ?_⟩
    rw [notice?, byPid?_eq_remove, hremove, Signal.number_of_ofNumber? hsignal]
    rfl
  | stopped number => cases hend
  | continued => cases hend

end JobTable

namespace Shell

/-- The rest of a drain that took `noted` and is at work on the wait queue. -/
def resumeDrain (noted : EventSet) : Routine Unit := do
  reap
  onEvent noted.interrupt "Interrupt" (relay .int)
  onEvent noted.suspend "Suspend" (relay .tstp)
  record .drained

theorem drain_apply {m : Machine} (h : m.state.noted.childStatus = true) :
    drain m = resumeDrain m.state.noted
      (m.takingNoted.recording (.log ⟨.trace, .jobControl, "handling ChildStatus"⟩)) := by
  unfold drain
  have htake : takeNoted m = (.done m.state.noted, m.takingNoted) := rfl
  rw [bind_of_done htake, h]
  rfl

variable {m : Machine} {before rest : List WaitEntry}

/-- **A child's death is absorbed if its status can be read.** A drain has come to the status of a
job's child that ended, behind statuses that it could read. If the child exited or was ended by a
standard signal, the job leaves the table and no other does, the signal is printed, and the drain
goes on with what is behind the status. If the child was ended by any other signal, the drain fails,
although it took the status: the job stays in the table, nothing is said of it, and what is behind
the status is left. -/
theorem death_absorbed_if_readable (session : Session) {job : Job} {change : Change}
    (hpath : OnPath Phase.IsOver session.Begins m) (hnoted : m.state.noted.childStatus = true)
    (hqueue : m.state.kernel.waitQueue = before ++ .status job.pid change :: rest)
    (htelling : ∀ entry ∈ before, entry.IsTelling)
    (hjob : job ∈ (m.state.jobs.learnedAll (statuses before)).jobs)
    (hend : change.isEnd = true) :
    (change.IsReadable → ∃ table m',
      table.jobs = (m.state.jobs.learnedAll (statuses before)).jobs.filter (·.pid ≠ job.pid) ∧
      Reaped m.takingNoted table rest (waits before ++ [⟨.wait, .number job.pid⟩])
        (m.state.jobs.notices (statuses before) ++ change.farewell job) m' ∧
      drain m = resumeDrain m.state.noted m') ∧
    (¬ change.IsReadable → ∃ m',
      Reaped m.takingNoted (m.state.jobs.learnedAll (statuses before)) rest
        (waits before ++ [⟨.wait, .number job.pid⟩]) (m.state.jobs.notices (statuses before)) m' ∧
      drain m = (.failed (.ofCall .waiting .einval), m')) := by
  obtain ⟨p, hpath⟩ := hpath
  have hsound := (hpath.sound session.sound_of_begins).state
  have hfewer := m.state.jobs.pids_learnedAll_sublist (statuses before)
  have hpositive : ∀ pid ∈ (m.state.jobs.learnedAll (statuses before)).pids, 1 ≤ pid :=
    fun pid hmem ↦ hsound.positive pid (hfewer.subset hmem)
  have hpid : job.pid ≠ 0 := by
    intro hzero
    exact absurd (hpositive job.pid (List.mem_map_of_mem hjob)) (by rw [hzero]; decide)
  have hstart : Reaped m.takingNoted m.state.jobs (before ++ .status job.pid change :: rest) [] []
      (m.takingNoted.recording (.log ⟨.trace, .jobControl, "handling ChildStatus"⟩)) := by
    refine Reaped.quiet ⟨[], ?_, rfl, rfl⟩ rfl rfl
    rw [← hqueue]
    rfl
  obtain ⟨m₁, hcome, hreap₁⟩ := exists_reap_of_telling htelling hstart
  constructor
  · intro hreadable
    obtain ⟨told, htold⟩ := Option.isSome_iff_exists.1 (Change.read?_isSome_iff.2 hreadable)
    obtain ⟨table, hremove, hjobs⟩ :=
      JobTable.remove_of_mem hpositive (hsound.nodup.sublist hfewer) hjob
    obtain ⟨hlearned, hnotice⟩ := JobTable.learned_of_isEnd hremove hend htold
    obtain ⟨m', hreaped, hreap⟩ := exists_reap_of_status hcome (WaitEntry.read_of_some hpid htold)
    rw [hlearned, hnotice] at hreaped
    refine ⟨table, m', hjobs, hreaped, ?_⟩
    rw [drain_apply hnoted]
    exact bind_apply_congr (hreap₁.trans hreap) _
  · intro hunreadable
    have hnone : change.read? job.pid = none := by
      rw [← Option.not_isSome_iff_eq_none, Change.read?_isSome_iff]
      exact hunreadable
    have hread := WaitEntry.read_of_none hpid hnone
    refine ⟨_, reaped_taking hcome, ?_⟩
    rw [drain_apply hnoted]
    refine bind_of_failed (hreap₁.trans ?_)
    exact (reap_apply hcome.queue).trans (reapAll_of_error hread nofun _)

/-- A session in which the child of a job in the background is ended by the signal with the given
number. -/
def shot (number : Nat) : Session where
  steps := [⟨.line "sleep 9 &", {}⟩, ⟨.occur (.child 1001 (.signaled number true)), {}⟩]

/-- The machine at its end. -/
def bereft (number : Nat) : Machine := (shot number).last.machine

/-- The job of the session. -/
def sleeper : Job := ⟨1, 1001, .background, "sleep 9 &"⟩

/-- The end of a child by a standard signal is printed, and its job is gone. -/
theorem death_absorbed_of_shot : OnPath Phase.IsOver (shot 9).Begins (bereft 9) ∧
    (bereft 9).state.noted.childStatus = true ∧
    (bereft 9).state.kernel.waitQueue = [] ++ .status sleeper.pid (.signaled 9 true) :: [] ∧
    sleeper ∈ ((bereft 9).state.jobs.learnedAll (statuses [])).jobs ∧
    ∃ table m', table.jobs = [] ∧
      Reaped (bereft 9).takingNoted table [] [⟨.wait, .number 1001⟩]
        ["Job [1] (1001) terminated by signal 9\n"] m' ∧
      drain (bereft 9) = resumeDrain (bereft 9).state.noted m' := by
  have hpath : OnPath Phase.IsOver (shot 9).Begins (bereft 9) := (shot 9).onPath_last
  have hnoted : (bereft 9).state.noted.childStatus = true := by decide +kernel
  have hqueue : (bereft 9).state.kernel.waitQueue =
      [] ++ .status sleeper.pid (.signaled 9 true) :: [] := by decide +kernel
  have hjob : sleeper ∈ ((bereft 9).state.jobs.learnedAll (statuses [])).jobs := by
    decide +kernel
  have htelling : ∀ entry ∈ ([] : List WaitEntry), entry.IsTelling :=
    fun entry hmem ↦ absurd hmem List.not_mem_nil
  have hgone : ((bereft 9).state.jobs.learnedAll (statuses [])).jobs.filter
      (·.pid ≠ sleeper.pid) = [] := by decide +kernel
  have htexts : (bereft 9).state.jobs.notices (statuses []) ++
      (Change.signaled 9 true).farewell sleeper =
        ["Job [1] (1001) terminated by signal 9\n"] := by decide +kernel
  obtain ⟨table, m', hjobs, hreaped, hdrain⟩ :=
    (death_absorbed_if_readable (shot 9) hpath hnoted hqueue htelling hjob rfl).1
      ⟨by decide, by decide⟩
  have hcalls : waits [] ++ [⟨.wait, .number sleeper.pid⟩] = [⟨.wait, .number 1001⟩] := rfl
  rw [hcalls, htexts] at hreaped
  exact ⟨hpath, hnoted, hqueue, hjob, table, m', hjobs.trans hgone, hreaped, hdrain⟩

/-- Ended by a real-time signal, the child has a status that cannot be read: the drain takes it and
fails, and the job of the dead child stays. -/
theorem death_kept_of_shot : (bereft 34).state.noted.childStatus = true ∧
    (bereft 34).state.kernel.waitQueue = [.status sleeper.pid (.signaled 34 true)] ∧
    sleeper ∈ (bereft 34).state.jobs.jobs ∧
    (drain (bereft 34)).1 = .failed (.ofCall .waiting .einval) ∧
    (drain (bereft 34)).2.state.kernel.waitQueue = [] ∧
    sleeper ∈ (drain (bereft 34)).2.state.jobs.jobs := by
  decide +kernel

end Shell

end JobShell
