import JobShell.Proofs.Path.Session

/-!
# Foreground discipline

Nothing in the job table keeps it from holding several jobs in the foreground. It is the order of
the shell's acts that does: a job is put in the foreground only when there is none, the shell then
waits for that very job, and it leaves the wait when the job was removed or stopped. Only a fatal
error gets the shell out of a wait while the job is still in the foreground. Both are invariants of
a path: `Disciplined` says whose job may be in the foreground, and `Fronted` what became of those
that were put there.
-/

namespace JobShell

/-- The jobs in the foreground. -/
def JobTable.foregroundJobs (table : JobTable) : List Job :=
  table.jobs.filter fun job ↦ job.state = .foreground

/-- If any job is in the foreground, then a job in the foreground is found. -/
theorem JobTable.exists_of_foreground {table : JobTable} {job : Job} (hjob : job ∈ table.jobs)
    (hstate : job.state = .foreground) :
    ∃ found ∈ table.jobs, found.state = .foreground ∧ table.foregroundPid? = some found.pid := by
  have hsome : (table.jobs.find? fun job ↦ job.state == .foreground).isSome = true :=
    List.find?_isSome.2 ⟨job, hjob, beq_iff_eq.2 hstate⟩
  obtain ⟨found, hfound⟩ := Option.isSome_iff_exists.1 hsome
  have hforeground := List.find?_some hfound
  refine ⟨found, List.mem_of_find?_eq_some hfound, beq_iff_eq.1 hforeground, ?_⟩
  rw [foregroundPid?, hfound, Option.map_some]

/-- Setting a state other than the foreground puts no job there. -/
theorem JobTable.mem_of_setState {table table' : JobTable} {job other : Job} {pid : Pid}
    {newState : JobState} (hset : table.setState pid newState = some (job, table'))
    (hnodup : table.pids.Nodup) (hnew : newState ≠ .foreground) (hother : other ∈ table'.jobs)
    (hstate : other.state = .foreground) : other ∈ table.jobs := by
  rcases (mem_jobs_setState_iff hset hnodup).1 hother with rfl | ⟨hold, -⟩
  · obtain ⟨-, -, old, -, -, rfl, -⟩ := exists_of_setState hset
    exact absurd hstate hnew
  · exact hold

/-- An ending with an error that the user cannot act on. -/
def Ending.isFatal : Ending → Bool
  | replied (.failed error) => !error.recoverable
  | _ => false

/-- The phases in which some work is over and no fatal error has occurred in it. -/
def Phase.IsFine : Phase → Prop
  | reached .settled => True
  | reached (.failed error) => error.recoverable = true
  | _ => False

/-! ### The process in the foreground -/

/-- What work comes to says whose job may be in the foreground. -/
def Upshot.Permits : Upshot → Option Pid → Prop
  | settled, front => front = none
  | failed error, front => error.recoverable = true → front = none
  | awaiting pid, front => front = some pid
  | child, _ => True

/-- In the wait for a process, it is the job of that process. -/
def Site.Permits : Site → Option Pid → Prop
  | prompt, front => front = none
  | wait _ pid, front => front = some pid

/-- Whose job may be in the foreground in a phase. -/
def Phase.Permits : Phase → Option Pid → Prop
  | ready, front | continued _, front | launching _, front | forked _ _, front => front = none
  | reaping site, front | taken site _, front | learning site _, front | relaying site, front =>
    site.Permits front
  | waiting _ pid, front | drained _ pid, front | asleep _ pid, front => front = some pid
  | restoring _ upshot, front | reached upshot, front => upshot.Permits front

/-- Every job in the foreground is that of the one process whose job may be. -/
def Disciplined (p : Phase) (table : JobTable) : Prop :=
  ∃ front, p.Permits front ∧ ∀ job ∈ table.jobs, job.state = .foreground → front = some job.pid

/-- No process has two jobs, so no two jobs are in the foreground. -/
theorem Disciplined.length_foregroundJobs_le {p : Phase} {table : JobTable}
    (h : Disciplined p table) (hnodup : table.pids.Nodup) : table.foregroundJobs.length ≤ 1 := by
  obtain ⟨front, -, hfront⟩ := h
  have hpids : (table.foregroundJobs.map Job.pid).Nodup :=
    hnodup.sublist (List.filter_sublist.map Job.pid)
  have hsame : ∀ pid ∈ table.foregroundJobs.map Job.pid, front = some pid := by
    intro pid hpid
    obtain ⟨job, hjob, rfl⟩ := List.mem_map.1 hpid
    obtain ⟨hmem, hstate⟩ := List.mem_filter.1 hjob
    exact hfront job hmem (of_decide_eq_true hstate)
  rw [← List.length_map Job.pid]
  generalize table.foregroundJobs.map Job.pid = pids at hpids hsame
  cases pids with
  | nil => exact Nat.zero_le 1
  | cons first rest =>
    cases rest with
    | nil => exact Nat.le_refl 1
    | cons second rest =>
      -- The first two have the same process, although no two jobs have.
      have hfirst := hsame first (by simp)
      have hsecond := hsame second (by simp)
      obtain rfl := Option.some.inj (hfirst.symm.trans hsecond)
      exact absurd hpids (by simp)

/-- Where no job may be in the foreground, there is none. -/
theorem Disciplined.foregroundJobs_eq_nil {p : Phase} {table : JobTable}
    (h : Disciplined p table) (hp : ∀ front, p.Permits front → front = none) :
    table.foregroundJobs = [] := by
  obtain ⟨front, hpermits, hfront⟩ := h
  refine List.filter_eq_nil_iff.2 fun job hjob hstate ↦ ?_
  have hsome := hfront job hjob (of_decide_eq_true hstate)
  rw [hp front hpermits] at hsome
  cases hsome

/-- Where no job may be in the foreground, none is found there. -/
theorem Disciplined.foregroundPid?_eq_none {p : Phase} {table : JobTable}
    (h : Disciplined p table) (hp : ∀ front, p.Permits front → front = none) :
    table.foregroundPid? = none := by
  obtain ⟨front, hpermits, hfront⟩ := h
  rw [JobTable.foregroundPid?, Option.map_eq_none_iff, List.find?_eq_none]
  intro job hjob hstate
  have hsome := hfront job hjob (beq_iff_eq.1 hstate)
  rw [hp front hpermits] at hsome
  cases hsome

namespace Disciplined

variable {p p' : Phase} {s : State} {table table' : JobTable}

theorem turn (h : Disciplined p s.jobs) (hturn : Turn p s p') : Disciplined p' s.jobs := by
  obtain ⟨front, hpermits, hfront⟩ := h
  cases hturn with
  | stop => exact ⟨front, hpermits, hfront⟩
  | unreadable site => cases site <;> exact ⟨front, nofun, hfront⟩
  | unchanged => exact ⟨front, hpermits, hfront⟩
  | settle => exact ⟨front, hpermits, hfront⟩
  | refuse => exact ⟨front, fun _ ↦ hpermits, hfront⟩
  | unstarted => exact ⟨front, nofun, hfront⟩
  | recover hrecoverable => exact ⟨front, hpermits hrecoverable, hfront⟩
  | @goneForeground _ job =>
    -- The shell waits for a process without a job; no job is in the foreground then.
    obtain rfl : front = none := hpermits
    exact ⟨some job.pid, rfl, fun other hother hstate ↦ nomatch hfront other hother hstate⟩
  | goneBackground => exact ⟨front, fun _ ↦ hpermits, hfront⟩
  | child => exact ⟨front, trivial, hfront⟩
  | @leave _ previous pid hpid =>
    obtain rfl : front = some pid := hpermits
    -- The wait looks at the first job in the foreground only, but there is no second one.
    refine ⟨none, rfl, fun job hjob hstate ↦ absurd ?_ hpid⟩
    obtain ⟨found, hfound, hforeground, heq⟩ := JobTable.exists_of_foreground hjob hstate
    rw [heq, hfront found hfound hforeground]

theorem record {event : Event} (h : Disciplined p s.jobs) (hremark : Remark p s event p') :
    Disciplined p' s.jobs := by
  obtain ⟨front, hpermits, hfront⟩ := h
  cases hremark with
  | quiet => exact ⟨front, hpermits, hfront⟩
  | waitEmpty => exact ⟨front, hpermits, hfront⟩
  | learn => exact ⟨front, hpermits, hfront⟩
  | relay => exact ⟨front, hpermits, hfront⟩
  | drained site => cases site <;> exact ⟨front, hpermits, hfront⟩
  | resume => exact ⟨front, hpermits, hfront⟩
  | unblockedWait => exact ⟨front, nofun, hfront⟩
  | unrestored => exact ⟨front, hpermits, hfront⟩
  | _ => exact ⟨front, fun _ ↦ hpermits, hfront⟩

theorem changeJobs {change : JobChange} (h : Disciplined p s.jobs) (hnodup : s.jobs.pids.Nodup)
    (hrewrite : Rewrite p s change table p') : Disciplined p' table := by
  obtain ⟨front, hpermits, hfront⟩ := h
  cases hrewrite with
  | learned site hlearn =>
    refine ⟨front, hpermits, fun other hother hstate ↦ hfront other ?_ hstate⟩
    rcases JobTable.exists_of_learn? hlearn with ⟨pid, job, -, -, hremove⟩ | ⟨pid, job, -, -, hset⟩
    · exact ((JobTable.mem_jobs_remove_iff hremove hnodup).1 hother).1
    · exact JobTable.mem_of_setState hset hnodup nofun hother hstate
  | @foreground _ job changed _ hset =>
    obtain rfl : front = none := hpermits
    refine ⟨some job.pid, rfl, fun other hother hstate ↦ ?_⟩
    rcases (JobTable.mem_jobs_setState_iff hset hnodup).1 hother with rfl | ⟨hold, -⟩
    · obtain ⟨-, -, old, -, -, rfl, hpid, -⟩ := JobTable.exists_of_setState hset
      exact congrArg some hpid.symm
    · exact nomatch hfront other hold hstate
  | background hset =>
    refine ⟨front, hpermits, fun other hother hstate ↦ hfront other ?_ hstate⟩
    exact JobTable.mem_of_setState hset hnodup nofun hother hstate
  | @add _ previous pid newState commandLine job _ hne hadd =>
    obtain rfl : front = none := hpermits
    unfold Upshot.ofJob
    split
    · next hforeground =>
      refine ⟨some job.pid, rfl, fun other hother hstate ↦ ?_⟩
      rcases (JobTable.mem_jobs_add_iff hadd).1 hother with rfl | hold
      · rfl
      · exact nomatch hfront other hold hstate
    · next hforeground =>
      refine ⟨none, rfl, fun other hother hstate ↦ ?_⟩
      rcases (JobTable.mem_jobs_add_iff hadd).1 hother with rfl | hold
      · exact absurd hstate hforeground
      · exact hfront other hold hstate

/-- Every move keeps all jobs in the foreground those of one process. -/
theorem move {m m' : Machine} (h : Disciplined p m.state.jobs) (hsound : Sound p m)
    (hmove : Move p m p' m') : Disciplined p' m'.state.jobs := by
  cases hmove with
  | same hstate =>
    rw [hstate]
    exact h
  | turn hturn => exact h.turn hturn
  | record hremark => exact h.record hremark
  | happen what =>
    show Disciplined p ((m.state.undergoing what).raising what.signal).jobs
    rw [State.jobs_raising, State.jobs_undergoing]
    exact h
  | takeNoted site =>
    obtain ⟨front, hpermits, hfront⟩ := h
    have hsite : site.Permits front := by cases site <;> exact hpermits
    split
    · exact ⟨front, hsite, hfront⟩
    · exact ⟨front, hsite, hfront⟩
  | takeEntry site => exact h
  | changeJobs hrewrite => exact h.changeJobs hsound.state.nodup hrewrite
  | @remask _ _ _ how signals hremask =>
    show Disciplined p' ((m.state.withKernel _).delivering _).jobs
    rw [State.jobs_delivering]
    cases hremask with
    | _ => exact h
  | spawn => exact h
  | sleep => exact h
  | endAll =>
    show Disciplined _ ((m.state.ending _).raising _).jobs
    rw [State.jobs_raising]
    exact h
  | wake =>
    show Disciplined _ (m.state.delivering _).jobs
    rw [State.jobs_delivering]
    exact h

end Disciplined

/-- On a path without a fatal error before its end, there is never more than one job in the
foreground. -/
theorem Path.disciplined {again : Phase → Prop} {start : Machine → Prop} {p : Phase} {m : Machine}
    (h : Path again start p m) (hagain : ∀ p, again p → p.IsFine)
    (hsound : ∀ m, start m → Sound .ready m)
    (hstart : ∀ m, start m → Disciplined .ready m.state.jobs) : Disciplined p m.state.jobs := by
  induction h with
  | start h => exact hstart _ h
  | move hpath hmove ih => exact ih.move (hpath.sound hsound) hmove
  | @again p m _ ha ih =>
    obtain ⟨front, hpermits, hfront⟩ := ih
    have hfine := hagain p ha
    cases p with
    | reached upshot =>
      cases upshot with
      | settled => exact ⟨front, hpermits, hfront⟩
      | failed error => exact ⟨front, hpermits hfine, hfront⟩
      | _ => exact hfine.elim
    | _ => exact hfine.elim

theorem Path.length_foregroundJobs_le {again : Phase → Prop} {start : Machine → Prop} {p : Phase}
    {m : Machine} (h : Path again start p m) (hagain : ∀ p, again p → p.IsFine)
    (hsound : ∀ m, start m → Sound .ready m)
    (hstart : ∀ m, start m → Disciplined .ready m.state.jobs ∧ m.history = []) :
    ∀ moment ∈ m.history, moment.state.jobs.foregroundJobs.length ≤ 1 := by
  induction h with
  | start h =>
    rw [(hstart _ h).2]
    exact fun moment hmem ↦ absurd hmem List.not_mem_nil
  | move hpath hmove ih =>
    intro moment hmem
    rcases hmove.jobs_of_mem_history hmem with hold | heq
    · exact ih moment hold
    · have hafter := hpath.move hmove
      rw [heq]
      exact (hafter.disciplined hagain hsound fun m hm ↦ (hstart m hm).1).length_foregroundJobs_le
        (hafter.sound hsound).state.nodup
  | again _ _ ih => exact ih

/-! ### What becomes of a job in the foreground -/

/-- The job that an event puts in the foreground. -/
def Event.fronted? : Event → Option Job
  | jobs (.added job) | jobs (.restated job) =>
    if job.state = .foreground then some job else none
  | _ => none

theorem fronted?_eq_none {event : Event} (h : ∀ change, event ≠ .jobs change) :
    event.fronted? = none := by
  cases event with
  | jobs change => exact absurd rfl (h change)
  | _ => rfl

/-- The phases of a line in which it has not put a job in the foreground. -/
def Phase.IsBeforehand : Phase → Prop
  | ready | reaping .prompt | taken .prompt _ | learning .prompt _ | relaying .prompt
  | continued _ | launching _ | forked _ _ => True
  | _ => False

/-- There is no way back to a phase before a job was put in the foreground. -/
theorem Move.isBeforehand {p p' : Phase} {m m' : Machine} (h : Move p m p' m')
    (hp' : p'.IsBeforehand) : p.IsBeforehand := by
  cases h with
  | same => exact hp'
  | turn h =>
    cases h with
    | unreadable site => cases site <;> exact hp'.elim
    | stop site => cases site <;> exact hp'
    | unchanged site => cases site <;> exact hp'
    | _ => exact hp'.elim
  | record h =>
    cases h with
    | quiet => exact hp'
    | drained site => cases site <;> exact hp'
    | waitEmpty site => cases site <;> exact hp'
    | learn site => cases site <;> exact hp'
    | relay => exact hp'
    | resume => trivial
    | _ => exact hp'.elim
  | happen => exact hp'
  | takeNoted site =>
    cases site with
    | prompt => trivial
    | wait =>
      split at hp'
      · exact hp'
      · exact hp'
  | takeEntry site => cases site <;> exact hp'
  | changeJobs h =>
    cases h with
    | learned site => cases site <;> exact hp'
    | _ => exact hp'.elim
  | remask h =>
    cases h with
    | launch => trivial
    | _ => exact hp'.elim
  | spawn => trivial
  | sleep => exact hp'.elim
  | endAll => exact hp'.elim
  | wake => exact hp'.elim

/-- Since `past`, each job that was put in the foreground is not in the background now. -/
def Fronted (past : Trace) (p : Phase) (m : Machine) : Prop :=
  ∃ news, m.history = news ++ past ∧
    (p.IsBeforehand → ∀ moment ∈ news, moment.event.fronted? = none) ∧
    ∀ moment ∈ news, ∀ job, moment.event.fronted? = some job →
      ∀ other ∈ m.state.jobs.jobs, other.pid = job.pid → other.state ≠ .background

/-- What a drain learns puts no job in the foreground. -/
theorem fronted?_of_learn? {table table' : JobTable} {status : WaitStatus} {change : JobChange}
    (h : table.learn? status = some (change, table')) : (Event.jobs change).fronted? = none := by
  rcases JobTable.exists_of_learn? h with ⟨pid, gone, -, rfl, -⟩ | ⟨pid, stopped, -, rfl, hset⟩
  · rfl
  · obtain ⟨-, -, old, -, -, rfl, -⟩ := JobTable.exists_of_setState hset
    rfl

/-- What a drain learns puts no job in the background either. -/
theorem ne_background_of_learn? {table table' : JobTable} {status : WaitStatus} {change : JobChange}
    {pid : Pid} (h : table.learn? status = some (change, table')) (hnodup : table.pids.Nodup)
    (hold : ∀ other ∈ table.jobs, other.pid = pid → other.state ≠ .background) :
    ∀ other ∈ table'.jobs, other.pid = pid → other.state ≠ .background := by
  intro other hother
  rcases JobTable.exists_of_learn? h with ⟨ended, gone, -, -, hremove⟩ |
    ⟨ended, stopped, -, -, hset⟩
  · exact hold other ((JobTable.mem_jobs_remove_iff hremove hnodup).1 hother).1
  · rcases (JobTable.mem_jobs_setState_iff hset hnodup).1 hother with rfl | ⟨hmem, -⟩
    · obtain ⟨-, -, old, -, -, rfl, -⟩ := JobTable.exists_of_setState hset
      exact fun _ ↦ nofun
    · exact hold other hmem

/-- What a line has put in the foreground is only ever removed or stopped, and nothing was put in
the foreground before. -/
theorem Rewrite.fronted {p p' : Phase} {m : Machine} {change : JobChange} {table : JobTable}
    {news : Trace} (h : Rewrite p m.state change table p') (hsound : Sound p m)
    (hbefore : p.IsBeforehand → ∀ moment ∈ news, moment.event.fronted? = none)
    (hfronted : ∀ moment ∈ news, ∀ job, moment.event.fronted? = some job →
      ∀ other ∈ m.state.jobs.jobs, other.pid = job.pid → other.state ≠ .background) :
    (p'.IsBeforehand → (Event.jobs change).fronted? = none) ∧
      ∀ moment ∈ ⟨.jobs change, { m.state with jobs := table }⟩ :: news, ∀ job,
        moment.event.fronted? = some job →
          ∀ other ∈ table.jobs, other.pid = job.pid → other.state ≠ .background := by
  have hnodup := hsound.state.nodup
  have hnone : p.IsBeforehand → ∀ moment ∈ news, ∀ job, moment.event.fronted? ≠ some job := by
    intro hp moment hmem job hjob
    rw [hbefore hp moment hmem] at hjob
    cases hjob
  simp only [List.forall_mem_cons]
  cases h with
  | learned site hlearn =>
    have hquiet := fronted?_of_learn? hlearn
    refine ⟨fun _ ↦ hquiet, fun job hjob ↦ ?_, fun moment hmem job hjob ↦ ?_⟩
    · rw [hquiet] at hjob
      cases hjob
    · exact ne_background_of_learn? hlearn hnodup (hfronted moment hmem job hjob)
  | @foreground _ old changed _ hset =>
    -- The event is about the job that was restated, and no job was put in the foreground before.
    refine ⟨nofun, fun job hjob other hother hpid ↦ ?_, fun moment hmem job hjob ↦ ?_⟩
    · obtain ⟨-, -, found, -, -, rfl, hfound, -⟩ := JobTable.exists_of_setState hset
      obtain rfl := Option.some.inj hjob
      rcases (JobTable.mem_jobs_setState_iff hset hnodup).1 hother with rfl | ⟨-, hne⟩
      · exact nofun
      · exact absurd (hpid.trans hfound) hne
    · exact absurd hjob (hnone trivial moment hmem job)
  | background hset =>
    refine ⟨nofun, fun job hjob ↦ ?_, fun moment hmem job hjob ↦ ?_⟩
    · obtain ⟨-, -, found, -, -, rfl, -⟩ := JobTable.exists_of_setState hset
      cases hjob
    · exact absurd hjob (hnone trivial moment hmem job)
  | @add _ previous pid newState commandLine added _ hne hadd =>
    refine ⟨nofun, fun job hjob other hother hpid ↦ ?_, fun moment hmem job hjob ↦ ?_⟩
    · have hjob' : (if added.state = .foreground then some added else none) = some job := hjob
      split at hjob'
      · next hforeground =>
        obtain rfl := Option.some.inj hjob'
        rcases (JobTable.mem_jobs_add_iff hadd).1 hother with rfl | hold
        · rw [hforeground]
          exact nofun
        -- No other job has the process of the new one, which was forked a moment ago.
        · obtain ⟨-, rfl, -⟩ := JobTable.exists_of_add hadd
          have hmem : other.pid ∈ m.state.jobs.pids := List.mem_map_of_mem hold
          rw [hpid] at hmem
          exact absurd hmem (hsound.fresh _ rfl).2
      · cases hjob'
    · exact absurd hjob (hnone trivial moment hmem job)

/-- A line that has put a job in the foreground makes it the job of no other state than stopped. -/
theorem Fronted.move {past : Trace} {p p' : Phase} {m m' : Machine} (h : Fronted past p m)
    (hsound : Sound p m) (hmove : Move p m p' m') : Fronted past p' m' := by
  obtain ⟨news, hpast, hbefore, hfronted⟩ := h
  rcases hmove.jobs_cases with ⟨hsame, added, hhistory, hadded⟩ |
    ⟨change, table, hrewrite, rfl, hhistory⟩
  · have hnone : ∀ moment ∈ added, moment.event.fronted? = none :=
      fun moment hmem ↦ fronted?_eq_none (hadded moment hmem).2
    refine ⟨added ++ news, by rw [hhistory, hpast, List.append_assoc], fun hp' moment hmem ↦ ?_,
      fun moment hmem job hjob ↦ ?_⟩
    · rcases List.mem_append.1 hmem with hnew | hold
      · exact hnone moment hnew
      · exact hbefore (hmove.isBeforehand hp') moment hold
    · rw [hsame]
      rcases List.mem_append.1 hmem with hnew | hold
      · rw [hnone moment hnew] at hjob
        cases hjob
      · exact hfronted moment hold job hjob
  · obtain ⟨hquiet, hfronted'⟩ := hrewrite.fronted hsound hbefore hfronted
    refine ⟨⟨.jobs change, m'.state⟩ :: news, by rw [hhistory, hpast, List.cons_append],
      fun hp' ↦ List.forall_mem_cons.2 ⟨hquiet hp', hbefore (hmove.isBeforehand hp')⟩, ?_⟩
    rw [List.forall_mem_cons] at hfronted' ⊢
    exact hfronted'

/-- In one piece of work at most one job is put in the foreground, and it never gets from there to
the background. -/
theorem Path.fronted {start : Machine → Prop} {past : Trace} {p : Phase} {m : Machine}
    (h : Path (fun _ ↦ False) start p m) (hsound : ∀ m, start m → Sound .ready m)
    (hstart : ∀ m, start m → m.history = past) : Fronted past p m := by
  induction h with
  | start h =>
    exact ⟨[], hstart _ h, fun _ moment hmem ↦ absurd hmem List.not_mem_nil,
      fun moment hmem ↦ absurd hmem List.not_mem_nil⟩
  | move hpath hmove ih => exact ih.move (hpath.sound hsound) hmove
  | again _ hnever => exact hnever.elim

/-! ### Sessions without a fatal error -/

/-- The machines of a session in which no fatal error has occurred and nothing is under way: after
its start, after a step or at the beginning of one, and in a step that runs a whole input also
before and after each line. -/
inductive Session.Idles (session : Session) : Machine → Prop
  | start (h : session.start.ending = .replied .ok) : Idles session session.start.machine
  | step {m} (step : Step) (h : Idles session m)
    (hgoes : (step.perform m).ending.goesOn = true)
    (hfatal : (step.perform m).ending.isFatal = false) :
    Idles session (step.perform m).machine
  | begin {m} (script : Script) (h : Idles session m) : Idles session (m.beginStep script)
  | prompt {m m'} (h : Idles session m) (hprompt : Shell.beforeLine m = (.done (), m')) :
    Idles session m'
  | line {m m'} (bytes : List UInt8) (h : Idles session m)
    (hline : Shell.reporting (Shell.executeBytes bytes) m = (.done (), m')) :
    Idles session m'

/-- A step that ends without a fatal error may be followed by others. -/
theorem survives_of_isFatal {report : Report} (h : report.ending.isFatal = false) :
    report.Survives Phase.IsFine := by
  intro error hending
  rw [hending] at h
  show error.recoverable = true
  cases hrecoverable : error.recoverable with
  | true => rfl
  | false =>
    rw [Ending.isFatal, hrecoverable] at h
    cases h

theorem Session.Idles.path {session : Session} {m : Machine} (h : session.Idles m) :
    Path Phase.IsFine session.Begins .ready m := by
  have hsound := session.sound_of_begins
  induction h with
  | start h =>
    refine path_of_goesOn trivial (session.leaves_start _) (by rw [h]; rfl) fun error herror ↦ ?_
    rw [h] at herror
    cases herror
  | step step _ hgoes hfatal ih =>
    refine path_of_goesOn trivial ?_ hgoes (survives_of_isFatal hfatal)
    exact Machine.leaves_perform ih (Instruction.path_perform hsound trivial step.instruction)
  | begin script _ ih => exact ih.beginStep script
  | @prompt m m' _ hprompt ih =>
    have hpost := Shell.path_beforeLine m ih
    rw [hprompt] at hpost
    exact hpost
  | @line m m' bytes _ hline ih =>
    have hpost := Shell.path_reporting (Shell.path_executeBytes hsound bytes) m ih
    rw [hline] at hpost
    exact Path.again hpost trivial

theorem disciplined_of_begins {session : Session} (m : Machine) (h : session.Begins m) :
    Disciplined .ready m.state.jobs := by
  rw [show m = session.initial from h]
  exact ⟨none, rfl, nofun⟩

/-- A job that was put in the foreground by work that is settled was removed or stopped by it. -/
theorem stopped_of_fronted {session : Session} {routine : Routine Unit} {m m' : Machine}
    (h : Path Phase.IsFine session.Begins .ready m)
    (hroutine : ∀ start, (∀ m, start m → Sound .ready m) →
      Routine.Triple (Path (fun _ ↦ False) start .ready) routine (.working (fun _ ↦ False) start))
    (hdone : routine m = (.done (), m')) :
    ∃ news, m'.history = news ++ m.history ∧ ∀ moment ∈ news, ∀ job,
      moment.event.fronted? = some job →
        ∀ other ∈ m'.state.jobs.jobs, other.pid = job.pid → other.state = .stopped := by
  have hsound : ∀ m', m' = m → Sound .ready m' := by
    rintro m' rfl
    exact h.sound session.sound_of_begins
  -- The work is a path of its own from `m`, so that `Fronted` tells of this work only.
  have hpath : Path (fun _ ↦ False) (fun m' ↦ m' = m) (.reached .settled) m' := by
    have hpost := hroutine (fun m' ↦ m' = m) hsound m (.start rfl)
    rw [hdone] at hpost
    exact hpost
  have hdisciplined : Disciplined (.reached .settled) m'.state.jobs := by
    refine hpath.disciplined nofun hsound ?_
    rintro m' rfl
    exact h.disciplined (fun _ ↦ id) session.sound_of_begins disciplined_of_begins
  obtain ⟨news, hhistory, -, hnews⟩ : Fronted m.history (.reached .settled) m' := by
    refine hpath.fronted hsound ?_
    rintro m' rfl
    rfl
  refine ⟨news, hhistory, fun moment hmem job hjob other hother hpid ↦ ?_⟩
  have hnone := hdisciplined.foregroundJobs_eq_nil fun _ hfront ↦ hfront
  cases hstate : other.state with
  | foreground =>
    have hmem : other ∈ m'.state.jobs.foregroundJobs :=
      List.mem_filter.2 ⟨hother, decide_eq_true hstate⟩
    rw [hnone] at hmem
    cases hmem
  | background => exact absurd hstate (hnews moment hmem job hjob other hother hpid)
  | stopped => rfl

end JobShell
