import JobShell.Proofs.Unmasked

/-!
# The job table agrees with the kernel

A shell learns of its children only by waits, and only during drains. In between the job table may
be behind the kernel, but never by more than what the wait queue still holds: a job whose process
has ended has the end of it in the queue, and a process whose end was reaped is in no job. With no
signal left masked a drain empties the queue, and then the jobs are exactly the registered processes
that live.
-/

namespace JobShell

/-! ### What was registered and what is still to be told -/

/-- The process that an event enters into the job table. -/
def Event.registered? : Event → Option Pid
  | jobs (.added job) => some job.pid
  | _ => none

/-- The processes that were entered into the job table, newest first. -/
def Trace.registered (trace : Trace) : List Pid :=
  trace.filterMap fun moment ↦ moment.event.registered?

/-- The process of which an entry tells the end. -/
def WaitEntry.ended? : WaitEntry → Option Pid
  | status pid change => if change.isEnd then some pid else none
  | failure _ => none

theorem ended?_of_read? {pid : Pid} {change : Change} {status : WaitStatus}
    (h : change.read? pid = some status) :
    status.ended? = if change.isEnd then some pid else none := by
  cases change with
  | exited code =>
    obtain rfl := Option.some.inj h
    rfl
  | signaled number dumped =>
    obtain ⟨signal, -, rfl⟩ := Option.map_eq_some_iff.1 h
    rfl
  | stopped number =>
    simp only [Change.read?] at h
    split at h
    · obtain rfl := Option.some.inj h
      rfl
    · obtain ⟨signal, -, rfl⟩ := Option.map_eq_some_iff.1 h
      rfl
  | continued =>
    obtain rfl := Option.some.inj h
    rfl

/-- What is read of an entry tells the same end. -/
theorem ended?_of_read {entry : WaitEntry} {status : WaitStatus}
    (h : entry.read = .ok (some status)) : status.ended? = entry.ended? := by
  cases entry with
  | failure errno => cases h
  | status pid change =>
    simp only [WaitEntry.read] at h
    split at h
    · cases h
    · split at h
      · next reading hread =>
        obtain rfl := Option.some.inj (Except.ok.inj h)
        exact ended?_of_read? hread
      · cases h

/-- The process of whose end a drain has learned without having acted on it. -/
def Phase.ended? : Phase → Option Pid
  | taken _ entry => entry.ended?
  | learning _ status => status.ended?
  | _ => none

/-- The end of a process is on its way to the job table. -/
def Reported (p : Phase) (s : State) (pid : Pid) : Prop :=
  p.ended? = some pid ∨ ∃ entry ∈ s.kernel.waitQueue, entry.ended? = some pid

/-- The job table is behind the kernel by no more than what is on its way. -/
structure Tracked (p : Phase) (registered : List Pid) (s : State) : Prop where
  /-- A job was registered. -/
  known : ∀ pid ∈ s.jobs.pids, pid ∈ registered
  /-- What was registered was forked. -/
  started : ∀ pid ∈ registered, pid ∈ s.kernel.forked
  /-- A registered process that lives has its job. -/
  kept : ∀ pid ∈ registered, pid ∈ s.kernel.alive → pid ∈ s.jobs.pids
  /-- The process of a job, or of one that is to be, lives or its end is on its way. -/
  gone : ∀ pid, pid ∈ s.jobs.pids ∨ p.fresh? = some pid →
    pid ∈ s.kernel.alive ∨ Reported p s pid
  /-- A process whose end is on its way was forked and does not live. -/
  dead : ∀ pid, Reported p s pid → pid ∈ s.kernel.forked ∧ pid ∉ s.kernel.alive

namespace Tracked

variable {p p' : Phase} {registered : List Pid} {s : State} {m m' : Machine}

/-- Going on without a child's end being learned or forgotten. -/
theorem of_ended? (h : Tracked p registered s) (hended : p'.ended? = p.ended?)
    (hfresh : ∀ pid, p'.fresh? = some pid → p.fresh? = some pid) : Tracked p' registered s := by
  have hreported : ∀ pid, Reported p' s pid ↔ Reported p s pid := by
    intro pid
    unfold Reported
    rw [hended]
  refine ⟨h.known, h.started, h.kept, fun pid hpid ↦ ?_, fun pid hpid ↦ ?_⟩
  · rw [hreported]
    exact h.gone pid (hpid.imp_right (hfresh pid))
  · exact h.dead pid ((hreported pid).1 hpid)

theorem turn (h : Tracked p registered s) (hwakeful : ¬p.IsChild → Wakeful p s) (hsound : s.Sound)
    (hturn : Turn p s p') : Tracked p' registered s := by
  cases hturn with
  | stop site hread =>
    obtain ⟨status, hstatus⟩ := (hwakeful nofun).phase.2
    rw [hstatus] at hread
    exact absurd hread (by simp)
  | unreadable site hread =>
    obtain ⟨status, hstatus⟩ := (hwakeful nofun).phase.2
    rw [hstatus] at hread
    cases hread
  | unchanged site hsame =>
    refine ⟨h.known, h.started, h.kept, fun pid hpid ↦ ?_, fun pid hpid ↦ ?_⟩
    -- The status that is dropped is about a process without a job.
    · have hjob : pid ∈ s.jobs.pids := hpid.resolve_right nofun
      refine (h.gone pid (Or.inl hjob)).imp_right fun hreported ↦ Or.inr ?_
      refine hreported.resolve_left fun hended ↦ ?_
      rcases JobTable.remove_eq_none_iff.1 (JobTable.remove_of_learn? hsame hended) with hneg | hno
      · exact absurd hneg (Int.not_lt.2 (hsound.positive pid hjob))
      · exact hno hjob
    · exact h.dead pid (hpid.imp_left nofun)
  | _ => exact h.of_ended? rfl nofun

theorem record {event : Event} (h : Tracked p registered s) (hremark : Remark p s event p') :
    Tracked p' registered s := by
  cases hremark with
  | quiet => exact h
  | learn site hread => exact h.of_ended? (ended?_of_read hread) nofun
  | drained site => cases site <;> exact h.of_ended? rfl nofun
  | relay => exact h
  | _ => exact h.of_ended? rfl nofun

/-- New entries of the wait queue put the ends that they tell on their way. -/
theorem post {s' : State} (entries : List WaitEntry) (h : Tracked p registered s)
    (hjobs : s'.jobs = s.jobs) (hforked : s'.kernel.forked = s.kernel.forked)
    (hqueue : s'.kernel.waitQueue = s.kernel.waitQueue ++ entries)
    (halive : ∀ pid, pid ∈ s'.kernel.alive ↔
      pid ∈ s.kernel.alive ∧ ∀ entry ∈ entries, entry.ended? ≠ some pid)
    (hended : ∀ entry ∈ entries, ∀ pid, entry.ended? = some pid → pid ∈ s.kernel.forked) :
    Tracked p registered s' := by
  have hreported : ∀ pid, Reported p s' pid ↔
      Reported p s pid ∨ ∃ entry ∈ entries, entry.ended? = some pid := by
    intro pid
    unfold Reported
    rw [hqueue, or_assoc]
    simp only [List.mem_append, or_and_right, exists_or]
  refine ⟨hjobs ▸ h.known, hforked ▸ h.started, fun pid hpid hlives ↦ ?_, fun pid hpid ↦ ?_,
    fun pid hpid ↦ ?_⟩
  · rw [hjobs]
    exact h.kept pid hpid ((halive pid).1 hlives).1
  · rw [hjobs] at hpid
    rw [halive, hreported]
    by_cases hnow : ∃ entry ∈ entries, entry.ended? = some pid
    · exact Or.inr (Or.inr hnow)
    · refine (h.gone pid hpid).imp (fun hlives ↦ ⟨hlives, fun entry hentry heq ↦ ?_⟩) Or.inl
      exact hnow ⟨entry, hentry, heq⟩
  · rw [hforked, halive]
    rcases (hreported pid).1 hpid with hold | ⟨entry, hentry, heq⟩
    · obtain ⟨hstarted, hdead⟩ := h.dead pid hold
      exact ⟨hstarted, fun hlives ↦ hdead hlives.1⟩
    · exact ⟨hended entry hentry pid heq, fun hlives ↦ hlives.2 entry hentry heq⟩

/-- Signals are of no account. -/
theorem signalled (h : Tracked p registered s) (pending : SignalSet) (noted : EventSet) :
    Tracked p registered (s.signalled pending noted) :=
  ⟨h.known, h.started, h.kept, h.gone, h.dead⟩

theorem undergoing {what : Occurrence} (h : Tracked p registered s)
    (hforked : ∀ pid change, what = .child pid change → pid ∈ s.kernel.forked) :
    Tracked p registered (s.undergoing what) := by
  cases what with
  | child pid change =>
    have hended : ∀ other, (WaitEntry.status pid change).ended? = some other ↔
        change.isEnd = true ∧ pid = other := by
      intro other
      show (if change.isEnd then some pid else none) = some other ↔ _
      split
      · next hend => simp [hend]
      · next hend => simp [hend]
    refine h.post [.status pid change] rfl rfl rfl (fun other ↦ ?_) ?_
    · show other ∈ (if change.isEnd then s.kernel.alive.filter (· ≠ pid) else s.kernel.alive) ↔ _
      rw [List.forall_mem_singleton, ne_eq, hended]
      split
      · next hend =>
        rw [List.mem_filter, decide_eq_true_eq, and_iff_right hend]
        exact and_congr_right fun _ ↦ ne_comm
      · next hend => simp [hend]
    · rw [List.forall_mem_singleton]
      intro other hother
      rw [← ((hended other).1 hother).2]
      exact hforked pid change rfl
  | waitFailure errno =>
    refine h.post [.failure errno] rfl rfl rfl (fun other ↦ ?_) ?_
    · rw [List.forall_mem_singleton]
      exact ⟨fun hlives ↦ ⟨hlives, nofun⟩, fun hlives ↦ hlives.1⟩
    · rw [List.forall_mem_singleton]
      exact nofun
  | raised signal => exact h

theorem ending {pids : List Pid} (h : Tracked p registered s)
    (hforked : ∀ pid ∈ pids, pid ∈ s.kernel.forked) : Tracked p registered (s.ending pids) := by
  obtain ⟨alive, hkernel, halive⟩ := Kernel.foldl_post_exited pids s.kernel
  replace hkernel : (s.ending pids).kernel = _ := hkernel
  refine h.post (pids.map fun pid ↦ .status pid (.exited 0)) rfl (by rw [hkernel])
    (by rw [hkernel]) (fun pid ↦ ?_) ?_
  · rw [hkernel, halive, List.forall_mem_map]
    refine and_congr_right fun _ ↦ ⟨fun hno other hother heq ↦ ?_, fun hall hmem ↦ ?_⟩
    · exact hno (Option.some.inj heq ▸ hother)
    · exact hall pid hmem rfl
  · rw [List.forall_mem_map]
    intro other hother pid heq
    rw [← Option.some.inj heq]
    exact hforked other hother

theorem takeEntry {site : Site} {entry : WaitEntry} {rest : List WaitEntry}
    (h : Tracked (.reaping site) registered m.state)
    (hqueue : m.state.kernel.waitQueue = entry :: rest) :
    Tracked (.taken site entry) registered (m.taking entry rest).state := by
  have hreported : ∀ pid, Reported (.taken site entry) (m.taking entry rest).state pid ↔
      Reported (.reaping site) m.state pid := by
    intro pid
    show entry.ended? = some pid ∨ (∃ other ∈ rest, other.ended? = some pid) ↔
      none = some pid ∨ ∃ other ∈ m.state.kernel.waitQueue, other.ended? = some pid
    rw [hqueue, List.exists_mem_cons_iff]
    simp only [reduceCtorEq, false_or]
  refine ⟨h.known, h.started, h.kept, fun pid hpid ↦ ?_, fun pid hpid ↦ ?_⟩
  · rw [hreported]
    exact h.gone pid (hpid.imp_right nofun)
  · exact h.dead pid ((hreported pid).1 hpid)

/-- Acting on the end of a process takes its job out of the table, and the job of no other. -/
theorem removed {site : Site} {status : WaitStatus} {pid : Pid} {job : Job} {table : JobTable}
    (h : Tracked (.learning site status) registered s) (hnodup : s.jobs.pids.Nodup)
    (hended : status.ended? = some pid) (hremove : s.jobs.remove pid = some (job, table)) :
    Tracked (.reaping site) registered { s with jobs := table } := by
  have hpids : ∀ other, other ∈ table.pids ↔ other ∈ s.jobs.pids ∧ other ≠ pid :=
    fun other ↦ JobTable.mem_pids_remove_iff hremove hnodup
  refine ⟨fun other hother ↦ ?_, h.started, fun other hother hlives ↦ ?_, fun other hother ↦ ?_,
    fun other hother ↦ ?_⟩
  · exact h.known other ((hpids other).1 hother).1
  -- The process that ended does not live, so its job is not one to be kept.
  · refine (hpids other).2 ⟨h.kept other hother hlives, ?_⟩
    rintro rfl
    exact (h.dead other (Or.inl hended)).2 hlives
  · obtain ⟨hjob, hne⟩ := (hpids other).1 (hother.resolve_right nofun)
    refine (h.gone other (Or.inl hjob)).imp_right fun hreported ↦ Or.inr ?_
    refine hreported.resolve_left fun heq ↦ ?_
    exact hne (Option.some.inj (heq.symm.trans hended))
  · exact h.dead other (hother.imp_left nofun)

/-- A job whose state is set stays the job of its process. -/
theorem restated {pid : Pid} {newState : JobState} {job : Job} {table : JobTable}
    (h : Tracked p registered s) (hset : s.jobs.setState pid newState = some (job, table)) :
    Tracked p registered { s with jobs := table } := by
  have hpids := JobTable.pids_setState hset
  refine ⟨?_, h.started, fun other hother hlives ↦ ?_, fun other hother ↦ ?_, h.dead⟩
  · rw [show State.jobs _ = table from rfl, hpids]
    exact h.known
  · rw [show State.jobs _ = table from rfl, hpids]
    exact h.kept other hother hlives
  · rw [show State.jobs _ = table from rfl, hpids] at hother
    exact h.gone other hother

/-- A process that is registered was forked in this launch. -/
theorem added {previous : SignalSet} {pid : Pid} {newState : JobState} {commandLine : String}
    {job : Job} {table : JobTable} (h : Tracked (.forked previous pid) registered s)
    (hforked : pid ∈ s.kernel.forked)
    (hadd : s.jobs.add pid newState commandLine = .ok (job, table)) :
    Tracked (.restoring previous (.ofJob job)) (job.pid :: registered)
      { s with jobs := table } := by
  have hpids : ∀ other, other ∈ table.pids ↔ other = pid ∨ other ∈ s.jobs.pids :=
    fun other ↦ JobTable.mem_pids_add_iff hadd
  obtain ⟨-, rfl, -⟩ := JobTable.exists_of_add hadd
  refine ⟨fun other hother ↦ ?_, fun other hother ↦ ?_, fun other hother hlives ↦ ?_,
    fun other hother ↦ ?_, fun other hother ↦ ?_⟩
  · exact List.mem_cons.2 (((hpids other).1 hother).imp_right (h.known other))
  · rcases List.mem_cons.1 hother with rfl | hold
    · exact hforked
    · exact h.started other hold
  · refine (hpids other).2 ((List.mem_cons.1 hother).imp_right fun hold ↦ ?_)
    exact h.kept other hold hlives
  · refine (h.gone other ?_).imp_right fun hreported ↦ hreported.imp_left nofun
    rcases (hpids other).1 (hother.resolve_right nofun) with rfl | hold
    · exact Or.inr rfl
    · exact Or.inl hold
  · exact h.dead other (hother.imp_left nofun)

theorem spawn {previous : SignalSet} (h : Tracked (.launching previous) registered m.state)
    (hsound : m.state.Sound) :
    Tracked (.forked previous m.state.kernel.nextPid) registered m.spawning.state := by
  have hnew : m.state.kernel.nextPid ∉ m.state.kernel.forked :=
    fun hmem ↦ Int.lt_irrefl _ (hsound.below _ hmem)
  refine ⟨h.known, fun pid hpid ↦ ?_, fun pid hpid hlives ↦ ?_, fun pid hpid ↦ ?_,
    fun pid hpid ↦ ?_⟩
  · exact List.mem_append_left _ (h.started pid hpid)
  · rcases List.mem_append.1 hlives with hold | hnow
    · exact h.kept pid hpid hold
    · rw [List.mem_singleton.1 hnow] at hpid
      exact absurd (h.started _ hpid) hnew
  · rcases hpid with hjob | heq
    · refine (h.gone pid (Or.inl hjob)).imp (List.mem_append_left _) fun hreported ↦ ?_
      exact hreported.imp_left nofun
    · rw [← Option.some.inj heq]
      exact Or.inl (List.mem_append_right _ (List.mem_singleton.2 rfl))
  · obtain ⟨hforked, hdead⟩ := h.dead pid (hpid.imp_left nofun)
    refine ⟨List.mem_append_left _ hforked, fun hlives ↦ ?_⟩
    rcases List.mem_append.1 hlives with hold | hnow
    · exact hdead hold
    · rw [List.mem_singleton.1 hnow] at hforked
      exact hnew hforked

end Tracked

/-- What is recorded without a change of state registers nothing. -/
theorem Remark.registered? {p p' : Phase} {s : State} {event : Event} (h : Remark p s event p') :
    event.registered? = none := by
  cases h with
  | quiet hquiet =>
    cases event with
    | jobs change => cases hquiet
    | _ => rfl
  | _ => rfl

/-- Every move keeps the job table from falling further behind. -/
theorem Tracked.move {p p' : Phase} {m m' : Machine} (h : Tracked p m.history.registered m.state)
    (hwakeful : ¬p.IsChild → Wakeful p m.state) (hsound : Sound p m) (hmove : Move p m p' m')
    (hfaithful : ∀ moment ∈ m'.history, moment.isFaithful = true) :
    Tracked p' m'.history.registered m'.state := by
  cases hmove with
  | same hstate hhistory =>
    rw [hstate, hhistory]
    exact h
  | turn hturn => exact h.turn hwakeful hsound.state hturn
  | @record _ _ _ event hremark =>
    have hsame : (m.recording event).history.registered = m.history.registered :=
      List.filterMap_cons_none hremark.registered?
    rw [hsame]
    exact h.record hremark
  | happen what =>
    obtain ⟨pending, noted, heq, -⟩ := (m.state.undergoing what).exists_raising what.signal
    show Tracked p m.history.registered ((m.state.undergoing what).raising what.signal)
    rw [heq]
    refine (h.undergoing ?_).signalled pending noted
    -- What is told of a child is recorded with the processes that were forked by then.
    rintro pid change rfl
    have hmoment := hfaithful ⟨.happened (.child pid change), _⟩ List.mem_cons_self
    exact List.contains_iff_mem.1 (Bool.and_eq_true_iff.1 hmoment).2
  | takeNoted site =>
    have htaken : Tracked site.before m.history.registered m.takingNoted.state :=
      ⟨h.known, h.started, h.kept, h.gone, h.dead⟩
    split
    · cases site <;> exact htaken.of_ended? rfl nofun
    · cases site <;> exact htaken.of_ended? rfl nofun
  | takeEntry site hqueue => exact h.takeEntry hqueue
  | changeJobs hrewrite =>
    cases hrewrite with
    | learned site hlearn =>
      rcases JobTable.exists_of_learn? hlearn with ⟨pid, job, hended, rfl, hremove⟩ |
        ⟨pid, job, hended, rfl, hset⟩
      · exact h.removed hsound.state.nodup hended hremove
      · exact (h.restated hset).of_ended? hended.symm nofun
    | foreground hset => exact (h.restated hset).of_ended? rfl nofun
    | background hset => exact (h.restated hset).of_ended? rfl nofun
    | add previous hne hadd => exact h.added (hsound.fresh _ rfl).1 hadd
  | @remask _ _ _ how signals hremask =>
    obtain ⟨pending, noted, heq, -⟩ := m.exists_remasking how signals
    have hmasked : Tracked p m.history.registered (m.state.masked how signals) :=
      ⟨h.known, h.started, h.kept, h.gone, h.dead⟩
    rw [heq]
    cases hremask with
    | _ => exact (hmasked.signalled pending noted).of_ended? rfl nofun
  | spawn => exact h.spawn hsound.state
  | sleep => exact h.of_ended? rfl nofun
  | endAll previous pid hpids =>
    obtain ⟨pending, noted, heq, -⟩ := (m.state.ending _).exists_raising .childStatus
    show Tracked _ m.history.registered ((m.state.ending _).raising .childStatus)
    rw [heq]
    refine (h.ending fun other hother ↦ ?_).signalled pending noted
    rcases hpids with rfl | rfl
    · exact hother
    · exact hsound.state.alive.subset hother
  | wake previous pid =>
    obtain ⟨pending, noted, heq, -⟩ := m.state.exists_delivering (Shell.sleepMask previous)
    show Tracked _ m.history.registered (m.state.delivering _)
    rw [heq]
    exact (h.signalled pending noted).of_ended? rfl nofun

/-- On a path on which every mask is put back, the job table is never behind by more than what is on
its way. -/
theorem Path.tracked {start : Machine → Prop} {p : Phase} {m : Machine}
    (h : Path Phase.IsOver start p m) (hsound : ∀ m, start m → Sound .ready m)
    (hwakeful : ∀ m, start m → Wakeful .ready m.state)
    (hstart : ∀ m, start m →
      Unmasked .ready m.state ∧ Tracked .ready m.history.registered m.state)
    (hfaithful : ∀ moment ∈ m.history, moment.isFaithful = true) :
    Unmasked p m.state ∧ Tracked p m.history.registered m.state := by
  refine h.invariant (fun p m ↦ Unmasked p m.state ∧ Tracked p m.history.registered m.state)
    hstart ?_ ?_ hfaithful
  · rintro p m p' m' hpath ⟨hunmasked, htracked⟩ hmove hmoments
    have htold : ∀ moment ∈ m.history, moment.isTold = true := fun moment hmem ↦
      isTold_of_isFaithful (hmoments moment (hmove.subset_history hmem))
    have hm := hpath.sound hsound
    exact ⟨hunmasked.move hm hmove hmoments,
      htracked.move (hpath.wakeful hsound hwakeful htold) hm hmove hmoments⟩
  · rintro p m hover ⟨hunmasked, htracked⟩
    cases p with
    | reached upshot =>
      exact ⟨⟨nofun, hunmasked.unmasked, nofun⟩, htracked.of_ended? rfl nofun⟩
    | _ => exact hover.elim

/-- Once a drain is done with a queue of which all signals were delivered, nothing is on its way. -/
theorem Tracked.agrees {site : Site} {registered : List Pid} {s : State}
    (h : Tracked (.relaying site) registered s) (hwakeful : Wakeful (.relaying site) s)
    (hunmasked : Unmasked (.relaying site) s) :
    s.kernel.waitQueue = [] ∧
      ∀ pid, pid ∈ s.jobs.pids ↔ pid ∈ registered ∧ pid ∈ s.kernel.alive := by
  obtain ⟨hnoted, hsignal⟩ := hwakeful.phase
  -- A status in the queue would have its signal noted or pending, and the drain left neither.
  have hqueue : s.kernel.waitQueue = [] := by
    by_contra hne
    rcases hsignal hne with hwas | hwill
    · rw [hnoted] at hwas
      cases hwas
    · rw [hunmasked.delivered trivial] at hwill
      cases hwill
  have hnone : ∀ pid, ¬Reported (.relaying site) s pid := by
    rintro pid (hended | ⟨entry, hentry, -⟩)
    · cases hended
    · rw [hqueue] at hentry
      cases hentry
  refine ⟨hqueue, fun pid ↦ ⟨fun hjob ↦ ⟨h.known pid hjob, ?_⟩, fun ⟨hreg, hlives⟩ ↦ ?_⟩⟩
  · exact (h.gone pid (Or.inl hjob)).resolve_right (hnone pid)
  · exact h.kept pid hreg hlives

theorem unmasked_and_tracked_of_begins {session : Session} (m : Machine) (h : session.Begins m) :
    Unmasked .ready m.state ∧ Tracked .ready m.history.registered m.state := by
  rw [show m = session.initial from h]
  exact ⟨⟨nofun, fun _ ↦ rfl, nofun⟩, nofun, nofun, nofun, nofun, nofun⟩

/-- A shell that is told of its children never fails in a drain. -/
theorem fault_ne_waiting_of_isTold {session : Session}
    (htold : ∀ moment ∈ session.history, moment.isTold = true) {report : Report}
    (hmem : report ∈ session.run) {error : Error}
    (hending : report.ending = .replied (.failed error)) :
    error.fault ≠ .activity .waiting := by
  obtain ⟨earlier, later, hsplit⟩ := List.append_of_mem hmem
  have hleaves : report.ending.Leaves Phase.IsOver session.Begins report.machine :=
    session.leaves_of_run trivial hsplit fun before _ error _ ↦ trivial
  rw [hending] at hleaves
  have hfailed : Wakeful (.reached (.failed error)) report.machine.state := by
    refine Path.wakeful hleaves session.sound_of_begins wakeful_of_begins ?_ nofun
    exact fun moment hmoment ↦ htold moment (session.history_subset_of_run hmem hmoment)
  exact hfailed.phase.1

/-- **The job table agrees with the kernel.** If every mask is put back, no wait fails and no status
is about a process that was not forked before, then each time a drain is finished the wait queue is
empty, and the jobs are exactly those of the registered processes that live. No drain fails. -/
theorem jobs_agree_at_drained (session : Session)
    (hfaithful : ∀ moment ∈ session.history, moment.isFaithful = true) :
    (∀ later moment earlier, session.history = later ++ moment :: earlier →
      moment.event = .drained → moment.state.kernel.waitQueue = [] ∧
        ∀ pid, pid ∈ moment.state.jobs.pids ↔
          pid ∈ Trace.registered earlier ∧ pid ∈ moment.state.kernel.alive) ∧
      ∀ report ∈ session.run, ∀ error, report.ending = .replied (.failed error) →
        error.fault ≠ .activity .waiting := by
  have htold : ∀ moment ∈ session.history, moment.isTold = true :=
    fun moment hmem ↦ isTold_of_isFaithful (hfaithful moment hmem)
  constructor
  · intro later moment earlier hsplit hevent
    obtain ⟨p, hpath⟩ := session.onPath_last
    obtain ⟨site, m, hm, hstate, rfl⟩ :=
      hpath.exists_of_drained session.history_of_begins hsplit hevent
    have hearlier : ∀ moment ∈ m.history, moment ∈ session.history := by
      intro other hmem
      rw [hsplit]
      exact List.mem_append_right _ (List.mem_cons_of_mem _ hmem)
    have hwakeful : Wakeful (.relaying site) m.state := by
      refine hm.wakeful session.sound_of_begins wakeful_of_begins ?_ nofun
      exact fun moment hmem ↦ htold moment (hearlier moment hmem)
    obtain ⟨hunmasked, htracked⟩ := hm.tracked session.sound_of_begins wakeful_of_begins
      unmasked_and_tracked_of_begins fun moment hmem ↦ hfaithful moment (hearlier moment hmem)
    rw [← hstate]
    exact htracked.agrees hwakeful hunmasked
  · exact fun report hmem error hending ↦ fault_ne_waiting_of_isTold htold hmem hending

/-- After the race the shell finds that both of its jobs are gone. -/
theorem jobs_agree_of_racing : (∀ moment ∈ racing.history, moment.isFaithful = true) ∧
    ∃ moment ∈ racing.history, moment.event = .drained ∧
      moment.state.kernel.forked = [1001, 1002] ∧ moment.state.kernel.waitQueue = [] ∧
        moment.state.jobs.pids = [] := by
  have hfaithful : ∀ moment ∈ racing.history, moment.isFaithful = true := by decide +kernel
  have hdrains : ∃ moment ∈ racing.history, moment.event = .drained ∧
      moment.state.kernel.forked = [1001, 1002] ∧ moment.state.kernel.alive = [] := by
    decide +kernel
  obtain ⟨moment, hmem, hevent, hforked, hdead⟩ := hdrains
  obtain ⟨later, earlier, hsplit⟩ := List.append_of_mem hmem
  obtain ⟨hqueue, hagree⟩ :=
    (jobs_agree_at_drained racing hfaithful).1 later moment earlier hsplit hevent
  have hnone : moment.state.jobs.pids = [] := by
    refine List.eq_nil_iff_forall_not_mem.2 fun pid hpid ↦ ?_
    have hlives := ((hagree pid).1 hpid).2
    rw [hdead] at hlives
    cases hlives
  exact ⟨hfaithful, moment, hmem, hevent, hforked, hqueue, hnone⟩

end JobShell
