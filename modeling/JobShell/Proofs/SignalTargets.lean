import JobShell.Proofs.Agreement

/-!
# Signals reach only the shell's own children

A signal is sent to the process of a job, or to a process that was forked a moment ago and found no
room in the job table. Ids come into the table by forks only, and they ascend, so the process of a
job is a child of this shell. It is one that was not reaped either: the end of a process can be
learned only after the process was forked, and what is learned is acted on before anything else is
done. So no signal goes to a stranger that has got the id of a child that is gone.
-/

namespace JobShell

/-! ### Forks, ends and signals in a history -/

/-- The process that the event starts. -/
def Event.started? : Event → Option Pid
  | call ⟨.fork, .number pid⟩ => some pid
  | _ => none

/-- The process of whose end the event tells the shell. -/
def Event.reaped? : Event → Option Pid
  | learned status => status.ended?
  | _ => none

/-- What the event sends a signal to. -/
def Event.target? : Event → Option Pid
  | call ⟨.send target _, _⟩ => some target
  | _ => none

/-- The processes that were started, newest first. -/
def Trace.started (trace : Trace) : List Pid :=
  trace.filterMap fun moment ↦ moment.event.started?

/-- The processes of whose end the shell was told, newest first. -/
def Trace.reaped (trace : Trace) : List Pid :=
  trace.filterMap fun moment ↦ moment.event.reaped?

theorem Trace.started_cons (moment : Moment) (trace : Trace) :
    Trace.started (moment :: trace) = moment.event.started?.toList ++ trace.started := by
  unfold Trace.started
  rw [List.filterMap_cons]
  cases moment.event.started? <;> rfl

theorem Trace.reaped_cons (moment : Moment) (trace : Trace) :
    Trace.reaped (moment :: trace) = moment.event.reaped?.toList ++ trace.reaped := by
  unfold Trace.reaped
  rw [List.filterMap_cons]
  cases moment.event.reaped? <;> rfl

/-- What the moment tells of a child is about a process that was forked before. -/
def Moment.isTimely (moment : Moment) : Bool :=
  match moment.event with
  | .happened (.child pid _) => moment.state.kernel.forked.contains pid
  | _ => true

/-! ### Whom a phase sends signals to -/

/-- The process of whose end the shell was told, as long as it has not acted on it. -/
def Phase.learned? : Phase → Option Pid
  | learning _ status => status.ended?
  | _ => none

/-- Whom a signal may be sent to: the process of a job, or the one that was forked in this
launch. -/
def Phase.Aims (p : Phase) (s : State) (pid : Pid) : Prop :=
  p.learned? = none ∧ (pid ∈ s.jobs.pids ∨ p.fresh? = some pid)

/-- A move sends at most one signal, and it aims it as its phase permits. -/
theorem Move.aims {p p' : Phase} {m m' : Machine} (h : Move p m p' m') :
    ∃ news, m'.history = news ++ m.history ∧ ∀ moment ∈ news, ∀ target,
      moment.event.target? = some target →
        news = [moment] ∧ ∃ pid, target = -pid ∧ p.Aims m.state pid := by
  cases h with
  | same _ hhistory => exact ⟨[], hhistory, by simp⟩
  | turn => exact ⟨[], rfl, by simp⟩
  | @record _ _ _ event h =>
    refine ⟨[⟨event, m.state⟩], rfl, fun moment hmem target htarget ↦ ?_⟩
    obtain rfl := List.mem_singleton.1 hmem
    refine ⟨rfl, ?_⟩
    cases h with
    | quiet h =>
      unfold Event.target? at htarget
      split at htarget
      · next heq =>
        obtain rfl : event = _ := heq
        cases h
      · cases htarget
    | relay site failure hpid =>
      exact ⟨_, (Option.some.inj htarget).symm, rfl,
        Or.inl (JobTable.mem_pids_of_foregroundPid? hpid)⟩
    | resume hresolve =>
      exact ⟨_, (Option.some.inj htarget).symm, rfl,
        Or.inl (List.mem_map_of_mem (JobTable.mem_jobs_of_resolve hresolve))⟩
    | unresumed errno hresolve =>
      exact ⟨_, (Option.some.inj htarget).symm, rfl,
        Or.inl (List.mem_map_of_mem (JobTable.mem_jobs_of_resolve hresolve))⟩
    | kill => exact ⟨_, (Option.some.inj htarget).symm, rfl, Or.inr rfl⟩
    | _ => cases htarget
  | happen what => exact ⟨[_], rfl, by simp [Event.target?]⟩
  | takeNoted => exact ⟨[], rfl, by simp⟩
  | takeEntry => exact ⟨[_], rfl, by simp [Event.target?]⟩
  | changeJobs => exact ⟨[_], rfl, by simp [Event.target?]⟩
  | remask => exact ⟨[_], rfl, by simp [Event.target?]⟩
  | spawn => exact ⟨[_], rfl, by simp [Event.target?]⟩
  | sleep => exact ⟨[_, _], rfl, by simp [Event.target?]⟩
  | endAll => exact ⟨[], rfl, by simp⟩
  | wake => exact ⟨[], rfl, by simp⟩

/-- When a signal is sent, a path was in a phase that permits it. -/
theorem Path.exists_of_target {again : Phase → Prop} {start : Machine → Prop} {p : Phase}
    {m : Machine} (hstart : ∀ m, start m → m.history = []) (h : Path again start p m)
    {moment : Moment} {later earlier : Trace} (hsplit : m.history = later ++ moment :: earlier)
    {target : Pid} (hevent : moment.event.target? = some target) :
    ∃ q n pid, Path again start q n ∧ n.history = earlier ∧ target = -pid ∧ q.Aims n.state pid := by
  obtain ⟨q, n, q', n', after, before, hpath, hm, hhistory, rfl⟩ :=
    h.exists_move_of_history hstart hsplit
  obtain ⟨news, heq, hnews⟩ := hm.aims
  obtain rfl := List.append_cancel_right (heq.symm.trans hhistory)
  obtain ⟨hsingle, pid, htarget, haims⟩ := hnews moment (by simp) target hevent
  obtain ⟨rfl, rfl⟩ : after = [] ∧ before = [] := by
    simpa [List.append_eq_cons_iff] using hsingle
  exact ⟨q, n, pid, hpath, rfl, htarget, haims⟩

/-! ### Children that were not reaped -/

/-- The processes that the shell may send a signal to were started by it and were not reaped. -/
structure Unreaped (p : Phase) (started reaped : List Pid) (s : State) : Prop where
  /-- What was forked was started by a fork of this shell. -/
  started : ∀ pid ∈ s.kernel.forked, pid ∈ started
  /-- An end that is on its way to be learned is that of a process that was forked. -/
  reported : ∀ pid, Reported p s pid → pid ∈ s.kernel.forked
  /-- What was reaped had been forked. -/
  forked : ∀ pid ∈ reaped, pid ∈ s.kernel.forked
  /-- What was reaped was not forked a moment ago. -/
  stale : ∀ pid ∈ reaped, p.fresh? ≠ some pid
  /-- What was reaped has no job, unless the shell is about to take it out of the table. -/
  jobless : ∀ pid ∈ reaped, pid ∈ s.jobs.pids → p.learned? = some pid

namespace Unreaped

variable {p p' : Phase} {started reaped : List Pid} {s s' : State} {m m' : Machine}

/-- Going on to a phase that has learned of as much. -/
theorem forget (h : Unreaped p started reaped s)
    (hended : ∀ pid, p'.ended? = some pid → p.ended? = some pid)
    (hfresh : ∀ pid, p'.fresh? = some pid → p.fresh? = some pid)
    (hlearned : ∀ pid ∈ s.jobs.pids, p.learned? = some pid → p'.learned? = some pid) :
    Unreaped p' started reaped s where
  started := h.started
  reported pid hpid := h.reported pid (hpid.imp_left (hended pid))
  forked := h.forked
  stale pid hpid hnow := h.stale pid hpid (hfresh pid hnow)
  jobless pid hpid hjob := hlearned pid hjob (h.jobless pid hpid hjob)

/-- New entries of the wait queue tell of processes that were forked. -/
theorem post (h : Unreaped p started reaped s) (hjobs : s'.jobs.pids = s.jobs.pids)
    (hforked : s'.kernel.forked = s.kernel.forked)
    (hqueue : ∀ entry ∈ s'.kernel.waitQueue, entry ∈ s.kernel.waitQueue ∨
      ∀ pid, entry.ended? = some pid → pid ∈ s.kernel.forked) :
    Unreaped p started reaped s' where
  started := hforked ▸ h.started
  reported := by
    rw [hforked]
    rintro pid (hended | ⟨entry, hentry, hended⟩)
    · exact h.reported pid (Or.inl hended)
    · rcases hqueue entry hentry with hold | hnew
      · exact h.reported pid (Or.inr ⟨entry, hold, hended⟩)
      · exact hnew pid hended
  forked := hforked ▸ h.forked
  stale := h.stale
  jobless := hjobs ▸ h.jobless

theorem turn (h : Unreaped p started reaped s) (hsound : s.Sound) (hturn : Turn p s p') :
    Unreaped p' started reaped s := by
  have hfresh := hturn.forgets.fresh
  cases hturn with
  | unreadable site => cases site <;> exact h.forget nofun hfresh nofun
  | unchanged site hsame =>
    -- The status that is dropped is about a process without a job.
    refine h.forget nofun hfresh fun pid hjob hended ↦ ?_
    rcases JobTable.remove_eq_none_iff.1 (JobTable.remove_of_learn? hsame hended) with hneg | hno
    · exact absurd hneg (Int.not_lt.2 (hsound.positive pid hjob))
    · exact absurd hjob hno
  | _ => exact h.forget nofun hfresh nofun

theorem record {event : Event} (h : Unreaped p started reaped s) (hremark : Remark p s event p') :
    Unreaped p' (event.started?.toList ++ started) (event.reaped?.toList ++ reaped) s := by
  have hfresh := hremark.forgets.fresh
  cases hremark with
  | quiet hquiet =>
    have hstarted : event.started? = none := by
      unfold Event.started?
      split
      · cases hquiet
      · rfl
    have hreaped : event.reaped? = none := by
      unfold Event.reaped?
      split
      · cases hquiet
      · rfl
    rw [hstarted, hreaped]
    exact h
  | @learn _ site entry status hread =>
    have hended := ended?_of_read hread
    have hreported : ∀ pid, status.ended? = some pid → pid ∈ s.kernel.forked :=
      fun pid hpid ↦ h.reported pid (Or.inl (hended.symm.trans hpid))
    refine ⟨h.started, ?_, fun pid hpid ↦ ?_, nofun, fun pid hpid hjob ↦ ?_⟩
    · rintro pid (hlearned | hqueued)
      · exact hreported pid hlearned
      · exact h.reported pid (Or.inr hqueued)
    · rcases List.mem_append.1 hpid with hnow | hold
      · exact hreported pid (Option.mem_toList.1 hnow)
      · exact h.forked pid hold
    · rcases List.mem_append.1 hpid with hnow | hold
      · exact Option.mem_toList.1 hnow
      · exact absurd (h.jobless pid hold hjob) nofun
  | drained site => cases site <;> exact h.forget nofun hfresh nofun
  | _ => exact h.forget nofun hfresh nofun

theorem takeEntry {site : Site} {entry : WaitEntry} {rest : List WaitEntry}
    (h : Unreaped (.reaping site) started reaped m.state)
    (hqueue : m.state.kernel.waitQueue = entry :: rest) :
    Unreaped (.taken site entry) started reaped (m.taking entry rest).state := by
  refine ⟨h.started, fun pid hpid ↦ h.reported pid (Or.inr ?_), h.forked, nofun, ?_⟩
  · rw [hqueue, List.exists_mem_cons_iff]
    exact hpid
  · exact fun pid hpid hjob ↦ absurd (h.jobless pid hpid hjob) nofun

/-- A change of the table takes out the process that was reaped, and enters none that was. -/
theorem changeJobs {change : JobChange} {table : JobTable} (h : Unreaped p started reaped m.state)
    (hsound : Sound p m) (hrewrite : Rewrite p m.state change table p') :
    Unreaped p' started reaped { m.state with jobs := table } := by
  have hrestated : ∀ {q : Phase} {pid newState job}, Unreaped q started reaped m.state →
      m.state.jobs.setState pid newState = some (job, table) →
        Unreaped q started reaped { m.state with jobs := table } :=
    fun h hset ↦ h.post (JobTable.pids_setState hset) rfl fun _ ↦ Or.inl
  have hnodup := hsound.state.nodup
  cases hrewrite with
  | learned site hlearn =>
    rcases JobTable.exists_of_learn? hlearn with ⟨pid, job, hended, -, hremove⟩ |
      ⟨pid, job, hended, -, hset⟩
    · have hpids : ∀ other, other ∈ table.pids ↔ other ∈ m.state.jobs.pids ∧ other ≠ pid :=
        fun other ↦ JobTable.mem_pids_remove_iff hremove hnodup
      refine ⟨h.started, fun other hother ↦ ?_, h.forked, nofun, fun other hother hjob ↦ ?_⟩
      · exact h.reported other (hother.imp_left nofun)
      · obtain ⟨hold, hne⟩ := (hpids other).1 hjob
        have hlearned := h.jobless other hother hold
        exact absurd (Option.some.inj (hlearned.symm.trans hended)) hne
    · refine hrestated (h.forget nofun nofun fun other _ hlearned ↦ ?_) hset
      exact absurd (hlearned.symm.trans hended) nofun
  | foreground hset => exact hrestated (h.forget nofun nofun nofun) hset
  | background hset => exact hrestated (h.forget nofun nofun nofun) hset
  | @add _ previous pid newState commandLine job _ hne hadd =>
    refine ⟨h.started, fun other hother ↦ ?_, h.forked, nofun, fun other hother hjob ↦ ?_⟩
    · exact h.reported other (hother.imp_left nofun)
    · rcases (JobTable.mem_pids_add_iff hadd).1 hjob with rfl | hold
      · exact absurd rfl (h.stale other hother)
      · exact absurd (h.jobless other hother hold) nofun

theorem spawn {previous : SignalSet} (h : Unreaped (.launching previous) started reaped m.state)
    (hsound : m.state.Sound) :
    Unreaped (.forked previous m.state.kernel.nextPid) (m.state.kernel.nextPid :: started) reaped
      m.spawning.state where
  started pid hpid := by
    rcases List.mem_append.1 hpid with hold | hnew
    · exact List.mem_cons_of_mem _ (h.started pid hold)
    · rw [List.mem_singleton.1 hnew]
      exact List.mem_cons_self
  reported pid hpid := List.mem_append_left _ (h.reported pid (hpid.imp_left nofun))
  forked pid hpid := List.mem_append_left _ (h.forked pid hpid)
  -- Ids ascend, so what was reaped was forked under a smaller one.
  stale pid hpid heq := by
    have hbelow := hsound.below pid (h.forked pid hpid)
    rw [Option.some.inj heq] at hbelow
    exact Int.lt_irrefl _ hbelow
  jobless pid hpid hjob := absurd (h.jobless pid hpid hjob) nofun

/-- What happens to a child that was forked is queued for it. -/
theorem happen (h : Unreaped p started reaped m.state) {what : Occurrence}
    (hforked : ∀ pid change, what = .child pid change → pid ∈ m.state.kernel.forked) :
    Unreaped p started reaped (m.after what).state := by
  obtain ⟨pending, noted, heq, -⟩ := (m.state.undergoing what).exists_raising what.signal
  show Unreaped p started reaped ((m.state.undergoing what).raising what.signal)
  rw [heq]
  cases what with
  | child pid change =>
    refine h.post rfl rfl fun entry hentry ↦ (List.mem_append.1 hentry).imp_right fun hnew ↦ ?_
    intro other hended
    rw [List.mem_singleton.1 hnew] at hended
    simp only [WaitEntry.ended?] at hended
    split at hended
    · exact Option.some.inj hended ▸ hforked pid change rfl
    · cases hended
  | waitFailure errno =>
    refine h.post rfl rfl fun entry hentry ↦ (List.mem_append.1 hentry).imp_right fun hnew ↦ ?_
    rw [List.mem_singleton.1 hnew]
    exact nofun
  | raised signal => exact h.post rfl rfl fun entry ↦ Or.inl

/-- Only processes that were forked are reported to have ended. -/
theorem endAll (h : Unreaped p started reaped m.state) {pids : List Pid}
    (hforked : ∀ pid ∈ pids, pid ∈ m.state.kernel.forked) :
    Unreaped p started reaped (m.endingAll pids).state := by
  obtain ⟨alive, hkernel, -⟩ := Kernel.foldl_post_exited pids m.state.kernel
  obtain ⟨pending, noted, heq, -⟩ := (m.state.ending pids).exists_raising .childStatus
  show Unreaped p started reaped ((m.state.ending pids).raising .childStatus)
  rw [heq]
  have hqueue : (m.state.ending pids).kernel.waitQueue =
      m.state.kernel.waitQueue ++ pids.map fun pid ↦ .status pid (.exited 0) := by
    rw [show (m.state.ending pids).kernel = _ from hkernel]
  have hsame : (m.state.ending pids).kernel.forked = m.state.kernel.forked := by
    rw [show (m.state.ending pids).kernel = _ from hkernel]
  refine h.post rfl hsame fun entry hentry ↦ ?_
  refine (List.mem_append.1 (hqueue ▸ hentry)).imp_right fun hnew ↦ ?_
  obtain ⟨pid, hpid, rfl⟩ := List.mem_map.1 hnew
  intro other hended
  exact Option.some.inj hended ▸ hforked pid hpid

/-- Every move keeps the processes that signals may be sent to unreaped. -/
theorem move (h : Unreaped p m.history.started m.history.reaped m.state) (hsound : Sound p m)
    (hmove : Move p m p' m') (htimely : ∀ moment ∈ m'.history, moment.isTimely = true) :
    Unreaped p' m'.history.started m'.history.reaped m'.state := by
  cases hmove with
  | same hstate hhistory =>
    rw [hstate, hhistory]
    exact h
  | turn hturn => exact h.turn hsound.state hturn
  | @record _ _ _ event hremark =>
    show Unreaped p' (Trace.started (⟨event, m.state⟩ :: m.history))
      (Trace.reaped (⟨event, m.state⟩ :: m.history)) m.state
    rw [Trace.started_cons, Trace.reaped_cons]
    exact h.record hremark
  | happen what =>
    refine h.happen ?_
    rintro pid change rfl
    exact List.contains_iff_mem.1 (htimely _ List.mem_cons_self)
  | takeNoted site =>
    have htaken : Unreaped site.before m.history.started m.history.reaped m.takingNoted.state :=
      h.post rfl rfl fun _ ↦ Or.inl
    split
    · cases site <;> exact htaken.forget nofun nofun nofun
    · cases site <;> exact htaken.forget nofun nofun nofun
  | takeEntry site hqueue => exact h.takeEntry hqueue
  | changeJobs hrewrite => exact h.changeJobs hsound hrewrite
  | @remask _ _ _ how signals hremask =>
    obtain ⟨pending, noted, heq, -⟩ := m.exists_remasking how signals
    have hmasked : Unreaped p m.history.started m.history.reaped
        ((m.state.masked how signals).signalled pending noted) := h.post rfl rfl fun _ ↦ Or.inl
    rw [heq]
    cases hremask with
    | _ => exact hmasked.forget nofun nofun nofun
  | spawn => exact h.spawn hsound.state
  | sleep => exact h.forget nofun nofun nofun
  | endAll previous pid hpids =>
    refine h.endAll fun other hother ↦ ?_
    rcases hpids with rfl | rfl
    · exact hother
    · exact hsound.state.alive.subset hother
  | wake previous pid =>
    obtain ⟨pending, noted, heq, -⟩ := m.state.exists_delivering (Shell.sleepMask previous)
    show Unreaped _ m.history.started m.history.reaped (m.state.delivering _)
    rw [heq]
    refine Unreaped.forget (p := .asleep previous pid) ?_ nofun nofun nofun
    exact h.post rfl rfl fun _ ↦ Or.inl

end Unreaped

/-- On a path on which statuses are about processes that were forked, nobody that signals may be
sent to was reaped. -/
theorem Path.unreaped {start : Machine → Prop} {p : Phase} {m : Machine}
    (h : Path Phase.IsOver start p m) (hsound : ∀ m, start m → Sound .ready m)
    (hstart : ∀ m, start m → Unreaped .ready m.history.started m.history.reaped m.state)
    (htimely : ∀ moment ∈ m.history, moment.isTimely = true) :
    Unreaped p m.history.started m.history.reaped m.state := by
  refine h.invariant (fun p m ↦ Unreaped p m.history.started m.history.reaped m.state) hstart
    ?_ ?_ htimely
  · intro p m p' m' hpath hm hmove hmoments
    exact hm.move (hpath.sound hsound) hmove hmoments
  · intro p m hover hm
    cases p with
    | reached => exact hm.forget nofun nofun nofun
    | _ => exact hover.elim

theorem unreaped_of_begins {session : Session} (m : Machine) (h : session.Begins m) :
    Unreaped .ready m.history.started m.history.reaped m.state := by
  rw [show m = session.initial from h]
  exact ⟨nofun, by rintro pid (hended | ⟨entry, hentry, -⟩) <;> trivial, nofun, nofun, nofun⟩

/-- **Signals reach only the shell's own children.** If no status is about a process that was not
forked before, then every signal of a session whose process ids begin above 1 goes to the process
group of a child that an earlier fork has started and of whose end the shell was not told before.
So no signal goes to the shell's own group or to every process there is. -/
theorem signals_reach_unreaped_children (session : Session) (hfirst : 2 ≤ session.firstPid)
    (htimely : ∀ moment ∈ session.history, moment.isTimely = true) {later earlier : Trace}
    {moment : Moment} {target : Pid} {signal : Signal} {answer : Answer}
    (hsplit : session.history = later ++ moment :: earlier)
    (hevent : moment.event = .call ⟨.send target signal, answer⟩) :
    ∃ pid, target = -pid ∧ target < -1 ∧ pid ∈ Trace.started earlier ∧
      pid ∉ Trace.reaped earlier := by
  obtain ⟨p, hpath⟩ := session.onPath_last
  obtain ⟨q, n, pid, hn, rfl, rfl, hlearned, haim⟩ :=
    hpath.exists_of_target session.history_of_begins hsplit (by rw [hevent]; rfl)
  have hunreaped : Unreaped q n.history.started n.history.reaped n.state := by
    refine hn.unreaped session.sound_of_begins unreaped_of_begins fun other hmem ↦ ?_
    refine htimely other ?_
    rw [hsplit]
    exact List.mem_append_right _ (List.mem_cons_of_mem _ hmem)
  have hsound := hn.sound session.sound_of_begins
  have hforked : pid ∈ n.state.kernel.forked :=
    haim.elim (hsound.state.started pid) fun hfresh ↦ (hsound.fresh pid hfresh).1
  have hpid : 1 < pid :=
    Int.lt_of_lt_of_le hfirst ((session.firstPid_le_of_path hn).2 pid hforked)
  refine ⟨pid, rfl, Int.neg_lt_neg hpid, hunreaped.started pid hforked, fun hreaped ↦ ?_⟩
  rcases haim with hjob | hfresh
  · have hnow := hunreaped.jobless pid hreaped hjob
    rw [hlearned] at hnow
    cases hnow
  · exact hunreaped.stale pid hreaped hfresh

/-- A session in which one of two programs ends before the other is continued. -/
def surviving : Session where
  steps := [⟨.line "rest &", {}⟩, ⟨.line "nap &", {}⟩, ⟨.occur (.child 1001 (.exited 0)), {}⟩,
    ⟨.line "bg %2", {}⟩]

/-- The signal goes to the program that has not ended. -/
theorem signals_reach_of_surviving : 2 ≤ surviving.firstPid ∧
    (∀ moment ∈ surviving.history, moment.isTimely = true) ∧
      ∃ later moment earlier, surviving.history = later ++ moment :: earlier ∧
        moment.event = .call ⟨.send (-1002) .cont, .number 0⟩ ∧
          1002 ∈ Trace.started earlier ∧ 1002 ∉ Trace.reaped earlier := by
  have htimely : ∀ moment ∈ surviving.history, moment.isTimely = true := by decide +kernel
  have hsends : ∃ moment ∈ surviving.history,
      moment.event = .call ⟨.send (-1002) .cont, .number 0⟩ := by decide +kernel
  obtain ⟨moment, hmem, hevent⟩ := hsends
  obtain ⟨later, earlier, hsplit⟩ := List.append_of_mem hmem
  obtain ⟨pid, htarget, -, hstarted, hreaped⟩ :=
    signals_reach_unreaped_children surviving (by decide) htimely hsplit hevent
  obtain rfl : 1002 = pid := Int.neg_inj.1 htarget
  exact ⟨by decide, htimely, later, moment, earlier, hsplit, hevent, hstarted, hreaped⟩

end JobShell
