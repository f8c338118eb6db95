import JobShell.Proofs.Path.Session

/-!
# No lost wake-up

A wait drains and sleeps by turns, and a child may end at any time in between. It is not missed:
whenever there is a status to be waited for, its signal was noted or is pending, except while a
drain takes the statuses themselves. A drain leaves nothing noted, so at the time the shell goes to
sleep the signal can only be pending, and the mask of the sleep lets it through. All of this holds
whatever mask earlier steps have left behind; it only takes waits that do not fail.
-/

namespace JobShell

/-! ### What a shell is told of its children -/

theorem isTelling_status {pid : Pid} {change : Change} (hpid : pid ≠ 0)
    (h : (change.read? pid).isSome = true) : (WaitEntry.status pid change).IsTelling := by
  obtain ⟨status, hstatus⟩ := Option.isSome_iff_exists.1 h
  exact ⟨status, by simp [WaitEntry.read, hpid, hstatus]⟩

/-- No wait fails because of the occurrence: a status is that of a process and can be read. -/
def Occurrence.isTold : Occurrence → Bool
  | child pid change => 1 ≤ pid && (change.read? pid).isSome
  | waitFailure _ => false
  | raised _ => true

/-- No wait fails because of what happened at the moment. -/
def Moment.isTold (moment : Moment) : Bool :=
  match moment.event with
  | .happened what => what.isTold
  | _ => true

/-! ### The invariant -/

/-- A status in the queue has a signal that says so. -/
def State.HasSignal (s : State) : Prop := s.kernel.waitQueue ≠ [] → s.IsWoken

/-- What holds of notes and signals in a phase. A drain leaves nothing noted, and while it reaps,
the queue may hold statuses whose signal it has taken. -/
def Phase.Wakeful : Phase → State → Prop
  | reaping _, s | learning _ _, s => s.noted = {}
  | taken _ entry, s => s.noted = {} ∧ entry.IsTelling
  | relaying _, s | drained _ _, s => s.noted = {} ∧ s.HasSignal
  | restoring _ (.failed error), s | reached (.failed error), s =>
    error.fault ≠ .activity .waiting ∧ s.HasSignal
  | _, s => s.HasSignal

/-- The fork made the process a child, which is of no concern to the shell. -/
def Phase.IsChild : Phase → Prop
  | forked _ pid => pid = 0
  | restoring _ .child | reached .child => True
  | _ => False

theorem Phase.IsOver.not_isChild {p : Phase} (h : p.IsOver) : ¬p.IsChild := by
  cases p with
  | reached upshot =>
    cases upshot with
    | child => exact h.elim
    | _ => exact id
  | _ => exact h.elim

/-- No status is missed. -/
structure Wakeful (p : Phase) (s : State) : Prop where
  /-- Every entry of the wait queue can be read. -/
  telling : ∀ entry ∈ s.kernel.waitQueue, entry.IsTelling
  /-- No process has the id 0, which a wait would take for the absence of a status. -/
  noZero : 0 ∉ s.kernel.forked
  /-- The notes and signals are as the phase has them. -/
  phase : p.Wakeful s

namespace Wakeful

variable {p p' : Phase} {s : State} {m m' : Machine}

theorem turn (h : Wakeful p s) (hturn : Turn p s p') (hp' : ¬p'.IsChild) : Wakeful p' s := by
  cases hturn with
  | stop site hread =>
    obtain ⟨status, hstatus⟩ := h.phase.2
    rw [hstatus] at hread
    exact absurd hread (by simp)
  | unreadable site hread =>
    obtain ⟨status, hstatus⟩ := h.phase.2
    rw [hstatus] at hread
    cases hread
  | unchanged => exact ⟨h.telling, h.noZero, h.phase⟩
  | settle => exact ⟨h.telling, h.noZero, h.phase⟩
  | refuse hrecoverable =>
    refine ⟨h.telling, h.noZero, fun hfault ↦ ?_, h.phase⟩
    rw [Error.recoverable, hfault] at hrecoverable
    cases hrecoverable
  | unstarted => exact ⟨h.telling, h.noZero, nofun, h.phase⟩
  | recover => exact ⟨h.telling, h.noZero, h.phase.2⟩
  | goneForeground => exact ⟨h.telling, h.noZero, h.phase⟩
  | goneBackground => exact ⟨h.telling, h.noZero, nofun, h.phase⟩
  | child => exact absurd trivial hp'
  | leave => exact ⟨h.telling, h.noZero, h.phase.2⟩

theorem record {event : Event} (h : Wakeful p s) (hremark : Remark p s event p') :
    Wakeful p' s := by
  cases hremark with
  | quiet => exact h
  | waitEmpty site answer hempty =>
    exact ⟨h.telling, h.noZero, h.phase, fun hne ↦ absurd hempty hne⟩
  | learn => exact ⟨h.telling, h.noZero, h.phase.1⟩
  | relay => exact h
  | drained site =>
    cases site with
    | prompt => exact ⟨h.telling, h.noZero, h.phase.2⟩
    | wait previous pid => exact ⟨h.telling, h.noZero, h.phase⟩
  | resume => exact ⟨h.telling, h.noZero, h.phase⟩
  | unresumed => exact ⟨h.telling, h.noZero, nofun, h.phase⟩
  | unblockedLaunch => exact ⟨h.telling, h.noZero, nofun, h.phase⟩
  | unblockedWait => exact ⟨h.telling, h.noZero, nofun, h.phase⟩
  | unforked => exact ⟨h.telling, h.noZero, nofun, h.phase⟩
  | kill previous failure hne hadd =>
    refine ⟨h.telling, h.noZero, ?_, h.phase⟩
    rcases JobTable.add_eq_error_iff.1 hadd with ⟨-, rfl⟩ | ⟨-, -, rfl⟩
    · exact nofun
    · exact nofun
  | unrestored previous upshot =>
    cases upshot <;> exact ⟨h.telling, h.noZero, h.phase⟩

/-- Changing the job table is of no account. -/
theorem changeJobs {change : JobChange} {table : JobTable} (h : Wakeful p s)
    (hrewrite : Rewrite p s change table p') : Wakeful p' { s with jobs := table } := by
  cases hrewrite with
  | learned => exact ⟨h.telling, h.noZero, h.phase⟩
  | foreground => exact ⟨h.telling, h.noZero, h.phase⟩
  | background => exact ⟨h.telling, h.noZero, h.phase⟩
  | @add _ _ _ _ job =>
    refine ⟨h.telling, h.noZero, ?_⟩
    unfold Upshot.ofJob
    split
    · exact h.phase
    · exact h.phase

/-- In a phase in which things happen, a status has its signal. -/
theorem hasSignal_of_isOpen (h : Wakeful p s) (hp : p.IsOpen) : s.HasSignal := by
  cases p with
  | ready => exact h.phase
  | forked => exact h.phase
  | asleep => exact h.phase
  | _ => exact hp.elim

theorem of_isOpen (hp : p.IsOpen) (htelling : ∀ entry ∈ s.kernel.waitQueue, entry.IsTelling)
    (hzero : 0 ∉ s.kernel.forked) (hsignal : s.HasSignal) : Wakeful p s := by
  refine ⟨htelling, hzero, ?_⟩
  cases p with
  | ready => exact hsignal
  | forked => exact hsignal
  | asleep => exact hsignal
  | _ => exact hp.elim

/-- What happens to a child comes with its signal. -/
theorem happen (h : Wakeful p s) (hp : p.IsOpen) {what : Occurrence} (htold : what.isTold = true) :
    Wakeful p ((s.undergoing what).raising what.signal) := by
  obtain ⟨pending, noted, heq, -, hwoken⟩ := (s.undergoing what).exists_raising what.signal
  rw [heq]
  cases what with
  | child pid change =>
    -- The entry is new, but so is the signal, whether it is noted at once or left pending.
    obtain ⟨hpos, hread⟩ := Bool.and_eq_true_iff.1 htold
    refine of_isOpen hp (fun entry hentry ↦ ?_) h.noZero fun _ ↦ hwoken (Or.inr rfl)
    replace hentry : entry ∈ s.kernel.waitQueue ++ [.status pid change] := hentry
    rcases List.mem_append.1 hentry with hold | hnew
    · exact h.telling entry hold
    · rw [List.mem_singleton.1 hnew]
      refine isTelling_status ?_ hread
      rintro rfl
      exact absurd hpos (by decide)
  | waitFailure errno => cases htold
  | raised signal =>
    refine of_isOpen hp h.telling h.noZero fun hne ↦ hwoken (Or.inl ?_)
    exact h.hasSignal_of_isOpen hp hne

/-- A drain takes the notes. If none was of a child, then the signal is still pending. -/
theorem takeNoted {site : Site} (h : Wakeful site.before m.state) :
    Wakeful (if m.state.noted.childStatus then .reaping site else .relaying site)
      m.takingNoted.state := by
  have hsignal : m.state.HasSignal := by
    cases site with
    | prompt => exact h.phase
    | wait => exact h.phase
  split
  · exact ⟨h.telling, h.noZero, rfl⟩
  · next hnoted =>
    -- The drain skips the queue here; a status in it has its signal still to come.
    refine ⟨h.telling, h.noZero, rfl, fun hne ↦ Or.inr ?_⟩
    exact (hsignal hne).resolve_left hnoted

theorem takeEntry {site : Site} {entry : WaitEntry} {rest : List WaitEntry}
    (h : Wakeful (.reaping site) m.state) (hqueue : m.state.kernel.waitQueue = entry :: rest) :
    Wakeful (.taken site entry) (m.taking entry rest).state := by
  have htelling := h.telling
  rw [hqueue] at htelling
  refine ⟨fun other hother ↦ ?_, h.noZero, h.phase, ?_⟩
  · exact htelling other (List.mem_cons_of_mem entry hother)
  · exact htelling entry List.mem_cons_self

/-- A new mask turns pending signals into notes. -/
theorem remask {how : MaskChange} {signals : SignalSet} (h : Wakeful p m.state)
    (hremask : Remask p m.state.kernel.mask how signals p') :
    Wakeful p' (m.remasking how signals).state := by
  obtain ⟨pending, noted, heq, -, hwoken⟩ := m.exists_remasking how signals
  have hsignal : m.state.HasSignal →
      ((m.state.masked how signals).signalled pending noted).HasSignal :=
    fun hsignal hne ↦ hwoken (hsignal hne)
  rw [heq]
  cases hremask with
  | launch => exact ⟨h.telling, h.noZero, hsignal h.phase⟩
  | wait => exact ⟨h.telling, h.noZero, hsignal h.phase⟩
  | restore mask previous upshot =>
    cases upshot with
    | failed error => exact ⟨h.telling, h.noZero, h.phase.1, hsignal h.phase.2⟩
    | _ => exact ⟨h.telling, h.noZero, hsignal h.phase⟩

theorem spawn {previous : SignalSet} (h : Wakeful (.launching previous) m.state)
    (hne : m.state.kernel.nextPid ≠ 0) :
    Wakeful (.forked previous m.state.kernel.nextPid) m.spawning.state := by
  refine ⟨h.telling, fun hmem ↦ ?_, h.phase⟩
  rcases List.mem_append.1 hmem with hold | hnew
  · exact h.noZero hold
  · exact hne (List.mem_singleton.1 hnew).symm

/-- Even the end of all children comes with its signal. -/
theorem endAll {previous : SignalSet} {pid : Pid} {pids : List Pid}
    (h : Wakeful (.asleep previous pid) m.state) (hzero : 0 ∉ pids) :
    Wakeful (.asleep previous pid) (m.endingAll pids).state := by
  obtain ⟨alive, hkernel, -⟩ := Kernel.foldl_post_exited pids m.state.kernel
  obtain ⟨pending, noted, heq, -, hwoken⟩ := (m.state.ending pids).exists_raising .childStatus
  show Wakeful _ ((m.state.ending pids).raising .childStatus)
  rw [heq]
  refine ⟨fun entry hentry ↦ ?_, ?_, fun _ ↦ hwoken (Or.inr rfl)⟩
  · replace hentry : entry ∈ (m.state.ending pids).kernel.waitQueue := hentry
    rw [show (m.state.ending pids).kernel = _ from hkernel] at hentry
    rcases List.mem_append.1 hentry with hold | hnew
    · exact h.telling entry hold
    · obtain ⟨other, hother, rfl⟩ := List.mem_map.1 hnew
      refine isTelling_status ?_ rfl
      rintro rfl
      exact hzero hother
  · show 0 ∉ (m.state.ending pids).kernel.forked
    rw [show (m.state.ending pids).kernel = _ from hkernel]
    exact h.noZero

theorem wake {previous : SignalSet} {pid : Pid} (h : Wakeful (.asleep previous pid) m.state)
    (mask : SignalSet) : Wakeful (.waiting previous pid) (m.delivering mask).state := by
  obtain ⟨pending, noted, heq, -, hwoken⟩ := m.state.exists_delivering mask
  show Wakeful _ (m.state.delivering mask)
  rw [heq]
  exact ⟨h.telling, h.noZero, fun hne ↦ hwoken (h.phase hne)⟩

end Wakeful

/-- A child never turns back into a shell. -/
theorem Move.not_isChild {p p' : Phase} {m m' : Machine} (h : Move p m p' m')
    (hp' : ¬p'.IsChild) : ¬p.IsChild := by
  cases h with
  | same => exact hp'
  | turn h =>
    cases h with
    | child => exact absurd trivial hp'
    | _ => exact id
  | record h =>
    cases h with
    | quiet => exact hp'
    | kill previous failure hne => exact hne
    | unrestored previous upshot => cases upshot <;> exact hp'
    | _ => exact id
  | happen => exact hp'
  | takeNoted site => cases site <;> exact id
  | changeJobs h =>
    cases h with
    | add previous hne => exact hne
    | _ => exact id
  | remask h =>
    cases h with
    | restore mask previous upshot => cases upshot <;> exact hp'
    | _ => exact id
  | _ => exact id

/-- Every move of a shell that is told of its children keeps what is known of notes and signals. -/
theorem Wakeful.move {p p' : Phase} {m m' : Machine} (h : ¬p.IsChild → Wakeful p m.state)
    (hsound : Sound p m) (hmove : Move p m p' m')
    (htold : ∀ moment ∈ m'.history, moment.isTold = true) (hp' : ¬p'.IsChild) :
    Wakeful p' m'.state := by
  have hbefore := h (hmove.not_isChild hp')
  cases hmove with
  | same hstate =>
    rw [hstate]
    exact hbefore
  | turn hturn => exact hbefore.turn hturn hp'
  | record hremark => exact hbefore.record hremark
  | happen what hopen => exact hbefore.happen hopen (htold _ List.mem_cons_self)
  | takeNoted site => exact hbefore.takeNoted
  | takeEntry site hqueue => exact hbefore.takeEntry hqueue
  | changeJobs hrewrite => exact hbefore.changeJobs hrewrite
  | remask hremask => exact hbefore.remask hremask
  | spawn previous => exact hbefore.spawn hp'
  | sleep => exact ⟨hbefore.telling, hbefore.noZero, hbefore.phase.2⟩
  | endAll previous pid hpids =>
    refine hbefore.endAll ?_
    rcases hpids with rfl | rfl
    · exact hbefore.noZero
    · exact fun hzero ↦ hbefore.noZero (hsound.state.alive.subset hzero)
  | wake => exact hbefore.wake _

/-- On a path on which the shell is told of its children, no status is missed. -/
theorem Path.wakeful {start : Machine → Prop} {p : Phase} {m : Machine}
    (h : Path Phase.IsOver start p m) (hsound : ∀ m, start m → Sound .ready m)
    (hstart : ∀ m, start m → Wakeful .ready m.state)
    (htold : ∀ moment ∈ m.history, moment.isTold = true) (hp : ¬p.IsChild) :
    Wakeful p m.state := by
  have hall : ¬p.IsChild → Wakeful p m.state := by
    refine h.invariant (fun p m ↦ ¬p.IsChild → Wakeful p m.state) (fun m hm _ ↦ hstart m hm) ?_ ?_
      htold
    · intro p m p' m' hpath hm hmove hmoments
      exact Wakeful.move hm (hpath.sound hsound) hmove hmoments
    · intro p m hover hm _
      cases p with
      | reached upshot =>
        cases upshot with
        | settled =>
          have hsettled := hm nofun
          exact ⟨hsettled.telling, hsettled.noZero, hsettled.phase⟩
        | failed error =>
          have hfailed := hm nofun
          exact ⟨hfailed.telling, hfailed.noZero, hfailed.phase.2⟩
        | _ => exact hover.elim
      | _ => exact hover.elim
  exact hall hp

theorem wakeful_of_begins {session : Session} (m : Machine) (h : session.Begins m) :
    Wakeful .ready m.state := by
  rw [show m = session.initial from h]
  exact ⟨nofun, nofun, fun hne ↦ absurd rfl hne⟩

/-! ### Going to sleep -/

/-- A sleep that returns has run the handler of a signal that was pending and is let through. -/
theorem childStatus_of_suspend {mask : SignalSet} {m m' : Machine} (hsound : m.state.Sound)
    (hwoken : m.state.IsWoken) (hmask : mask.contains .childStatus = false)
    (h : Kernel.suspend mask m = (.done (), m')) : m'.state.noted.childStatus = true := by
  have hsteady : Steady fun m ↦ m.state.Sound ∧ m.state.IsWoken :=
    steady_state fun s ↦ s.Sound ∧ s.IsWoken
  have hopen : Undisturbed fun m ↦ m.state.Sound ∧ m.state.IsWoken := by
    refine ⟨hsteady, fun m what hm ↦ ⟨hm.1.after what, ?_⟩, fun _ _ _ hm ↦ hm⟩
    exact State.isWoken_raising _ (Or.inl (m.state.isWoken_undergoing hm.2 what))
  have hsleep : Routine.Triple (fun m ↦ m.state.Sound ∧ m.state.IsWoken) (Kernel.suspend mask)
      { done := fun _ m ↦ m.state.noted.childStatus = true
        exited := fun m ↦ m.state.Sound ∧ m.state.IsWoken } := by
    refine Kernel.triple_suspend hopen (fun _ hm ↦ hm) ?_ (fun _ hm ↦ hm.1.quit) ?_
    · rintro m pids - hm
      exact ⟨hm.1.endingAll pids, State.isWoken_raising _ (Or.inr rfl)⟩
    · exact fun m hm ↦ m.state.childStatus_noted_delivering hm.2 hmask
  have hpost := hsleep m ⟨hsound, hwoken⟩
  rw [h] at hpost
  exact hpost

/-- **No wake-up is lost.** If the shell is told of its children, then whenever it goes to sleep in
a wait, the mask of the sleep holds back none of the noted signals, nothing is noted and not yet
drained, a status in the wait queue has its signal pending, which the sleep lets through before it
returns, and the job that is waited for is in the foreground. -/
theorem wakeup_at_suspend (session : Session)
    (htold : ∀ moment ∈ session.history, moment.isTold = true) {later earlier : Trace}
    {moment : Moment} {mask : SignalSet} {answer : Answer}
    (hsplit : session.history = later ++ moment :: earlier)
    (hevent : moment.event = .call ⟨.suspend mask, answer⟩) :
    (∀ signal, SignalSet.noted.contains signal = true → mask.contains signal = false) ∧
      moment.state.noted = {} ∧
      (moment.state.kernel.waitQueue ≠ [] → moment.state.kernel.pending.childStatus = true ∧
        ∀ m m', m.state = moment.state → Kernel.suspend mask m = (.done (), m') →
          m'.state.noted.childStatus = true) ∧
      ∃ pid rest, earlier = ⟨.sleepsFor pid, moment.state⟩ :: rest ∧
        moment.state.jobs.foregroundPid? = some pid := by
  obtain ⟨p, hpath⟩ := session.onPath_last
  obtain ⟨previous, pid, m, hm, hstate, rfl, hpid, rfl⟩ :=
    hpath.exists_of_suspend session.history_of_begins hsplit hevent
  have hearlier : ∀ moment ∈ m.history, moment.isTold = true := by
    intro other hmem
    refine htold other ?_
    rw [hsplit]
    exact List.mem_append_right _ (List.mem_cons_of_mem _ (List.mem_cons_of_mem _ hmem))
  have hwakeful : Wakeful (.drained previous pid) m.state :=
    hm.wakeful session.sound_of_begins wakeful_of_begins hearlier nofun
  rw [← hstate]
  refine ⟨fun signal hsignal ↦ Shell.contains_sleepMask hsignal, hwakeful.phase.1, fun hne ↦ ?_,
    pid, m.history, rfl, hpid⟩
  have hwoken := hwakeful.phase.2 hne
  refine ⟨hwoken.resolve_left ?_, fun n n' hn hsuspend ↦ ?_⟩
  · rw [hwakeful.phase.1]
    decide
  · refine childStatus_of_suspend ?_ ?_ (Shell.contains_sleepMask rfl) hsuspend
    · rw [hn]
      exact (hm.sound session.sound_of_begins).state
    · rw [hn]
      exact hwoken

/-- The shell that naps goes to sleep with a status in the queue, but not without its signal. -/
theorem wakeup_of_napping : (∀ moment ∈ napping.history, moment.isTold = true) ∧
    ∃ moment ∈ napping.history, moment.event = .call ⟨.suspend .empty, .errno .eintr⟩ ∧
      moment.state.noted = {} ∧ moment.state.kernel.waitQueue ≠ [] ∧
        moment.state.kernel.pending.childStatus = true ∧
          ∃ pid, moment.state.jobs.foregroundPid? = some pid := by
  have htold : ∀ moment ∈ napping.history, moment.isTold = true := by decide +kernel
  have hsleeps : ∃ moment ∈ napping.history,
      moment.event = .call ⟨.suspend .empty, .errno .eintr⟩ ∧
        moment.state.kernel.waitQueue ≠ [] := by decide +kernel
  obtain ⟨moment, hmem, hevent, hqueue⟩ := hsleeps
  obtain ⟨later, earlier, hsplit⟩ := List.append_of_mem hmem
  obtain ⟨-, hnoted, hsignal, pid, -, -, hpid⟩ := wakeup_at_suspend napping htold hsplit hevent
  exact ⟨htold, moment, hmem, hevent, hnoted, hqueue, (hsignal hqueue).1, pid, hpid⟩

end JobShell
