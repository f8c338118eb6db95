import JobShell.Proofs.Wakeup

/-!
# Every step of every session ends

A wait ends from every state, as it finds at most one entry of the wait queue for each sleep that
does not bring it nearer to the end of its process. In the states that a session comes by, the only
such entries are failures that say that there is no child, as no process has the id 0. So the sleeps
of a wait are bounded by the batches, by those failures, and by two.
-/

namespace JobShell

/-- A status is that of a process. -/
def Occurrence.isOfProcess : Occurrence → Bool
  | child pid _ => 1 ≤ pid
  | waitFailure _ | raised _ => true

/-- What happened at the moment was of a process, if it was a status. -/
def Moment.isOfProcess (moment : Moment) : Bool :=
  match moment.event with
  | .happened what => what.isOfProcess
  | _ => true

/-- An entry stops a drain only by a failure that says that there is no child. -/
def WaitEntry.StopsByFailure (entry : WaitEntry) : Prop :=
  entry.stops = true → entry = .failure .echild

theorem stopsByFailure_of_status {pid : Pid} (change : Change) (h : pid ≠ 0) :
    (WaitEntry.status pid change).StopsByFailure :=
  fun hstops ↦ absurd (of_decide_eq_true hstops) h

theorem stopsByFailure_of_posted? {what : Occurrence} {entry : WaitEntry}
    (h : what.isOfProcess = true) (hposted : (Event.happened what).posted? = some entry) :
    entry.StopsByFailure := by
  cases what with
  | child pid change =>
    obtain rfl := Option.some.inj hposted
    refine stopsByFailure_of_status change fun hzero ↦ ?_
    exact absurd (of_decide_eq_true h) (by rw [hzero]; decide)
  | waitFailure errno =>
    obtain rfl := Option.some.inj hposted
    exact fun hstops ↦ congrArg WaitEntry.failure (of_decide_eq_true hstops)
  | raised signal => cases hposted

/-- No process has the id 0, neither among those that were forked nor in the wait queue. -/
structure State.Numbered (s : State) : Prop where
  noZero : 0 ∉ s.kernel.forked
  queued : ∀ entry ∈ s.kernel.waitQueue, entry.StopsByFailure

namespace State.Numbered

variable {s s' : State} {m : Machine}

theorem of_eq (h : s.Numbered) (hforked : s'.kernel.forked = s.kernel.forked)
    (hqueue : s'.kernel.waitQueue = s.kernel.waitQueue) : s'.Numbered :=
  ⟨by rw [hforked]; exact h.noZero, by rw [hqueue]; exact h.queued⟩

/-- More entries are queued. -/
theorem queue {entries : List WaitEntry} (h : s.Numbered)
    (hforked : s'.kernel.forked = s.kernel.forked)
    (hqueue : s'.kernel.waitQueue = s.kernel.waitQueue ++ entries)
    (hentries : ∀ entry ∈ entries, entry.StopsByFailure) : s'.Numbered := by
  refine ⟨by rw [hforked]; exact h.noZero, fun entry hentry ↦ ?_⟩
  rw [hqueue] at hentry
  exact (List.mem_append.1 hentry).elim (h.queued entry) (hentries entry)

theorem after {what : Occurrence} (h : m.state.Numbered) (hwhat : what.isOfProcess = true) :
    (m.after what).state.Numbered := by
  have hposted := m.state.waitQueue_undergoing what
  refine h.queue ((State.forked_raising _ _).trans (State.forked_undergoing _ what))
    ((State.waitQueue_raising _ _).trans hposted) fun entry hentry ↦ ?_
  exact stopsByFailure_of_posted? hwhat (Option.mem_toList.1 hentry)

theorem endingAll {pids : List Pid} (h : m.state.Numbered) (hpids : 0 ∉ pids) :
    (m.endingAll pids).state.Numbered := by
  obtain ⟨hqueue, hforked, -⟩ := Kernel.exists_endingAll m pids
  refine h.queue hforked hqueue fun entry hentry ↦ ?_
  obtain ⟨pid, hpid, rfl⟩ := List.mem_map.1 hentry
  exact stopsByFailure_of_status _ fun hzero ↦ hpids (hzero ▸ hpid)

/-- So a wait is kept going by no more than the batches, the failures and two sleeps. -/
theorem patience_le (h : m.state.Numbered)
    (hscript : ∀ batch ∈ m.script.batches, ∀ what ∈ batch, what.isOfProcess = true) :
    m.patience [] ≤ m.script.batches.length + (m.toCome []).count (.failure .echild) + 2 := by
  have hstops : (m.toCome []).countP WaitEntry.stops = (m.toCome []).count (.failure .echild) := by
    refine List.countP_congr fun entry hentry ↦ ?_
    rw [beq_iff_eq]
    refine ⟨?_, fun heq ↦ by rw [heq]; rfl⟩
    rcases List.mem_append.1 hentry with hqueued | hscripted
    · exact h.queued entry hqueued
    · obtain ⟨what, hwhat, hposted⟩ := List.mem_filterMap.1 hscripted
      obtain ⟨batch, hbatch, hmem⟩ := List.mem_flatten.1 hwhat
      exact stopsByFailure_of_posted? (hscript batch hbatch what hmem) hposted
  rw [Machine.patience, hstops, List.count_eq_zero.2 h.noZero]
  split <;> omega

end State.Numbered

/-- Only a child comes from a fork that is told the id 0. -/
theorem Move.numbered {p p' : Phase} {m m' : Machine} (hmove : Move p m p' m')
    (hsound : Sound p m) (h : ¬p.IsChild → m.state.Numbered)
    (hmoments : ∀ moment ∈ m'.history, moment.isOfProcess = true) (hp' : ¬p'.IsChild) :
    m'.state.Numbered := by
  have hbefore := h (hmove.not_isChild hp')
  cases hmove with
  | same hstate =>
    rw [hstate]
    exact hbefore
  | turn => exact hbefore
  | record => exact hbefore
  | happen what => exact hbefore.after (hmoments _ List.mem_cons_self)
  | takeNoted => exact hbefore.of_eq rfl rfl
  | takeEntry site hqueue =>
    refine ⟨hbefore.noZero, fun entry hentry ↦ hbefore.queued entry ?_⟩
    rw [hqueue]
    exact List.mem_cons_of_mem _ hentry
  | changeJobs => exact hbefore.of_eq rfl rfl
  | @remask _ _ _ how signals =>
    have hsame := m.sameOutlook_remasking how signals
    exact hbefore.of_eq hsame.forked hsame.queue
  | spawn previous =>
    refine ⟨fun hzero ↦ ?_, hbefore.queued⟩
    rcases List.mem_append.1 hzero with hold | hnew
    · exact hbefore.noZero hold
    · exact hp' (List.mem_singleton.1 hnew).symm
  | sleep => exact hbefore
  | endAll previous pid hpids =>
    refine hbefore.endingAll ?_
    rcases hpids with rfl | rfl
    · exact hbefore.noZero
    · exact fun hzero ↦ hbefore.noZero (hsound.state.alive.subset hzero)
  | wake previous =>
    have hsame := m.sameOutlook_delivering (Shell.sleepMask previous)
    exact hbefore.of_eq hsame.forked hsame.queue

/-- On a path on which every status is that of a process, no process has the id 0. -/
theorem Path.numbered {start : Machine → Prop} {p : Phase} {m : Machine}
    (h : Path Phase.IsOver start p m) (hsound : ∀ m, start m → Sound .ready m)
    (hstart : ∀ m, start m → m.state.Numbered)
    (hmoments : ∀ moment ∈ m.history, moment.isOfProcess = true) (hp : ¬p.IsChild) :
    m.state.Numbered := by
  have hall : ¬p.IsChild → m.state.Numbered := by
    refine h.invariant (fun p m ↦ ¬p.IsChild → m.state.Numbered) (fun m hm _ ↦ hstart m hm) ?_ ?_
      hmoments
    · exact fun p m p' m' hpath hm hmove ↦ hmove.numbered (hpath.sound hsound) hm
    · exact fun p m hover hm _ ↦ hm hover.not_isChild
  exact hall hp

theorem numbered_of_begins {session : Session} (m : Machine) (h : session.Begins m) :
    m.state.Numbered := by
  rw [show m = session.initial from h]
  exact ⟨nofun, nofun⟩

/-- **Every step ends.** From every state that a session comes by and under every script, if every
status is that of a process, a wait ends: it drains and sleeps by turns, with no two sleeps without
a drain in between, and the sleeps are no more than the batches that are left, the failures queued
or scripted that say that there is no child, and two. No step of a session stalls, whatever it is
told. Not to stall is to end: a loop that does not run out of its bound does the same under every
greater one. -/
theorem waits_end (session : Session) :
    (∀ p m pid, Path Phase.IsOver session.Begins p m → ¬p.IsChild →
      (∀ moment ∈ m.history, moment.isOfProcess = true) →
      (∀ batch ∈ m.script.batches, ∀ what ∈ batch, what.isOfProcess = true) →
      (Shell.waitFor pid m).1 ≠ .stalled ∧
        ∃ news j, (Shell.waitFor pid m).2.history = news ++ m.history ∧
          (Trace.beats news = Beat.rounds j ∨ Trace.beats news = Beat.rounds j ++ [.drain]) ∧
          j ≤ m.script.batches.length + (m.toCome []).count (.failure .echild) + 2) ∧
    (∀ report ∈ session.run, report.ending ≠ .stalled) ∧
    ∀ pid previous n m more, (Shell.awaitForeground pid previous n m).1 ≠ .stalled →
      Shell.awaitForeground pid previous (n + more) m = Shell.awaitForeground pid previous n m := by
  refine ⟨?_, ?_, fun pid previous n m more ↦ Shell.awaitForeground_add pid more⟩
  · intro p m pid hpath hp hmoments hscript
    have hsound := (hpath.sound session.sound_of_begins).state
    have hnumbered := hpath.numbered session.sound_of_begins numbered_of_begins hmoments hp
    obtain ⟨hends, j, hj, hdid⟩ := Shell.alternates_waitFor pid m hsound
    have hbound := Nat.le_trans hj (hnumbered.patience_le hscript)
    rcases hdid with ⟨news, hhistory, hbeats⟩ | ⟨news, hhistory, hbeats⟩
    · exact ⟨hends, news, j, hhistory, Or.inl hbeats, hbound⟩
    · exact ⟨hends, news, j, hhistory, Or.inr hbeats, hbound⟩
  · intro report hmem
    obtain ⟨earlier, later, hsplit⟩ := List.append_of_mem hmem
    have hleaves : report.ending.Leaves Phase.IsOver session.Begins report.machine :=
      session.leaves_of_run trivial hsplit fun _ _ _ _ ↦ trivial
    exact hleaves.ne_stalled

/-- A session in which the end of the child in the foreground is lost, as its status cannot be
read. -/
def losing : Session where
  steps := [⟨.line "nap", { batches := [[.child 1001 (.signaled 34 true)]] }⟩]

/-- The machine at its end. -/
def atALoss : Machine := losing.last.machine

/-- The same with a wait to fail in the next sleep. -/
def askedAgain : Machine := { atALoss with script := { batches := [[.waitFailure .echild]] } }

/-- The wait that finds neither the end of its process nor a living child sleeps three times: for
the batch, for the children that live, and for those that there ever were. -/
theorem waits_end_of_losing : Path Phase.IsOver losing.Begins .ready askedAgain ∧
    (∀ moment ∈ askedAgain.history, moment.isOfProcess = true) ∧
    (∀ batch ∈ askedAgain.script.batches, ∀ what ∈ batch, what.isOfProcess = true) ∧
    askedAgain.state.jobs.foregroundPid? = some 1001 ∧ askedAgain.state.kernel.alive = [] ∧
    (Shell.waitFor 1001 askedAgain).1 = .done () ∧
    ∃ news, (Shell.waitFor 1001 askedAgain).2.history = news ++ askedAgain.history ∧
      Trace.beats news = Beat.rounds 3 ++ [.drain] := by
  have hgoes : losing.last.ending.goesOn = true := by decide +kernel
  have hpath : Path Phase.IsOver losing.Begins .ready atALoss := losing.path_last hgoes
  have hasked : Path Phase.IsOver losing.Begins .ready askedAgain :=
    hpath.withScript { batches := [[.waitFailure .echild]] }
  have hmoments : ∀ moment ∈ askedAgain.history, moment.isOfProcess = true := by decide +kernel
  have hscript : ∀ batch ∈ askedAgain.script.batches, ∀ what ∈ batch, what.isOfProcess = true := by
    decide +kernel
  obtain ⟨-, news, -, hhistory, -, -⟩ :=
    (waits_end losing).1 .ready askedAgain 1001 hasked id hmoments hscript
  have htotal : Trace.beats (Shell.waitFor 1001 askedAgain).2.history =
      Trace.beats askedAgain.history ++ (Beat.rounds 3 ++ [.drain]) := by decide +kernel
  rw [hhistory, Trace.beats_append] at htotal
  exact ⟨hasked, hmoments, hscript, by decide +kernel, by decide +kernel, by decide +kernel, news,
    hhistory, List.append_cancel_left htotal⟩

end JobShell
