import JobShell.Proofs.Path.Move
import JobShell.Proofs.Table.Shape
import JobShell.Session

/-!
# What is always true of a shell and its kernel

A signal waits only while it is blocked, the quit key's signal never is, and the job table names
each process at most once and none that was not forked. These facts need no assumption about what
happens outside. They make every delivery of signals possible, and they tell the jobs of a table
apart by their processes.
-/

namespace JobShell

/-- The kernel and the job table fit each other. -/
structure State.Sound (s : State) : Prop where
  /-- A signal that is pending is blocked. -/
  held : ∀ signal, s.kernel.pending.contains signal = true → s.kernel.mask.contains signal = true
  /-- The quit key is never held back. -/
  heeds : s.kernel.mask.contains .quit = false
  /-- Only a process that was forked lives, and once. -/
  alive : s.kernel.alive.Sublist s.kernel.forked
  /-- Process ids are handed out in ascending order. -/
  below : ∀ pid ∈ s.kernel.forked, pid < s.kernel.nextPid
  /-- Only a process that was forked has a job. -/
  started : ∀ pid ∈ s.jobs.pids, pid ∈ s.kernel.forked
  /-- Only a process with a proper id has a job. -/
  positive : ∀ pid ∈ s.jobs.pids, 1 ≤ pid
  /-- No process has two jobs. -/
  nodup : s.jobs.pids.Nodup

namespace State.Sound

variable {s : State} {table : JobTable} {pid : Pid} {job : Job} {newState : JobState}
  {commandLine : String}

/-- The quit key is never pending. -/
theorem quit (h : s.Sound) : s.kernel.pending.contains .quit = false := by
  cases hquit : s.kernel.pending.contains .quit with
  | false => rfl
  | true => exact absurd (h.held .quit hquit) (by rw [h.heeds]; decide)

/-- With no signal blocked, none is pending. -/
theorem pending_eq_empty (h : s.Sound) (hmask : s.kernel.mask = .empty) :
    s.kernel.pending = .empty := by
  refine SignalSet.ext_contains fun signal ↦ ?_
  rw [SignalSet.contains_empty]
  cases hpending : s.kernel.pending.contains signal with
  | false => rfl
  | true =>
    have hheld := h.held signal hpending
    rw [hmask, SignalSet.contains_empty] at hheld
    cases hheld

/-! ### Signals and masks -/

/-- Notes do not matter here, and signals may wait as long as they are blocked. -/
theorem signalled {pending : SignalSet} (h : s.Sound)
    (hheld : ∀ signal, pending.contains signal = true → s.kernel.mask.contains signal = true)
    (noted : EventSet) : (s.signalled pending noted).Sound where
  held := hheld
  heeds := h.heeds
  alive := h.alive
  below := h.below
  started := h.started
  positive := h.positive
  nodup := h.nodup

/-- A signal that is raised waits only if it is blocked. -/
theorem raising (h : s.Sound) (signal : Handled) : (s.raising signal).Sound := by
  obtain ⟨pending, noted, heq, hpending, -⟩ := s.exists_raising signal
  rw [heq]
  refine h.signalled (fun other hother ↦ ?_) noted
  exact (hpending other hother).elim (h.held other) id

/-- A delivery leaves fewer signals to wait. -/
theorem delivering (h : s.Sound) (mask : SignalSet) : (s.delivering mask).Sound := by
  obtain ⟨pending, noted, heq, hpending, -⟩ := s.exists_delivering mask
  rw [heq]
  refine h.signalled (fun signal hsignal ↦ ?_) noted
  rw [hpending, Bool.and_eq_true] at hsignal
  exact h.held signal hsignal.1

/-- A new mask lets out what it does not block, so what is still pending is blocked by it. -/
theorem remasking {m : Machine} {how : MaskChange} {signals : SignalSet} (h : m.state.Sound)
    (hquit : (Kernel.maskAfter how signals m.state.kernel.mask).contains .quit = false) :
    (m.remasking how signals).state.Sound := by
  obtain ⟨pending, noted, heq, hpending, -⟩ := m.exists_remasking how signals
  rw [heq]
  refine ⟨fun signal hsignal ↦ ?_, hquit, h.alive, h.below, h.started, h.positive, h.nodup⟩
  replace hsignal : pending.contains signal = true := hsignal
  rw [hpending, Bool.and_eq_true] at hsignal
  exact hsignal.2

/-! ### Processes -/

/-- A status that is queued may be the end of a process, which does not live any more. -/
theorem post (h : s.Sound) (pid : Pid) (change : Change) :
    (s.withKernel (·.post pid change)).Sound := by
  refine ⟨h.held, h.heeds, ?_, h.below, h.started, h.positive, h.nodup⟩
  show (if change.isEnd then s.kernel.alive.filter (· ≠ pid) else s.kernel.alive).Sublist
    s.kernel.forked
  split
  · exact List.filter_sublist.trans h.alive
  · exact h.alive

theorem undergoing (h : s.Sound) (what : Occurrence) : (s.undergoing what).Sound := by
  cases what with
  | child pid change => exact h.post pid change
  | waitFailure errno => exact ⟨h.held, h.heeds, h.alive, h.below, h.started, h.positive, h.nodup⟩
  | raised signal => exact h

/-- Nothing that happens outside the shell makes it unsound. -/
theorem after {m : Machine} (h : m.state.Sound) (what : Occurrence) : (m.after what).state.Sound :=
  (h.undergoing what).raising what.signal

theorem ending (h : s.Sound) (pids : List Pid) : (s.ending pids).Sound := by
  induction pids generalizing s with
  | nil => exact h
  | cons pid pids ih => exact ih (h.post pid (.exited 0))

/-- So the children may be ended all at once. -/
theorem endingAll {m : Machine} (h : m.state.Sound) (pids : List Pid) :
    (m.endingAll pids).state.Sound :=
  (h.ending pids).raising .childStatus

/-- The wait queue is none of this. -/
theorem taking {m : Machine} (h : m.state.Sound) (entry : WaitEntry) (rest : List WaitEntry) :
    (m.taking entry rest).state.Sound :=
  ⟨h.held, h.heeds, h.alive, h.below, h.started, h.positive, h.nodup⟩

/-- A new process gets a greater id than all before. -/
theorem spawn (h : s.Sound) : (s.withKernel Kernel.spawn).Sound where
  held := h.held
  heeds := h.heeds
  alive := h.alive.append (List.Sublist.refl [s.kernel.nextPid])
  below := by
    intro pid hpid
    rcases List.mem_append.1 hpid with hold | hnew
    · exact Int.lt_add_one_of_le (Int.le_of_lt (h.below pid hold))
    · rw [List.mem_singleton.1 hnew]
      exact Int.lt_succ s.kernel.nextPid
  started := fun pid hpid ↦ List.mem_append_left _ (h.started pid hpid)
  positive := h.positive
  nodup := h.nodup

/-! ### Jobs -/

/-- A table fits the kernel if it names processes that were forked, and none of them twice. -/
theorem withJobs (h : s.Sound)
    (hpids : ∀ pid ∈ table.pids, pid ∈ s.kernel.forked ∧ 1 ≤ pid) (hnodup : table.pids.Nodup) :
    State.Sound { s with jobs := table } where
  held := h.held
  heeds := h.heeds
  alive := h.alive
  below := h.below
  started pid hpid := (hpids pid hpid).1
  positive pid hpid := (hpids pid hpid).2
  nodup := hnodup

/-- A job may be added for a process that was forked and has none. -/
theorem add (h : s.Sound) (hadd : s.jobs.add pid newState commandLine = .ok (job, table))
    (hforked : pid ∈ s.kernel.forked) (hnew : pid ∉ s.jobs.pids) :
    State.Sound { s with jobs := table } := by
  refine h.withJobs (fun other hother ↦ ?_) (JobTable.nodup_pids_add hadd h.nodup hnew)
  obtain ⟨hpos, -⟩ := JobTable.exists_of_add hadd
  rcases (JobTable.mem_pids_add_iff hadd).1 hother with rfl | hold
  · exact ⟨hforked, hpos⟩
  · exact ⟨h.started other hold, h.positive other hold⟩

/-- A removal names no process that the table did not. -/
theorem remove (h : s.Sound) (hremove : s.jobs.remove pid = some (job, table)) :
    State.Sound { s with jobs := table } := by
  refine h.withJobs (fun other hother ↦ ?_) (JobTable.nodup_pids_remove hremove h.nodup)
  have hold := ((JobTable.mem_pids_remove_iff hremove h.nodup).1 hother).1
  exact ⟨h.started other hold, h.positive other hold⟩

theorem setState (h : s.Sound) (hset : s.jobs.setState pid newState = some (job, table)) :
    State.Sound { s with jobs := table } := by
  refine h.withJobs (fun other hother ↦ ?_) ?_
  · rw [JobTable.pids_setState hset] at hother
    exact ⟨h.started other hother, h.positive other hother⟩
  · rw [JobTable.pids_setState hset]
    exact h.nodup

/-- Whatever is learned, the table still fits the kernel. -/
theorem learn {status : WaitStatus} {change : JobChange} (h : s.Sound)
    (hlearn : s.jobs.learn? status = some (change, table)) :
    State.Sound { s with jobs := table } := by
  rcases JobTable.exists_of_learn? hlearn with ⟨pid, job, -, -, hremove⟩ | ⟨pid, job, -, -, hset⟩
  · exact h.remove hremove
  · exact h.setState hset

end State.Sound

/-! ### Along a path -/

/-- What is always true of a machine in a phase. -/
structure Sound (p : Phase) (m : Machine) : Prop where
  /-- Children are up to the script. -/
  plays : m.playsChildren = false
  /-- The state is sound. -/
  state : m.state.Sound
  /-- The mask to be put back lets the quit key through. -/
  saved : ∀ previous, p.saved? = some previous → previous.contains .quit = false
  /-- A process that was forked a moment ago has no job. -/
  fresh : ∀ pid, p.fresh? = some pid → pid ∈ m.state.kernel.forked ∧ pid ∉ m.state.jobs.pids

/-- One phase keeps in mind no more than the other. -/
structure Phase.Forgets (p p' : Phase) : Prop where
  saved : ∀ previous, p'.saved? = some previous → p.saved? = some previous
  fresh : ∀ pid, p'.fresh? = some pid → p.fresh? = some pid

/-- A turn keeps in mind what it needs for what follows. -/
theorem Turn.forgets {p p' : Phase} {s : State} (h : Turn p s p') : p.Forgets p' := by
  cases h with
  | unreadable site =>
    cases site with
    | prompt => exact ⟨nofun, nofun⟩
    | wait previous pid => exact ⟨fun _ h ↦ h, nofun⟩
  | _ => exact ⟨fun _ h ↦ h, nofun⟩

/-- What is recorded may be the end of what was kept in mind. -/
theorem Remark.forgets {p p' : Phase} {s : State} {event : Event} (h : Remark p s event p') :
    p.Forgets p' := by
  cases h with
  | quiet => exact ⟨fun _ h ↦ h, fun _ h ↦ h⟩
  | drained site =>
    cases site with
    | prompt => exact ⟨nofun, nofun⟩
    | wait previous pid => exact ⟨fun _ h ↦ h, nofun⟩
  | unrestored => exact ⟨nofun, nofun⟩
  | _ => exact ⟨fun _ h ↦ h, nofun⟩

/-- Once the table has changed, no process waits for its job. -/
theorem Rewrite.forgets {p p' : Phase} {s : State} {change : JobChange} {table : JobTable}
    (h : Rewrite p s change table p') : p.Forgets p' ∧ p'.fresh? = none := by
  cases h with
  | _ => exact ⟨⟨fun _ h ↦ h, nofun⟩, rfl⟩

/-- A change of the job table keeps the state sound. -/
theorem Rewrite.sound {p p' : Phase} {m : Machine} {change : JobChange} {table : JobTable}
    (h : Rewrite p m.state change table p') (hsound : Sound p m) :
    State.Sound { m.state with jobs := table } := by
  cases h with
  | learned site h => exact hsound.state.learn h
  | foreground h => exact hsound.state.setState h
  | background h => exact hsound.state.setState h
  | add previous hne h =>
    obtain ⟨hforked, hnew⟩ := hsound.fresh _ rfl
    exact hsound.state.add h hforked hnew

namespace Sound

variable {p p' : Phase} {m m' : Machine}

/-- Going on to a phase that keeps less in mind, with the same processes and jobs. -/
theorem forget (h : Sound p m) (hp : p.Forgets p') (hplays : m'.playsChildren = false)
    (hstate : m'.state.Sound) (hforked : m'.state.kernel.forked = m.state.kernel.forked)
    (hjobs : m'.state.jobs = m.state.jobs) : Sound p' m' where
  plays := hplays
  state := hstate
  saved previous hsaved := h.saved previous (hp.saved previous hsaved)
  fresh pid hpid := by
    rw [hforked, hjobs]
    exact h.fresh pid (hp.fresh pid hpid)

/-- Every move keeps what is always true. -/
theorem move (h : Sound p m) (hmove : Move p m p' m') : Sound p' m' := by
  have hplays : m'.playsChildren = false := hmove.playsChildren.trans h.plays
  cases hmove with
  | same hstate =>
    exact h.forget ⟨fun _ h ↦ h, fun _ h ↦ h⟩ hplays (hstate ▸ h.state) (by rw [hstate])
      (by rw [hstate])
  | turn hturn => exact h.forget hturn.forgets hplays h.state rfl rfl
  | record hremark => exact h.forget hremark.forgets hplays h.state rfl rfl
  | happen what =>
    obtain ⟨pending, noted, heq, -⟩ := (m.state.undergoing what).exists_raising what.signal
    refine h.forget ⟨fun _ h ↦ h, fun _ h ↦ h⟩ hplays (h.state.after what) ?_ ?_
    · show ((m.state.undergoing what).raising what.signal).kernel.forked = _
      rw [heq]
      cases what <;> rfl
    · show ((m.state.undergoing what).raising what.signal).jobs = _
      rw [heq]
      cases what <;> rfl
  | takeNoted site =>
    refine h.forget ?_ hplays (h.state.signalled h.state.held {}) rfl rfl
    split
    · cases site <;> exact ⟨fun _ h ↦ h, nofun⟩
    · cases site <;> exact ⟨fun _ h ↦ h, nofun⟩
  | takeEntry site => exact h.forget ⟨fun _ h ↦ h, nofun⟩ hplays (h.state.taking _ _) rfl rfl
  | changeJobs hrewrite =>
    obtain ⟨hforgets, hfresh⟩ := hrewrite.forgets
    refine ⟨hplays, hrewrite.sound h, fun previous hsaved ↦ ?_, fun pid hpid ↦ ?_⟩
    · exact h.saved previous (hforgets.saved previous hsaved)
    · rw [hfresh] at hpid
      cases hpid
  | remask hremask =>
    cases hremask with
    | launch mask =>
      refine ⟨hplays, h.state.remasking ?_, ?_, nofun⟩
      · show (m.state.kernel.mask.union .children).contains .quit = false
        rw [SignalSet.contains_union, h.state.heeds]
        rfl
      · rintro previous heq
        obtain rfl := Option.some.inj heq
        exact h.state.heeds
    | wait mask pid =>
      refine ⟨hplays, h.state.remasking ?_, ?_, nofun⟩
      · show (m.state.kernel.mask.union .noted).contains .quit = false
        rw [SignalSet.contains_union, h.state.heeds]
        rfl
      · rintro previous heq
        obtain rfl := Option.some.inj heq
        exact h.state.heeds
    | restore =>
      exact ⟨hplays, h.state.remasking (h.saved _ rfl), nofun, nofun⟩
  | spawn previous =>
    refine ⟨hplays, h.state.spawn, h.saved, fun pid heq ↦ ?_⟩
    obtain rfl := Option.some.inj heq
    refine ⟨List.mem_append_right _ (List.mem_singleton.2 rfl), fun hmem ↦ ?_⟩
    -- Ids ascend, so a process that has a job was forked under a smaller one.
    exact Int.lt_irrefl _ (h.state.below _ (h.state.started _ hmem))
  | sleep previous => exact h.forget ⟨fun _ h ↦ h, nofun⟩ hplays h.state rfl rfl
  | endAll previous pid =>
    exact ⟨hplays, h.state.endingAll _, h.saved, nofun⟩
  | wake previous pid =>
    exact ⟨hplays, h.state.delivering _, h.saved, nofun⟩

/-- Whatever phase a sound machine is in, new work may begin with it. -/
theorem ready (h : Sound p m) : Sound .ready m := h.forget ⟨nofun, nofun⟩ h.plays h.state rfl rfl

/-- A new machine is sound. -/
theorem initial (session : Session) : Sound .ready session.initial where
  plays := rfl
  state := ⟨nofun, rfl, List.Sublist.refl [], nofun, nofun, nofun, List.nodup_nil⟩
  saved := nofun
  fresh := nofun

end Sound

/-- Whatever begins with sound machines goes on with them. -/
theorem Path.sound {again : Phase → Prop} {start : Machine → Prop} {p : Phase} {m : Machine}
    (h : Path again start p m) (hstart : ∀ m, start m → Sound .ready m) : Sound p m := by
  induction h with
  | start h => exact hstart _ h
  | move _ hmove ih => exact ih.move hmove
  | again _ _ ih => exact ih.ready

end JobShell
