import JobShell.Proofs.Path.Session
import JobShell.Proofs.Table.Views

/-!
# Every launched child is accounted for

A fork leaves the shell with a child that it does not know yet. Before it does anything else about
its children, it gives the new one a job or, if the job table is full, kills it. The signal for
children is blocked from before the fork until then and nothing is taken from the wait queue, so
whatever is reported of the child meanwhile is still there to be learned once the child is known.
Only the quit key can come in between, and it ends the shell.
-/

namespace JobShell

open Routine

/-! ### Dealings with children -/

namespace Event

/-- The shell starts a process, signals one, waits for one, learns what became of one or changes
the table of those that have a job. -/
def isDealing : Event → Bool
  | call ⟨.fork, .number _⟩ | call ⟨.send _ _, _⟩ | call ⟨.wait, _⟩ | learned _ | jobs _ => true
  | _ => false

theorem isDealing_of_isQuiet {event : Event} (h : event.isQuiet = true) :
    event.isDealing = false := by
  unfold isDealing
  split <;> first | cases h | rfl

theorem posted?_of_isQuiet {event : Event} (h : event.isQuiet = true) : event.posted? = none := by
  unfold posted?
  split <;> first | cases h | rfl

end Event

namespace Trace

/-- The dealings with children, in the order in which they happened. -/
def dealings (trace : Trace) : List Event := (events trace).filter Event.isDealing

/-- What was added to the wait queue, in order. -/
def posted (trace : Trace) : List WaitEntry := (events trace).filterMap Event.posted?

/-- Dealings are listed from the first on, so the earlier trace comes first. -/
theorem dealings_append (later earlier : Trace) :
    dealings (later ++ earlier) = dealings earlier ++ dealings later := by
  simp [dealings, events]

theorem dealings_of_not_isDealing {moment : Moment} (h : moment.event.isDealing = false) :
    dealings [moment] = [] := by
  simp [dealings, events, h]

theorem posted_of_posted? {moment : Moment} (h : moment.event.posted? = none) :
    posted [moment] = [] := by
  simp [posted, events, h]

/-- Statuses are listed from the first on, as the queue holds them. -/
theorem posted_append (later earlier : Trace) :
    posted (later ++ earlier) = posted earlier ++ posted later := by
  simp [posted, events]

/-- A launch has blocked the signal for children, which was held back at every moment since, and has
had these dealings with children. -/
def Guarding (met : List Event) (news : Trace) : Prop :=
  ∃ during blocked before, news = during ++ blocked :: before ∧
    blocked.event = .call ⟨.changeMask .block .children, .number 0⟩ ∧
      dealings before = [] ∧ dealings during = met ∧
        ∀ moment ∈ during ++ [blocked], moment.state.kernel.mask.childStatus = true

/-- Dealings with children that a launch had under guard, and none after. -/
def Guarded (met : List Event) (news : Trace) : Prop :=
  ∃ after during, news = after ++ during ∧ dealings after = [] ∧ Guarding met during

/-- What is added with the signal blocked keeps the guard, and its dealings are met. -/
theorem Guarding.append {met : List Event} {added news : Trace} (h : Guarding met news)
    (hmask : ∀ moment ∈ added, moment.state.kernel.mask.childStatus = true) :
    Guarding (met ++ dealings added) (added ++ news) := by
  obtain ⟨during, blocked, before, rfl, hblocked, hbefore, rfl, hheld⟩ := h
  refine ⟨added ++ during, blocked, before, (List.append_assoc ..).symm, hblocked, hbefore,
    dealings_append added during, fun moment hmem ↦ ?_⟩
  rw [List.append_assoc] at hmem
  exact (List.mem_append.1 hmem).elim (hmask moment) (hheld moment)

theorem Guarding.dealings {met : List Event} {news : Trace} (h : Guarding met news) :
    dealings news = met := by
  obtain ⟨during, blocked, before, rfl, hblocked, hbefore, rfl, -⟩ := h
  have hcall : Trace.dealings [blocked] = [] :=
    dealings_of_not_isDealing (by rw [hblocked]; rfl)
  rw [dealings_append, ← List.singleton_append, dealings_append, hbefore, hcall]
  rfl

end Trace

/-- What happened since `m₀` is as `p` says, and whatever was added to the wait queue is still
there. -/
def Since (m₀ : Machine) (p : Trace → Prop) (m : Machine) : Prop :=
  ∃ news, m.history = news ++ m₀.history ∧ p news ∧
    m.state.kernel.waitQueue = m₀.state.kernel.waitQueue ++ Trace.posted news

theorem Since.refl {p : Trace → Prop} (m : Machine) (h : p []) : Since m p m :=
  ⟨[], rfl, h, (List.append_nil _).symm⟩

/-- A run may be followed by more of it. -/
theorem Since.add {m₀ m m' : Machine} {p p' : Trace → Prop} (h : Since m₀ p m) (added : Trace)
    (hhistory : m'.history = added ++ m.history)
    (hqueue : m'.state.kernel.waitQueue = m.state.kernel.waitQueue ++ Trace.posted added)
    (hp : ∀ news, p news → p' (added ++ news)) : Since m₀ p' m' := by
  obtain ⟨news, heq, hnews, hposted⟩ := h
  refine ⟨added ++ news, ?_, hp news hnews, ?_⟩
  · rw [hhistory, heq, List.append_assoc]
  · rw [hqueue, hposted, Trace.posted_append, List.append_assoc]

/-! ### One launch -/

/-- What becomes of a launch from `m₀`, by its outcome. -/
inductive Launched (m₀ : Machine) (command : Command) : Outcome Job → Machine → Prop
  /-- It fails before there is a child, and has had no dealings at all. -/
  | unforked {m} (error : Error) (hjobs : m.state.jobs = m₀.state.jobs)
    (hsince : Since m₀ (fun news ↦ Trace.dealings news = []) m) :
    Launched m₀ command (.failed error) m
  /-- The child has got a job, as the command asks for, in a slot that was free. -/
  | registered {m} (job : Job) (i : Nat)
    (hstate : job.state = if command.background then .background else .foreground)
    (hcommandLine : job.commandLine = command.input)
    (hadd : m₀.state.jobs.add job.pid job.state job.commandLine = .ok (job, m.state.jobs))
    (hrewrites : m₀.state.jobs.Rewrites m.state.jobs i none (some job))
    (hsince : Since m₀ (Trace.Guarded [.call ⟨.fork, .number job.pid⟩, .jobs (.added job)]) m) :
    Launched m₀ command (.done job) m
  /-- The table is full, and the child was sent the signal that kills it. -/
  | killed {m} (pid : Pid) (answer : Answer) (hfull : maxJobs ≤ m₀.state.jobs.size)
    (hjobs : m.state.jobs = m₀.state.jobs)
    (hsince : Since m₀ (Trace.Guarded [.call ⟨.fork, .number pid⟩,
      .call ⟨.send (-pid) .kill, answer⟩]) m) :
    Launched m₀ command (.failed (.of .tooManyJobs)) m
  /-- The quit key ended the shell while it forked. -/
  | quit {m} (pid : Pid) (status : Nat) (hjobs : m.state.jobs = m₀.state.jobs)
    (hsince : Since m₀ (fun news ↦ ∃ after during, news = after ++ during ∧
      after.map Moment.event = [.call ⟨.leave 1, .never⟩, .out (Kernel.quitNotice ++ "\n"),
        .happened (.raised .quit)] ∧ Trace.Guarding [.call ⟨.fork, .number pid⟩] during) m) :
    Launched m₀ command (.exited status) m

namespace Launched

variable {m₀ m m' : Machine} {command : Command} {result : Except Error Job}

/-- What happens after a launch has a result does not touch what became of it, as long as it has no
more dealings with children. -/
theorem extend (h : Launched m₀ command (.ofResult result) m) (added : Trace)
    (hhistory : m'.history = added ++ m.history) (hjobs : m'.state.jobs = m.state.jobs)
    (hqueue : m'.state.kernel.waitQueue = m.state.kernel.waitQueue ++ Trace.posted added)
    (hadded : Trace.dealings added = []) : Launched m₀ command (.ofResult result) m' := by
  have hguarded : ∀ met news, Trace.Guarded met news → Trace.Guarded met (added ++ news) := by
    rintro met _ ⟨after, during, rfl, hafter, hguarding⟩
    refine ⟨added ++ after, during, (List.append_assoc ..).symm, ?_, hguarding⟩
    rw [Trace.dealings_append, hafter, hadded]
    rfl
  generalize houtcome : Outcome.ofResult result = outcome at h ⊢
  cases h with
  | unforked error hsame hsince =>
    refine .unforked error (hjobs.trans hsame) (hsince.add added hhistory hqueue ?_)
    intro news hnews
    rw [Trace.dealings_append, hnews, hadded]
    rfl
  | registered job i hstate hcommandLine hadd hrewrites hsince =>
    rw [← hjobs] at hadd hrewrites
    exact .registered job i hstate hcommandLine hadd hrewrites
      (hsince.add added hhistory hqueue (hguarded _))
  | killed pid answer hfull hsame hsince =>
    exact .killed pid answer hfull (hjobs.trans hsame)
      (hsince.add added hhistory hqueue (hguarded _))
  | quit => cases result <;> cases houtcome

/-- An event that is neither a dealing with children nor adds to the wait queue. -/
theorem record (h : Launched m₀ command (.ofResult result) m) {event : Event}
    (hdealing : event.isDealing = false) (hposted : event.posted? = none) :
    Launched m₀ command (.ofResult result) (m.recording event) := by
  refine h.extend [⟨event, m.state⟩] rfl rfl ?_ (Trace.dealings_of_not_isDealing hdealing)
  rw [Trace.posted_of_posted? hposted]
  exact (List.append_nil _).symm

theorem steady : Steady (Launched m₀ command (.ofResult result)) where
  script _ _ _ hm := hm.extend [] rfl rfl (List.append_nil _).symm rfl
  quiet _ _ hquiet hm :=
    hm.record (Event.isDealing_of_isQuiet hquiet) (Event.posted?_of_isQuiet hquiet)

/-- A change of the mask delivers signals, and that is all. -/
theorem remask (h : Launched m₀ command (.ofResult result) m) (how : MaskChange)
    (signals : SignalSet) : Launched m₀ command (.ofResult result) (m.remasking how signals) := by
  obtain ⟨pending, noted, heq, -⟩ := m.exists_remasking how signals
  refine h.extend [_] rfl ?_ ?_ rfl
  · rw [heq]
    rfl
  · rw [heq]
    exact (List.append_nil _).symm

end Launched

/-- A launch from `m₀` has not begun: nothing has happened yet but quiet events. -/
structure Unlaunched (m₀ m : Machine) : Prop where
  plays : m.playsChildren = false
  state : m.state = m₀.state
  since : Since m₀ (fun news ↦ Trace.dealings news = []) m

namespace Unlaunched

variable {m₀ m : Machine}

/-- An event that comes with no change of the state and is no dealing with children. -/
theorem record (h : Unlaunched m₀ m) {event : Event} (hdealing : event.isDealing = false)
    (hposted : event.posted? = none) : Unlaunched m₀ (m.recording event) where
  plays := h.plays
  state := h.state
  since := by
    refine h.since.add [⟨event, m.state⟩] rfl ?_ fun news hnews ↦ ?_
    · rw [Trace.posted_of_posted? hposted]
      exact (List.append_nil _).symm
    · rw [Trace.dealings_append, hnews, Trace.dealings_of_not_isDealing hdealing]
      rfl

theorem steady : Steady (Unlaunched m₀) where
  script _ _ _ hm := ⟨hm.plays, hm.state, hm.since⟩
  quiet _ _ hquiet hm :=
    hm.record (Event.isDealing_of_isQuiet hquiet) (Event.posted?_of_isQuiet hquiet)

theorem unforked (h : Unlaunched m₀ m) {command : Command} (error : Error) :
    Launched m₀ command (.failed error) m := .unforked error (by rw [h.state]) h.since

end Unlaunched

/-- A launch from `m₀` is under way, with the signal for children blocked, and has had these
dealings with children. -/
structure Launching (m₀ : Machine) (met : List Event) (m : Machine) : Prop where
  plays : m.playsChildren = false
  sound : m.state.Sound
  jobs : m.state.jobs = m₀.state.jobs
  positive : 1 ≤ m.state.kernel.nextPid
  masked : m.state.kernel.mask.childStatus = true
  since : Since m₀ (Trace.Guarding met) m

namespace Launching

variable {m₀ m m' : Machine} {met : List Event} {pid : Pid}

/-- One more moment of a launch, in which the mask stays as it is. -/
theorem add (h : Launching m₀ met m) (moment : Moment) (hhistory : m'.history = moment :: m.history)
    (hplays : m'.playsChildren = m.playsChildren) (hsound : m'.state.Sound)
    (hjobs : m'.state.jobs = m.state.jobs)
    (hnext : m.state.kernel.nextPid ≤ m'.state.kernel.nextPid)
    (hmask : m'.state.kernel.mask = m.state.kernel.mask)
    (hthen : moment.state.kernel.mask = m.state.kernel.mask)
    (hqueue : m'.state.kernel.waitQueue = m.state.kernel.waitQueue ++ Trace.posted [moment]) :
    Launching m₀ (met ++ Trace.dealings [moment]) m' where
  plays := hplays.trans h.plays
  sound := hsound
  jobs := hjobs.trans h.jobs
  positive := Int.le_trans h.positive hnext
  masked := by
    rw [hmask]
    exact h.masked
  since := by
    refine h.since.add [moment] hhistory hqueue fun news hnews ↦ hnews.append fun other hmem ↦ ?_
    rw [List.mem_singleton.1 hmem, hthen]
    exact h.masked

theorem undisturbed : Undisturbed (Launching m₀ met) where
  script _ _ _ hm :=
    ⟨hm.plays, hm.sound, hm.jobs, hm.positive, hm.masked, hm.since⟩
  quiet m event hquiet hm := by
    have hadd : Launching m₀ (met ++ Trace.dealings [⟨event, m.state⟩]) (m.recording event) := by
      refine hm.add _ rfl rfl hm.sound rfl (Int.le_refl _) rfl rfl ?_
      rw [Trace.posted_of_posted? (Event.posted?_of_isQuiet hquiet)]
      exact (List.append_nil _).symm
    rwa [Trace.dealings_of_not_isDealing (Event.isDealing_of_isQuiet hquiet),
      List.append_nil] at hadd
  after m what hm := by
    obtain ⟨pending, noted, heq, -⟩ := (m.state.undergoing what).exists_raising what.signal
    have hstate : (m.after what).state = (m.state.undergoing what).signalled pending noted := heq
    have hadd : Launching m₀
        (met ++ Trace.dealings [⟨.happened what, m.state.undergoing what⟩]) (m.after what) := by
      refine hm.add _ rfl rfl ((hm.sound.undergoing what).raising what.signal) ?_ ?_ ?_ ?_ ?_
      · rw [hstate]
        cases what <;> rfl
      · rw [hstate]
        cases what <;> exact Int.le_refl _
      · rw [hstate]
        cases what <;> rfl
      · cases what <;> rfl
      · rw [hstate]
        cases what with
        | raised => exact (List.append_nil _).symm
        | _ => rfl
    rwa [Trace.dealings_of_not_isDealing rfl, List.append_nil] at hadd
  sleep _ _ _ hm := ⟨hm.plays, hm.sound, hm.jobs, hm.positive, hm.masked, hm.since⟩

/-- Blocking the signal for children puts a launch under guard. -/
theorem block (h : Unlaunched m₀ m) (hsound : m₀.state.Sound)
    (hpositive : 1 ≤ m₀.state.kernel.nextPid) :
    Launching m₀ [] (m.remasking .block .children) := by
  obtain ⟨pending, noted, heq, -⟩ := m.exists_remasking .block .children
  have hmasked : (m.state.kernel.mask.union .children).childStatus = true := Bool.or_true _
  rw [← h.state] at hsound hpositive
  refine ⟨h.plays, hsound.remasking ?_, ?_, ?_, ?_, ?_⟩
  · show (m.state.kernel.mask.union .children).contains .quit = false
    rw [SignalSet.contains_union, hsound.heeds]
    rfl
  · rw [heq, ← h.state]
    rfl
  · rw [heq]
    exact hpositive
  · rw [heq]
    exact hmasked
  · refine h.since.add [⟨.call ⟨.changeMask .block .children, .number 0⟩,
      m.state.masked .block .children⟩] rfl ?_ fun news hnews ↦ ?_
    · rw [heq]
      exact (List.append_nil _).symm
    · refine ⟨[], _, news, rfl, rfl, hnews, rfl, fun moment hmem ↦ ?_⟩
      rw [List.mem_singleton.1 hmem]
      exact hmasked

/-- A fork is the first dealing of a launch. -/
theorem spawn (h : Launching m₀ [] m) :
    Launching m₀ [.call ⟨.fork, .number m.state.kernel.nextPid⟩] m.spawning :=
  h.add ⟨.call ⟨.fork, .number m.state.kernel.nextPid⟩, m.spawning.state⟩ rfl rfl h.sound.spawn rfl
    (Int.le_add_of_nonneg_right (by decide)) rfl rfl (List.append_nil _).symm

/-! #### What becomes of it -/

variable {command : Command}

theorem unforked (h : Launching m₀ [] m) (error : Error) {event : Event}
    (hdealing : event.isDealing = false) (hposted : event.posted? = none) :
    Launched m₀ command (.failed error) (m.recording event) := by
  refine .unforked error h.jobs (h.since.add [⟨event, m.state⟩] rfl ?_ fun news hnews ↦ ?_)
  · rw [Trace.posted_of_posted? hposted]
    exact (List.append_nil _).symm
  · rw [Trace.dealings_append, hnews.dealings, Trace.dealings_of_not_isDealing hdealing]
    rfl

/-- A last dealing, which settles what becomes of the child. -/
theorem guarded (h : Launching m₀ met m) {s : State} {event : Event}
    (hdealing : event.isDealing = true) (hposted : event.posted? = none)
    (hmask : s.kernel.mask = m.state.kernel.mask)
    (hqueue : s.kernel.waitQueue = m.state.kernel.waitQueue) :
    Since m₀ (Trace.Guarded (met ++ [event])) ((m.withState s).recording event) := by
  refine h.since.add [⟨event, s⟩] rfl ?_ fun news hnews ↦ ?_
  · rw [Trace.posted_of_posted? hposted, List.append_nil]
    exact hqueue
  · refine ⟨[], _, rfl, rfl, ?_⟩
    have hmet : Trace.dealings [⟨event, s⟩] = [event] := by
      simp [Trace.dealings, Trace.events, hdealing]
    rw [← hmet]
    refine hnews.append fun moment hmem ↦ ?_
    rw [List.mem_singleton.1 hmem, hmask]
    exact h.masked

/-- A child whose number the table takes is in the slot that the table found for it. -/
theorem registered (h : Launching m₀ [.call ⟨.fork, .number pid⟩] m) {job : Job} {table : JobTable}
    (hadd : m.state.jobs.add pid (Shell.initialState command) command.input = .ok (job, table)) :
    Launched m₀ command (.done job) (m.changingJobs (.added job) table) := by
  rw [h.jobs] at hadd
  obtain ⟨-, rfl, -⟩ := JobTable.exists_of_add hadd
  obtain ⟨i, hrewrites, -⟩ := JobTable.rewrites_of_add hadd
  exact .registered _ i rfl rfl hadd hrewrites (h.guarded rfl rfl rfl rfl)

/-- A process with a proper id is refused only because the table is full. -/
theorem killed (h : Launching m₀ [.call ⟨.fork, .number pid⟩] m) (hpid : 1 ≤ pid) {error : Error}
    (failure : Option Errno)
    (hadd : m.state.jobs.add pid (Shell.initialState command) command.input = .error error) :
    Launched m₀ command (.failed error)
      (m.recording (.call ⟨.send (-pid) .kill, .ofFailure failure⟩)) := by
  rw [h.jobs] at hadd
  rcases JobTable.add_eq_error_iff.1 hadd with ⟨hneg, -⟩ | ⟨-, hfull, rfl⟩
  · exact absurd hpid (Int.not_le.2 hneg)
  · exact .killed pid _ hfull h.jobs (h.guarded rfl rfl rfl rfl)

/-- A process that the quit key ends has met the fork and nothing after it. -/
theorem quit (h : Launching m₀ [.call ⟨.fork, .number pid⟩] m) (status : Nat) :
    Launched m₀ command (.exited status) m.quitting := by
  obtain ⟨pending, noted, heq, -⟩ := m.state.exists_raising .quit
  have hstate : m.quitting.state = m.state.signalled pending noted := heq
  refine .quit pid status ?_ (h.since.add [_, _, _] rfl ?_ fun news hnews ↦ ?_)
  · rw [hstate]
    exact h.jobs
  · rw [hstate]
    exact (List.append_nil _).symm
  · exact ⟨_, news, rfl, rfl, hnews⟩

end Launching

/-- A launch from a sound state ends in one of the ways that `Launched` lists. -/
theorem triple_launched {m₀ : Machine} (hsound : m₀.state.Sound)
    (hpositive : 1 ≤ m₀.state.kernel.nextPid) {command : Command}
    (hprogram : command.program? ≠ none) :
    Triple (Unlaunched m₀) (Shell.launch command)
      { done := fun job ↦ Launched m₀ command (.done job)
        failed := fun error ↦ Launched m₀ command (.failed error)
        exited := fun m ↦ ∀ status, Launched m₀ command (.exited status) m } := by
  refine Shell.triple_launch (fun _ ↦ Launching m₀ [])
    (fun _ pid m ↦ 1 ≤ pid ∧ Launching m₀ [.call ⟨.fork, .number pid⟩] m)
    (fun _ result m ↦ m.state.kernel.pending.contains .quit = false ∧
      Launched m₀ command (.ofResult result) m) hprogram Unlaunched.steady
    (fun _ ↦ Launching.undisturbed.toSteady) (fun _ _ ↦ Launching.undisturbed.given)
    (fun _ _ ↦ (steady_state fun s ↦ s.kernel.pending.contains .quit = false).and Launched.steady)
    (fun _ _ _ hm ↦ hm.2.plays) ?_ ?_ ?_ ?_ ?_ ?_ ?_ ?_ ?_ ?_ ?_
  · exact fun m hm ↦ hm.unforked _
  · intro m hm
    rw [hm.state]
    exact hsound.quit
  · exact fun m errno hm ↦ (hm.record rfl rfl).unforked _
  · exact fun m hm ↦ Launching.block hm hsound hpositive
  · exact fun _ m errno hm ↦ ⟨hm.sound.quit, hm.unforked _ rfl rfl⟩
  · exact fun _ m hm ↦ ⟨hm.positive, hm.spawn⟩
  · exact fun _ pid m hm ↦ hm.2.quit
  -- A proper process id is not the 0 that a child is told.
  · exact fun _ _ m hm ↦ absurd hm.1 (by decide)
  · exact fun _ pid m job table hm _ hadd ↦ ⟨hm.2.sound.quit, hm.2.registered hadd⟩
  · exact fun _ pid m error failure hm _ hadd ↦ ⟨hm.2.sound.quit, hm.2.killed hm.1 failure hadd⟩
  · intro previous result
    have hrestore : Triple (fun m ↦ m.state.kernel.pending.contains .quit = false ∧
        Launched m₀ command (.ofResult result) m) (Shell.restoreMask previous)
        { done := fun _ ↦ Launched m₀ command (.ofResult result) } :=
      Shell.triple_restoreMask
        ((steady_state fun s ↦ s.kernel.pending.contains .quit = false).and Launched.steady)
        Launched.steady (fun m hm ↦ hm.1) (fun m errno hm ↦ hm.2.record rfl rfl)
        fun m hm ↦ hm.2.remask .replace previous
    refine hrestore.of_done fun _ m hm ↦ ?_
    cases result with
    | ok job => exact hm
    | error error => exact hm

/-- Every launch of a sound shell whose process ids are proper ones comes to one of its ends. -/
theorem launched_of_sound {m₀ : Machine} (hplays : m₀.playsChildren = false)
    (hsound : m₀.state.Sound) (hpositive : 1 ≤ m₀.state.kernel.nextPid) (command : Command) :
    Launched m₀ command (Shell.launch command m₀).1 (Shell.launch command m₀).2 := by
  have hready : Unlaunched m₀ m₀ := ⟨hplays, rfl, .refl m₀ rfl⟩
  cases hprogram : command.program? with
  | none =>
    have hfail : ∃ error, Shell.launch command m₀ = (.failed error, m₀) := by
      unfold Shell.launch
      rw [hprogram]
      split
      · exact ⟨_, rfl⟩
      · exact ⟨_, rfl⟩
    obtain ⟨error, heq⟩ := hfail
    rw [heq]
    exact hready.unforked error
  | some program =>
    have hnone : command.program? ≠ none := by
      rw [hprogram]
      exact Option.some_ne_none program
    have hpost := triple_launched hsound hpositive hnone m₀ hready
    generalize Shell.launch command m₀ = result at hpost ⊢
    obtain ⟨job | error | status | _, m⟩ := result
    · exact hpost
    · exact hpost
    · exact hpost status
    · exact hpost.elim

/-! ### All forks of a session -/

/-- The moment settles what becomes of the new process `pid`: it has got a job or is killed. -/
def Moment.Settles (pid : Pid) (moment : Moment) : Prop :=
  match moment.event with
  | .jobs (.added job) => job.pid = pid ∧ job ∈ moment.state.jobs.jobs
  | .call ⟨.send target .kill, _⟩ => target = -pid
  | _ => False

/-- Each process that was forked was settled before anything else was done about children, with the
signal for children held back until then. The process may be one that is still to be settled. -/
inductive Trace.Attended : Option Pid → Trace → Prop
  | nil : Attended none []
  /-- Something that forks no process, and nothing about children while one is to be settled. -/
  | aside {fresh? trace} (moment : Moment) (h : Attended fresh? trace)
    (hfork : ∀ pid, moment.event ≠ .call ⟨.fork, .number pid⟩)
    (hmeanwhile : fresh? ≠ none →
      moment.event.isDealing = false ∧ moment.state.kernel.mask.childStatus = true) :
    Attended fresh? (moment :: trace)
  | fork {trace} {moment : Moment} {pid : Pid} (h : Attended none trace)
    (hevent : moment.event = .call ⟨.fork, .number pid⟩)
    (hmask : moment.state.kernel.mask.childStatus = true) : Attended (some pid) (moment :: trace)
  | settle {trace} {moment : Moment} {pid : Pid} (h : Attended (some pid) trace)
    (hsettles : moment.Settles pid) (hmask : moment.state.kernel.mask.childStatus = true) :
    Attended none (moment :: trace)

/-- The moments from a fork on, with nothing else done about children and the signal for children
held back. -/
def Trace.Meanwhile (during : Trace) (fork : Moment) : Prop :=
  Trace.dealings during = [] ∧
    ∀ moment ∈ during ++ [fork], moment.state.kernel.mask.childStatus = true

/-- A moment with the signal blocked that deals with no child keeps the launch going. -/
theorem Trace.Meanwhile.cons {during : Trace} {moment fork : Moment}
    (h : Trace.Meanwhile during fork) (hdealing : moment.event.isDealing = false)
    (hmask : moment.state.kernel.mask.childStatus = true) :
    Trace.Meanwhile (moment :: during) fork := by
  refine ⟨?_, fun other hmem ↦ ?_⟩
  · rw [← List.singleton_append, Trace.dealings_append, h.1,
      Trace.dealings_of_not_isDealing hdealing]
    rfl
  · rcases List.mem_cons.1 hmem with rfl | hmem
    · exact hmask
    · exact h.2 other hmem

/-- A child of an attended trace is the one at hand or was settled with the signal blocked. -/
theorem Trace.Attended.exists_settled {fresh? : Option Pid} {trace later earlier : Trace}
    {fork : Moment} {pid : Pid} (h : Attended fresh? trace)
    (hsplit : trace = later ++ fork :: earlier)
    (hevent : fork.event = .call ⟨.fork, .number pid⟩) :
    fresh? = some pid ∧ Trace.Meanwhile later fork ∨
      ∃ after moment during, later = after ++ moment :: during ∧ moment.Settles pid ∧
        moment.state.kernel.mask.childStatus = true ∧ Trace.Meanwhile during fork := by
  induction h generalizing later with
  | nil => exact absurd hsplit (by simp)
  | @aside fresh? trace moment _ hfork hmeanwhile ih =>
    cases later with
    | nil =>
      obtain ⟨rfl, -⟩ := List.cons.inj hsplit
      exact absurd hevent (hfork pid)
    | cons first later =>
      obtain ⟨rfl, hrest⟩ := List.cons.inj hsplit
      rcases ih hrest with ⟨rfl, hsince⟩ | ⟨after, settled, during, rfl, hsettled⟩
      · obtain ⟨hdealing, hmask⟩ := hmeanwhile (Option.some_ne_none pid)
        exact Or.inl ⟨rfl, hsince.cons hdealing hmask⟩
      · exact Or.inr ⟨moment :: after, settled, during, rfl, hsettled⟩
  | @fork trace moment newPid _ hnew hmask ih =>
    cases later with
    | nil =>
      obtain ⟨rfl, -⟩ := List.cons.inj hsplit
      rw [hnew] at hevent
      cases hevent
      refine Or.inl ⟨rfl, rfl, fun other hmem ↦ ?_⟩
      rw [List.mem_singleton.1 hmem]
      exact hmask
    | cons first later =>
      obtain ⟨rfl, hrest⟩ := List.cons.inj hsplit
      rcases ih hrest with ⟨hnone, -⟩ | ⟨after, settled, during, rfl, hsettled⟩
      · cases hnone
      · exact Or.inr ⟨moment :: after, settled, during, rfl, hsettled⟩
  | @settle trace moment newPid _ hsettles hmask ih =>
    cases later with
    | nil =>
      obtain ⟨rfl, -⟩ := List.cons.inj hsplit
      rw [Moment.Settles, hevent] at hsettles
      exact hsettles.elim
    | cons first later =>
      obtain ⟨rfl, hrest⟩ := List.cons.inj hsplit
      rcases ih hrest with ⟨hsome, hsince⟩ | ⟨after, settled, during, rfl, hsettled⟩
      · cases hsome
        exact Or.inr ⟨[], moment, later, rfl, hsettles, hmask, hsince⟩
      · exact Or.inr ⟨moment :: after, settled, during, rfl, hsettled⟩

/-- The signal for children is blocked for a launch. -/
def Phase.Launches : Phase → Prop
  | launching _ | forked _ _ => True
  | _ => False

/-- In a phase, each process that was forked is settled or is the one that the phase is about. -/
structure Attentive (p : Phase) (m : Machine) : Prop where
  /-- The forks so far. -/
  attended : Trace.Attended p.fresh? m.history
  /-- The signal for children is held back during a launch. -/
  masked : p.Launches → m.state.kernel.mask.childStatus = true

namespace Attentive

variable {p p' : Phase} {m m' : Machine}

/-- Turning to another phase drops no child at hand. -/
theorem turn (h : Attentive p m) (hproper : ∀ pid, p.fresh? = some pid → pid ≠ 0)
    (hturn : Turn p m.state p') : Attentive p' m := by
  cases hturn with
  | child previous => exact absurd rfl (hproper 0 rfl)
  | unreadable site => cases site <;> exact ⟨h.attended, nofun⟩
  | _ => exact ⟨h.attended, nofun⟩

/-- A remark about the child at hand is its kill, which settles it; all others pass it over. -/
theorem record {event : Event} (h : Attentive p m) (hremark : Remark p m.state event p') :
    Attentive p' (m.recording event) := by
  cases hremark with
  | quiet hquiet =>
    have hdealing := Event.isDealing_of_isQuiet hquiet
    refine ⟨h.attended.aside _ ?_ fun hfresh ↦ ⟨hdealing, h.masked ?_⟩, h.masked⟩
    · rintro pid (rfl : event = _)
      cases hdealing
    · cases p with
      | forked => trivial
      | _ => exact absurd rfl hfresh
  | kill previous failure =>
    exact ⟨h.attended.settle rfl (h.masked trivial), nofun⟩
  | drained site => cases site <;> exact ⟨h.attended.aside _ nofun nofun, nofun⟩
  | _ => exact ⟨h.attended.aside _ nofun nofun, nofun⟩

/-- A job added to the table settles the child at hand. -/
theorem changeJobs {change : JobChange} {table : JobTable} (h : Attentive p m)
    (hrewrite : Rewrite p m.state change table p') :
    Attentive p' (m.changingJobs change table) := by
  cases hrewrite with
  | add previous hne hadd =>
    have hmem := (JobTable.mem_jobs_add_iff hadd).2 (Or.inl rfl)
    obtain ⟨-, rfl, -⟩ := JobTable.exists_of_add hadd
    exact ⟨h.attended.settle ⟨rfl, hmem⟩ (h.masked trivial), nofun⟩
  | learned site => cases site <;> exact ⟨h.attended.aside _ nofun nofun, nofun⟩
  | _ => exact ⟨h.attended.aside _ nofun nofun, nofun⟩

/-- Every move forks a process only when none is to be settled, and settles one before it does
anything else about children. -/
theorem move (h : Attentive p m) (hproper : ∀ pid, p.fresh? = some pid → pid ≠ 0)
    (hmove : Move p m p' m') : Attentive p' m' := by
  cases hmove with
  | same hstate hhistory =>
    refine ⟨?_, ?_⟩
    · rw [hhistory]
      exact h.attended
    · rw [hstate]
      exact h.masked
  | turn hturn => exact h.turn hproper hturn
  | record hremark => exact h.record hremark
  | happen what hopen =>
    obtain ⟨pending, noted, heq, -⟩ := (m.state.undergoing what).exists_raising what.signal
    have hmask : (m.state.undergoing what).kernel.mask = m.state.kernel.mask := by
      cases what <;> rfl
    refine ⟨h.attended.aside ⟨.happened what, m.state.undergoing what⟩ nofun
      fun hfresh ↦ ⟨rfl, ?_⟩, fun hlaunches ↦ ?_⟩
    · show (m.state.undergoing what).kernel.mask.childStatus = true
      rw [hmask]
      refine h.masked ?_
      cases p with
      | forked => trivial
      | _ => exact absurd rfl hfresh
    · show ((m.state.undergoing what).raising what.signal).kernel.mask.childStatus = true
      rw [heq]
      show (m.state.undergoing what).kernel.mask.childStatus = true
      rw [hmask]
      exact h.masked hlaunches
  | takeNoted site =>
    have hattended : Trace.Attended none m.history := by
      cases site <;> exact h.attended
    split <;> exact ⟨hattended, nofun⟩
  | takeEntry site => exact ⟨h.attended.aside _ nofun nofun, nofun⟩
  | changeJobs hrewrite => exact h.changeJobs hrewrite
  | remask hremask =>
    cases hremask with
    | launch mask =>
      obtain ⟨pending, noted, heq, -⟩ := m.exists_remasking .block .children
      refine ⟨h.attended.aside _ nofun nofun, fun _ ↦ ?_⟩
      rw [heq]
      exact Bool.or_true _
    | _ => exact ⟨h.attended.aside _ nofun nofun, nofun⟩
  | spawn previous => exact ⟨h.attended.fork rfl (h.masked trivial), h.masked⟩
  | @sleep _ _ pid =>
    have hsleeps := h.attended.aside ⟨.sleepsFor pid, m.state⟩ nofun nofun
    exact ⟨hsleeps.aside _ nofun nofun, nofun⟩
  | endAll => exact ⟨h.attended, nofun⟩
  | wake => exact ⟨h.attended, nofun⟩

end Attentive

/-- Along every path of a session whose process ids are proper ones, new processes are settled. -/
theorem Path.attentive {session : Session} {p : Phase} {m : Machine}
    (hfirst : 1 ≤ session.firstPid) (h : Path Phase.IsOver session.Begins p m) :
    Attentive p m := by
  induction h with
  | start hbegins =>
    rw [show _ = session.initial from hbegins]
    exact ⟨.nil, nofun⟩
  | move hpath hmove ih =>
    refine ih.move (fun pid hfresh heq ↦ ?_) hmove
    have hforked := ((hpath.sound session.sound_of_begins).fresh pid hfresh).1
    have hle := Int.le_trans hfirst ((session.firstPid_le_of_path hpath).2 pid hforked)
    rw [heq] at hle
    exact absurd hle (by decide)
  | @again p _ _ hover ih =>
    cases p with
    | reached => exact ⟨ih.attended, nofun⟩
    | _ => exact hover.elim

/-! ### The whole account -/

theorem Command.input_of_parse {line : String} {command : Command}
    (h : Command.parse line = .ok command) : command.input = Text.trimLineEnd line := by
  unfold Command.parse at h
  simp only at h
  split at h
  · cases h
  · obtain rfl := Except.ok.inj h
    unfold Command.ofWords
    split <;> rfl

/-- **Every launched child is accounted for.** In a session whose process ids are proper ones, each
launch of a command fails before there is a child, or gives the child the job that the command asks
for, or fails for want of room and kills it, unless the quit key ends the shell meanwhile; from
before the fork until then the signal for children is blocked and no wait is made. A command carries
its line without the line end. And each fork in the history of the session is followed by what
settles the new process, with nothing else done about children in between, unless the shell has
ended before. -/
theorem launched_children_are_accounted_for (session : Session) (hfirst : 1 ≤ session.firstPid) :
    (∀ m command, session.Reaches m →
      Launched m command (Shell.launch command m).1 (Shell.launch command m).2) ∧
    (∀ line command, Command.parse line = .ok command →
      command.input = Text.trimLineEnd line) ∧
    ∀ (later earlier : Trace) (fork : Moment) (pid : Pid),
      session.history = later ++ fork :: earlier → fork.event = .call ⟨.fork, .number pid⟩ →
        session.last.ending.goesOn = false ∧ Trace.Meanwhile later fork ∨
          ∃ after moment during, later = after ++ moment :: during ∧ moment.Settles pid ∧
            moment.state.kernel.mask.childStatus = true ∧ Trace.Meanwhile during fork := by
  refine ⟨fun m command hreaches ↦ ?_, fun _ _ ↦ Command.input_of_parse, ?_⟩
  · have hsound := hreaches.path.sound session.sound_of_begins
    have hnext := (session.firstPid_le_of_path hreaches.path).1
    exact launched_of_sound hsound.plays hsound.state (Int.le_trans hfirst hnext) command
  · intro later earlier fork pid hsplit hevent
    have hleaves := session.leaves_last
    cases hgoes : session.last.ending.goesOn with
    | false =>
      obtain ⟨p, hpath⟩ := hleaves.onPath
      refine ((hpath.attentive hfirst).attended.exists_settled hsplit hevent).imp_left ?_
      exact fun hsince ↦ ⟨rfl, hsince.2⟩
    | true =>
      -- A step that was answered is over, so no process is still to be settled.
      obtain ⟨upshot, hpath⟩ := hleaves.exists_reached hgoes
      have hsettled := (hpath.attentive hfirst).attended.exists_settled hsplit hevent
      exact Or.inr (hsettled.resolve_left fun hsince ↦ Option.some_ne_none pid hsince.1.symm)

/-- A session in which a program ends before its fork returns. -/
def overtaken : Session where
  firstPid := 1
  steps := [⟨.line "true\n", { atFork := [[.child 1 (.exited 0)]] }⟩]

/-- The shell at the beginning of that session's only step. -/
def overtakenStart : Machine :=
  overtaken.start.machine.beginStep { atFork := [[.child 1 (.exited 0)]] }

/-- The program has got its job before the shell learns of its end. -/
theorem accounted_for_of_overtaken : 1 ≤ overtaken.firstPid ∧
    (∃ m m' command, overtaken.Reaches m ∧ Command.parse "true\n" = .ok command ∧
      command.input = "true" ∧ m.state.jobs.jobs = [] ∧
        Launched m command (.done ⟨1, 1, .foreground, "true"⟩) m' ∧
          m'.state.jobs.jobs = [⟨1, 1, .foreground, "true"⟩] ∧
            m'.state.kernel.waitQueue = [.status 1 (.exited 0)]) ∧
    ∃ fork moment during earlier, fork.event = .call ⟨.fork, .number 1⟩ ∧
      moment :: during ++ fork :: earlier <:+ overtaken.history ∧ moment.Settles 1 ∧
        Trace.Meanwhile during fork := by
  obtain ⟨hlaunches, hinput, hforks⟩ :=
    launched_children_are_accounted_for overtaken (by decide)
  refine ⟨by decide, ?_, ?_⟩
  · have hreaches : overtaken.Reaches overtakenStart := .begin _ (.start (by decide +kernel))
    have hparse : Command.parse "true\n" = .ok ⟨"true", ["true"], false⟩ := by decide +kernel
    have hdone : (Shell.launch ⟨"true", ["true"], false⟩ overtakenStart).1 =
        .done ⟨1, 1, .foreground, "true"⟩ := by decide +kernel
    have hlaunched := hlaunches overtakenStart ⟨"true", ["true"], false⟩ hreaches
    rw [hdone] at hlaunched
    refine ⟨overtakenStart, _, _, hreaches, hparse, hinput _ _ hparse, ?_, hlaunched, ?_, ?_⟩
    · decide +kernel
    · decide +kernel
    · decide +kernel
  · have hfork : ∃ moment ∈ overtaken.history, moment.event = .call ⟨.fork, .number 1⟩ := by
      decide +kernel
    obtain ⟨fork, hmem, hevent⟩ := hfork
    obtain ⟨later, earlier, hsplit⟩ := List.append_of_mem hmem
    rcases hforks later earlier fork 1 hsplit hevent with ⟨hgoes, -⟩ |
      ⟨after, moment, during, rfl, hsettles, -, hsince⟩
    · exact absurd hgoes (by decide +kernel)
    · refine ⟨fork, moment, during, earlier, hevent, ⟨after, ?_⟩, hsettles, hsince⟩
      rw [hsplit, List.append_assoc]

end JobShell
