import JobShell.Proofs.Rules.Foreground
import JobShell.Proofs.Rules.Launch

/-!
# Moves and paths

A shell at work is in one of a few phases, and whatever it does next is one of a few moves. A phase
holds what the shell keeps in mind while it is in it: the mask to put back, the process it waits
for, the status it acts on. A path is a sequence of moves from the machine in which some work began.
A property that every move keeps holds all along a path, so each invariant needs to be checked
against the moves once and for no routine at all.
-/

namespace JobShell

/-- Where a drain takes place. -/
inductive Site
  /-- Before a line is run or a prompt printed. -/
  | prompt
  /-- In the wait for process `pid`; `previous` is the mask before the wait. -/
  | wait (previous : SignalSet) (pid : Pid)

/-- What a stretch of work comes to. -/
inductive Upshot
  /-- The work is done. -/
  | settled
  /-- It failed with an error. -/
  | failed (error : Error)
  /-- There is a job in the foreground, which is still to be waited for. -/
  | awaiting (pid : Pid)
  /-- A fork turned the process into a child. -/
  | child

/-- How far a shell has come. -/
inductive Phase
  /-- Nothing is under way. -/
  | ready
  /-- A drain takes entries from the wait queue. -/
  | reaping (site : Site)
  /-- It took `entry`. -/
  | taken (site : Site) (entry : WaitEntry)
  /-- It read a status and has not acted on it. -/
  | learning (site : Site) (status : WaitStatus)
  /-- It is done with the wait queue and passes on keys. -/
  | relaying (site : Site)
  /-- A job was sent the continuation signal and has its old state. -/
  | continued (job : Job)
  /-- The signal for children is blocked for a launch; `previous` is the mask before. -/
  | launching (previous : SignalSet)
  /-- The launch forked, and process `pid` is not in the job table. -/
  | forked (previous : SignalSet) (pid : Pid)
  /-- A wait is about to drain. -/
  | waiting (previous : SignalSet) (pid : Pid)
  /-- A wait has drained. -/
  | drained (previous : SignalSet) (pid : Pid)
  /-- A wait sleeps. -/
  | asleep (previous : SignalSet) (pid : Pid)
  /-- The mask `previous` is to be put back. -/
  | restoring (previous : SignalSet) (upshot : Upshot)
  /-- The work has come to something, and the mask is no longer its concern. -/
  | reached (upshot : Upshot)

namespace Site

/-- The phase in which a drain begins. -/
def before : Site → Phase
  | prompt => .ready
  | wait previous pid => .waiting previous pid

/-- The phase to which a drain leads. -/
def after : Site → Phase
  | prompt => .ready
  | wait previous pid => .drained previous pid

/-- The phase to which a drain leads that fails. -/
def failed (error : Error) : Site → Phase
  | prompt => .reached (.failed error)
  | wait previous _ => .restoring previous (.failed error)

/-- The mask that is to be put back after a drain. -/
def saved? : Site → Option SignalSet
  | prompt => none
  | wait previous _ => some previous

end Site

/-- The mask that a phase is to put back. -/
def Phase.saved? : Phase → Option SignalSet
  | reaping site | taken site _ | learning site _ | relaying site => site.saved?
  | launching previous | forked previous _ | waiting previous _ | drained previous _
  | asleep previous _ | restoring previous _ => some previous
  | ready | continued _ | reached _ => none

/-- The process that was forked in this phase and is not in the job table. -/
def Phase.fresh? : Phase → Option Pid
  | forked _ pid => some pid
  | _ => none

/-- The phases in which things happen outside the shell. -/
def Phase.IsOpen : Phase → Prop
  | ready | forked _ _ | asleep _ _ => True
  | _ => False

/-- What a new job leads to: the shell waits for it if it is in the foreground. -/
def Upshot.ofJob (job : Job) : Upshot :=
  if job.state = .foreground then awaiting job.pid else settled

/-! ### Moves -/

open Shell (sleepMask)

/-- Going on to another phase without an act. -/
inductive Turn : Phase → State → Phase → Prop
  /-- A wait had nothing to tell, and the drain leaves the queue alone. -/
  | stop {s} (site : Site) {entry : WaitEntry}
    (h : entry.read = .error .echild ∨ entry.read = .ok none) :
    Turn (.taken site entry) s (.relaying site)
  /-- A wait failed, and so does the drain. -/
  | unreadable {s} (site : Site) {entry : WaitEntry} {errno : Errno}
    (h : entry.read = .error errno) (hne : errno ≠ .echild) :
    Turn (.taken site entry) s (site.failed (.ofCall .waiting errno))
  /-- A status that is about no job, or about none of its concerns. -/
  | unchanged {s} (site : Site) {status : WaitStatus} (h : s.jobs.learn? status = none) :
    Turn (.learning site status) s (.reaping site)
  /-- There is nothing to do. -/
  | settle {s} : Turn .ready s (.reached .settled)
  /-- What was asked is refused before it had an effect. -/
  | refuse {s} {error : Error} (h : error.recoverable = true) :
    Turn .ready s (.reached (.failed error))
  /-- The shell could not be started. -/
  | unstarted {s} (signal : Handled) (errno : Errno) :
    Turn .ready s (.reached (.failed (.ofCall (.installingHandler signal) errno)))
  /-- An error was reported. -/
  | recover {s} {error : Error} (h : error.recoverable = true) :
    Turn (.reached (.failed error)) s (.reached .settled)
  /-- A continued job is no longer in the table, and the shell waits for it all the same. -/
  | goneForeground {s} {job : Job} (h : s.jobs.setState job.pid .foreground = none) :
    Turn (.continued job) s (.reached (.awaiting job.pid))
  /-- A continued job is no longer in the table. -/
  | goneBackground {s} {job : Job} (h : s.jobs.setState job.pid .background = none) :
    Turn (.continued job) s (.reached (.failed (.of (.noSuchProcess s!"{job.pid}"))))
  /-- The process that is told 0 by a fork is the child. -/
  | child {s} (previous : SignalSet) : Turn (.forked previous 0) s (.restoring previous .child)
  /-- The job that was waited for is not in the foreground any more. -/
  | leave {s} (previous : SignalSet) {pid : Pid} (h : s.jobs.foregroundPid? ≠ some pid) :
    Turn (.drained previous pid) s (.restoring previous .settled)

/-- Recording an event that comes with no change of state. -/
inductive Remark : Phase → State → Event → Phase → Prop
  | quiet {p s} {event : Event} (h : event.isQuiet = true) : Remark p s event p
  /-- The wait queue is found empty. -/
  | waitEmpty {s} (site : Site) (answer : Answer) (h : s.kernel.waitQueue = []) :
    Remark (.reaping site) s (.call ⟨.wait, answer⟩) (.relaying site)
  | learn {s} (site : Site) {entry : WaitEntry} {status : WaitStatus}
    (h : entry.read = .ok (some status)) :
    Remark (.taken site entry) s (.learned status) (.learning site status)
  | relay {s} (site : Site) {pid : Pid} {signal : Signal} (failure : Option Errno)
    (h : s.jobs.foregroundPid? = some pid) (hsignal : signal = .int ∨ signal = .tstp) :
    Remark (.relaying site) s (.call ⟨.send (-pid) signal, .ofFailure failure⟩) (.relaying site)
  | drained {s} (site : Site) : Remark (.relaying site) s .drained site.after
  | resume {s} {spec : JobSpec} {job : Job} (h : s.jobs.resolve spec = .ok job) :
    Remark .ready s (.call ⟨.send (-job.pid) .cont, .number 0⟩) (.continued job)
  | unresumed {s} {spec : JobSpec} {job : Job} (errno : Errno)
    (h : s.jobs.resolve spec = .ok job) :
    Remark .ready s (.call ⟨.send (-job.pid) .cont, .errno errno⟩)
      (.reached (.failed ⟨.misuse (.cannotContinue spec) 1, [.call errno]⟩))
  | unblockedLaunch {s} (errno : Errno) :
    Remark .ready s (.call ⟨.changeMask .block .children, .errno errno⟩)
      (.reached (.failed (.ofCall .maskingSignals errno)))
  | unblockedWait {s} (pid : Pid) (errno : Errno) :
    Remark (.reached (.awaiting pid)) s (.call ⟨.changeMask .block .noted, .errno errno⟩)
      (.reached (.failed (.ofCall .maskingSignals errno)))
  | unforked {s} (previous : SignalSet) (errno : Errno) :
    Remark (.launching previous) s (.call ⟨.fork, .errno errno⟩)
      (.restoring previous (.failed (.ofCall .forking errno)))
  /-- A new process that the table refuses is killed. -/
  | kill {s} (previous : SignalSet) {pid : Pid} {newState : JobState} {commandLine : String}
    {error : Error} (failure : Option Errno) (hne : pid ≠ 0)
    (h : s.jobs.add pid newState commandLine = .error error) :
    Remark (.forked previous pid) s (.call ⟨.send (-pid) .kill, .ofFailure failure⟩)
      (.restoring previous (.failed error))
  /-- The mask stays as it is. -/
  | unrestored {s} (previous : SignalSet) (upshot : Upshot) (errno : Errno) :
    Remark (.restoring previous upshot) s (.call ⟨.changeMask .replace previous, .errno errno⟩)
      (.reached upshot)

/-- Changing the job table. -/
inductive Rewrite : Phase → State → JobChange → JobTable → Phase → Prop
  | learned {s} (site : Site) {status : WaitStatus} {change : JobChange} {table : JobTable}
    (h : s.jobs.learn? status = some (change, table)) :
    Rewrite (.learning site status) s change table (.reaping site)
  | foreground {s} {job changed : Job} {table : JobTable}
    (h : s.jobs.setState job.pid .foreground = some (changed, table)) :
    Rewrite (.continued job) s (.restated changed) table (.reached (.awaiting job.pid))
  | background {s} {job changed : Job} {table : JobTable}
    (h : s.jobs.setState job.pid .background = some (changed, table)) :
    Rewrite (.continued job) s (.restated changed) table (.reached .settled)
  | add {s} (previous : SignalSet) {pid : Pid} {newState : JobState} {commandLine : String}
    {job : Job} {table : JobTable} (hne : pid ≠ 0)
    (h : s.jobs.add pid newState commandLine = .ok (job, table)) :
    Rewrite (.forked previous pid) s (.added job) table (.restoring previous (.ofJob job))

/-- Changing the mask, which is `mask` before. -/
inductive Remask : Phase → SignalSet → MaskChange → SignalSet → Phase → Prop
  | launch (mask : SignalSet) : Remask .ready mask .block .children (.launching mask)
  | wait (mask : SignalSet) (pid : Pid) :
    Remask (.reached (.awaiting pid)) mask .block .noted (.waiting mask pid)
  | restore (mask previous : SignalSet) (upshot : Upshot) :
    Remask (.restoring previous upshot) mask .replace previous (.reached upshot)

/-- One move of a shell. -/
inductive Move : Phase → Machine → Phase → Machine → Prop
  /-- The script goes on, or a step ends and the next one begins. -/
  | same {p m m'} (hstate : m'.state = m.state) (hhistory : m'.history = m.history)
    (hplays : m'.playsChildren = m.playsChildren) : Move p m p m'
  | turn {p m p'} (h : Turn p m.state p') : Move p m p' m
  | record {p m p'} {event : Event} (h : Remark p m.state event p') :
    Move p m p' (m.recording event)
  | happen {p m} (what : Occurrence) (h : p.IsOpen) : Move p m p (m.after what)
  | takeNoted {m} (site : Site) : Move site.before m
    (if m.state.noted.childStatus then .reaping site else .relaying site) m.takingNoted
  | takeEntry {m} (site : Site) {entry : WaitEntry} {rest : List WaitEntry}
    (h : m.state.kernel.waitQueue = entry :: rest) :
    Move (.reaping site) m (.taken site entry) (m.taking entry rest)
  | changeJobs {p m p'} {change : JobChange} {table : JobTable}
    (h : Rewrite p m.state change table p') : Move p m p' (m.changingJobs change table)
  | remask {p m p'} {how : MaskChange} {signals : SignalSet}
    (h : Remask p m.state.kernel.mask how signals p') : Move p m p' (m.remasking how signals)
  | spawn {m} (previous : SignalSet) :
    Move (.launching previous) m (.forked previous m.state.kernel.nextPid) m.spawning
  | sleep {m} (previous : SignalSet) {pid : Pid} (h : m.state.jobs.foregroundPid? = some pid) :
    Move (.drained previous pid) m (.asleep previous pid) ((m.recording (.sleepsFor pid)).recording
      (.call ⟨.suspend (sleepMask previous), .errno .eintr⟩))
  | endAll {m} (previous : SignalSet) (pid : Pid) {pids : List Pid}
    (h : pids = m.state.kernel.forked ∨ pids = m.state.kernel.alive) :
    Move (.asleep previous pid) m (.asleep previous pid) (m.endingAll pids)
  | wake {m} (previous : SignalSet) (pid : Pid) :
    Move (.asleep previous pid) m (.waiting previous pid) (m.delivering (sleepMask previous))

namespace Move

variable {p p' : Phase} {m m' : Machine}

theorem playsChildren (h : Move p m p' m') : m'.playsChildren = m.playsChildren := by
  cases h with
  | same _ _ hplays => exact hplays
  | _ => rfl

/-- A move only adds to the history. It finishes a drain only when the drain has passed on the keys,
and sleeps only for the job in the foreground. -/
theorem exists_news (h : Move p m p' m') : ∃ news, m'.history = news ++ m.history ∧
    ∀ moment ∈ news,
      (moment.event = .drained → (∃ site, p = .relaying site) ∧ news = [⟨.drained, m.state⟩]) ∧
      (∀ mask answer, moment.event = .call ⟨.suspend mask, answer⟩ →
        ∃ previous pid, p = .drained previous pid ∧ mask = sleepMask previous ∧
          m.state.jobs.foregroundPid? = some pid ∧
          news = [⟨.call ⟨.suspend mask, answer⟩, m.state⟩, ⟨.sleepsFor pid, m.state⟩]) := by
  cases h with
  | same _ hhistory => exact ⟨[], hhistory, by simp⟩
  | turn => exact ⟨[], rfl, by simp⟩
  | @record _ _ _ event h =>
    refine ⟨[_], rfl, fun moment hmem ↦ ?_⟩
    obtain rfl := List.mem_singleton.1 hmem
    cases h with
    | quiet h =>
      refine ⟨fun hevent ↦ ?_, fun mask answer hevent ↦ ?_⟩
      · obtain rfl : event = .drained := hevent
        exact absurd h (by decide)
      · obtain rfl : event = .call ⟨.suspend mask, answer⟩ := hevent
        exact absurd h Bool.false_ne_true
    | drained site => exact ⟨fun _ ↦ ⟨⟨site, rfl⟩, rfl⟩, by simp⟩
    | _ => simp
  | happen what => exact ⟨[_], rfl, by simp⟩
  | takeNoted => exact ⟨[], rfl, by simp⟩
  | takeEntry => exact ⟨[_], rfl, by simp⟩
  | changeJobs => exact ⟨[_], rfl, by simp⟩
  | remask => exact ⟨[_], rfl, by simp⟩
  | spawn => exact ⟨[_], rfl, by simp⟩
  | sleep previous h =>
    refine ⟨[_, _], rfl, fun moment hmem ↦ ⟨?_, ?_⟩⟩
    · rintro hevent
      simp only [List.mem_cons, List.not_mem_nil, or_false] at hmem
      rcases hmem with rfl | rfl <;> cases hevent
    · rintro mask answer hevent
      simp only [List.mem_cons, List.not_mem_nil, or_false] at hmem
      rcases hmem with rfl | rfl
      · cases hevent
        exact ⟨previous, _, rfl, rfl, h, rfl⟩
      · cases hevent
  | endAll => exact ⟨[], rfl, by simp⟩
  | wake => exact ⟨[], rfl, by simp⟩

theorem subset_history (h : Move p m p' m') : m.history ⊆ m'.history := by
  obtain ⟨news, heq, -⟩ := h.exists_news
  rw [heq]
  exact List.subset_append_right news m.history

/-- Only a rewrite changes the job table, and only then a change of the table is recorded. -/
theorem jobs_cases (h : Move p m p' m') :
    (m'.state.jobs = m.state.jobs ∧ ∃ news, m'.history = news ++ m.history ∧
        ∀ moment ∈ news, moment.state.jobs = m.state.jobs ∧
          ∀ change, moment.event ≠ .jobs change) ∨
      ∃ change table, Rewrite p m.state change table p' ∧ m'.state.jobs = table ∧
        m'.history = ⟨.jobs change, m'.state⟩ :: m.history := by
  cases h with
  | same hstate hhistory => exact Or.inl ⟨by rw [hstate], [], hhistory, by simp⟩
  | turn => exact Or.inl ⟨rfl, [], rfl, by simp⟩
  | @record _ _ _ event h =>
    refine Or.inl ⟨rfl, [⟨event, m.state⟩], rfl, fun moment hmem ↦ ?_⟩
    obtain rfl := List.mem_singleton.1 hmem
    refine ⟨rfl, ?_⟩
    rintro change hevent
    cases h with
    | quiet h =>
      obtain rfl : event = .jobs change := hevent
      exact absurd h Bool.false_ne_true
    | _ => cases hevent
  | happen what =>
    refine Or.inl ⟨?_, [⟨.happened what, m.state.undergoing what⟩], rfl, by simp⟩
    show ((m.state.undergoing what).raising what.signal).jobs = _
    rw [State.jobs_raising, State.jobs_undergoing]
  | takeNoted => exact Or.inl ⟨rfl, [], rfl, by simp⟩
  | takeEntry => exact Or.inl ⟨rfl, [_], rfl, by simp [Machine.withKernel, State.withKernel]⟩
  | changeJobs h => exact Or.inr ⟨_, _, h, rfl, rfl⟩
  | @remask _ _ _ how signals =>
    refine Or.inl ⟨?_, [_], rfl, by simp [Machine.withKernel, State.withKernel]⟩
    show ((m.state.withKernel _).delivering _).jobs = _
    rw [State.jobs_delivering]
    rfl
  | spawn => exact Or.inl ⟨rfl, [_], rfl, by simp [Machine.withKernel, State.withKernel]⟩
  | sleep => exact Or.inl ⟨rfl, [_, _], rfl, by simp⟩
  | endAll => exact Or.inl ⟨State.jobs_raising _ _, [], rfl, by simp⟩
  | wake => exact Or.inl ⟨State.jobs_delivering _ _, [], rfl, by simp⟩

/-- Only a fork starts a process, under the next id. -/
theorem forked_cases (h : Move p m p' m') :
    (m'.state.kernel.forked = m.state.kernel.forked ∧
        m'.state.kernel.nextPid = m.state.kernel.nextPid) ∨
      (∃ previous, p = .launching previous) ∧ m' = m.spawning := by
  have hraising : ∀ (s : State) signal, (s.raising signal).kernel.forked = s.kernel.forked ∧
      (s.raising signal).kernel.nextPid = s.kernel.nextPid := by
    intro s signal
    obtain ⟨pending, noted, heq, -⟩ := s.exists_raising signal
    rw [heq]
    exact ⟨rfl, rfl⟩
  have hdelivering : ∀ (s : State) mask, (s.delivering mask).kernel.forked = s.kernel.forked ∧
      (s.delivering mask).kernel.nextPid = s.kernel.nextPid := by
    intro s mask
    obtain ⟨pending, noted, heq, -⟩ := s.exists_delivering mask
    rw [heq]
    exact ⟨rfl, rfl⟩
  cases h with
  | same hstate => exact Or.inl (by rw [hstate]; exact ⟨rfl, rfl⟩)
  | happen what =>
    have hsame := hraising (m.state.undergoing what) what.signal
    cases what <;> exact Or.inl hsame
  | remask => exact Or.inl (hdelivering _ _)
  | spawn previous => exact Or.inr ⟨⟨previous, rfl⟩, rfl⟩
  | @endAll _ _ _ pids =>
    obtain ⟨alive, hkernel, -⟩ := Kernel.foldl_post_exited pids m.state.kernel
    obtain ⟨hforked, hnext⟩ := hraising (m.state.ending pids) .childStatus
    rw [show (m.state.ending pids).kernel = _ from hkernel] at hforked hnext
    exact Or.inl ⟨hforked, hnext⟩
  | wake => exact Or.inl (hdelivering _ _)
  | _ => exact Or.inl ⟨rfl, rfl⟩

/-- A move never takes away a process that was forked. -/
theorem forked_subset (h : Move p m p' m') :
    m.state.kernel.forked ⊆ m'.state.kernel.forked := by
  rcases h.forked_cases with ⟨hsame, -⟩ | ⟨-, rfl⟩
  · rw [hsame]
    exact List.Subset.refl _
  · exact List.subset_append_left _ _

/-- No moment shows a process that was not forked by the end of the move. -/
theorem forked_of_mem_history (h : Move p m p' m') {moment : Moment} (hmem : moment ∈ m'.history) :
    moment ∈ m.history ∨ moment.state.kernel.forked ⊆ m'.state.kernel.forked := by
  have hsubset := h.forked_subset
  have hcons : ∀ {first : Moment} {rest : Trace}, moment ∈ first :: rest →
      first.state.kernel.forked ⊆ m'.state.kernel.forked →
        moment ∈ rest ∨ moment.state.kernel.forked ⊆ m'.state.kernel.forked := by
    intro first rest hmem hfirst
    rcases List.mem_cons.1 hmem with rfl | hrest
    · exact Or.inr hfirst
    · exact Or.inl hrest
  cases h with
  | same _ hhistory => exact Or.inl (hhistory ▸ hmem)
  | happen what => cases what <;> exact hcons hmem hsubset
  | spawn => exact hcons hmem (List.Subset.refl _)
  | sleep => exact (hcons hmem hsubset).elim (fun hmem ↦ hcons hmem hsubset) Or.inr
  | turn => exact Or.inl hmem
  | takeNoted => exact Or.inl hmem
  | endAll => exact Or.inl hmem
  | wake => exact Or.inl hmem
  | _ => exact hcons hmem hsubset

/-- Each moment shows the job table as it was before or after the move. -/
theorem jobs_of_mem_history (h : Move p m p' m') {moment : Moment} (hmem : moment ∈ m'.history) :
    moment ∈ m.history ∨ moment.state.jobs = m'.state.jobs := by
  rcases h.jobs_cases with ⟨hsame, news, hhistory, hnews⟩ | ⟨change, table, -, -, hhistory⟩
  · rw [hhistory] at hmem
    refine (List.mem_append.1 hmem).symm.imp_right fun hnew ↦ ?_
    rw [hsame]
    exact (hnews moment hnew).1
  · rw [hhistory] at hmem
    refine (List.mem_cons.1 hmem).symm.imp_right fun hnew ↦ ?_
    rw [hnew]

end Move

/-! ### Paths -/

/-- What a machine can come to by moves from one of `start`. Where `again` permits it, new work is
begun once some work is over. -/
inductive Path (again : Phase → Prop) (start : Machine → Prop) : Phase → Machine → Prop
  | start {m} (h : start m) : Path again start .ready m
  | move {p m p' m'} (h : Path again start p m) (hmove : Move p m p' m') : Path again start p' m'
  | again {p m} (h : Path again start p m) (hagain : again p) : Path again start .ready m

namespace Path

variable {again : Phase → Prop} {start : Machine → Prop} {p : Phase} {m : Machine}

/-- What holds at the start and is kept by every move holds all along a path. What a move does may
be taken to be as `rely` says of every moment. -/
theorem invariant {rely : Moment → Prop} (inv : Phase → Machine → Prop)
    (hstart : ∀ m, start m → inv .ready m)
    (hmove : ∀ p m p' m', Path again start p m → inv p m → Move p m p' m' →
      (∀ moment ∈ m'.history, rely moment) → inv p' m')
    (hagain : ∀ p m, again p → inv p m → inv .ready m) (h : Path again start p m)
    (hrely : ∀ moment ∈ m.history, rely moment) : inv p m := by
  induction h with
  | start h => exact hstart _ h
  | move h hm ih =>
    have hbefore := ih fun moment hmem ↦ hrely moment (hm.subset_history hmem)
    exact hmove _ _ _ _ h hbefore hm hrely
  | again _ ha ih => exact hagain _ _ ha (ih hrely)

/-- A path only adds to the history with which it began. -/
theorem subset_history {history : Trace} (h : Path again start p m)
    (hstart : ∀ m, start m → history ⊆ m.history) : history ⊆ m.history := by
  induction h with
  | start h => exact hstart _ h
  | move _ hm ih => exact List.Subset.trans ih hm.subset_history
  | again _ _ ih => exact ih

/-- A path is one still where new work may begin in more phases. -/
theorem mono {again' : Phase → Prop} (hagain : ∀ p, again p → again' p) (h : Path again start p m) :
    Path again' start p m := by
  induction h with
  | start h => exact .start h
  | move _ hm ih => exact ih.move hm
  | again _ ha ih => exact ih.again (hagain _ ha)

/-- Every moment of a path was added by one of its moves. -/
theorem exists_move_of_history (hstart : ∀ m, start m → m.history = []) (h : Path again start p m)
    {moment : Moment} {later earlier : Trace} (hsplit : m.history = later ++ moment :: earlier) :
    ∃ q n q' n' after before, Path again start q n ∧ Move q n q' n' ∧
      n'.history = (after ++ moment :: before) ++ n.history ∧ earlier = before ++ n.history := by
  induction h generalizing later with
  | start h =>
    rw [hstart _ h] at hsplit
    exact absurd hsplit.symm (by simp)
  | move h hm ih =>
    obtain ⟨news, heq, -⟩ := hm.exists_news
    rw [heq] at hsplit
    -- Either the moment is older than the last move, or this move added it.
    rcases List.append_eq_append_iff.1 hsplit with ⟨middle, hlater, hhistory⟩ |
      ⟨middle, hnews, hearlier⟩
    · exact ih hhistory
    · cases middle with
      | nil => exact @ih [] hearlier.symm
      | cons first before =>
        obtain ⟨rfl, rfl⟩ := List.cons.inj hearlier
        exact ⟨_, _, _, _, later, before, h, hm, by rw [heq, hnews], rfl⟩
  | again _ _ ih => exact ih hsplit

/-- Whatever was forked at a moment of a path was forked by its end. -/
theorem forked_of_mem_history (hstart : ∀ m, start m → m.history = []) (h : Path again start p m) :
    ∀ moment ∈ m.history, moment.state.kernel.forked ⊆ m.state.kernel.forked := by
  induction h with
  | start h =>
    rw [hstart _ h]
    exact fun moment hmem ↦ absurd hmem List.not_mem_nil
  | move _ hm ih =>
    intro moment hmem
    rcases hm.forked_of_mem_history hmem with hold | hnow
    · exact List.Subset.trans (ih moment hold) hm.forked_subset
    · exact hnow
  | again _ _ ih => exact ih

/-- When a drain is finished, a path was passing on the keys. -/
theorem exists_of_drained (hstart : ∀ m, start m → m.history = []) (h : Path again start p m)
    {moment : Moment} {later earlier : Trace} (hsplit : m.history = later ++ moment :: earlier)
    (hevent : moment.event = .drained) :
    ∃ site n, Path again start (.relaying site) n ∧ n.state = moment.state ∧
      n.history = earlier := by
  obtain ⟨q, n, q', n', after, before, hpath, hm, hhistory, rfl⟩ :=
    h.exists_move_of_history hstart hsplit
  obtain ⟨news, heq, hnews⟩ := hm.exists_news
  obtain rfl := List.append_cancel_right (heq.symm.trans hhistory)
  obtain ⟨⟨site, rfl⟩, hsingle⟩ := (hnews moment (by simp)).1 hevent
  obtain ⟨rfl, rfl, rfl⟩ : after = [] ∧ moment = ⟨.drained, n.state⟩ ∧ before = [] := by
    simpa [List.append_eq_cons_iff] using hsingle
  exact ⟨site, n, hpath, rfl, rfl⟩

/-- When the shell goes to sleep, a path had just finished the drain in a wait, and the job waited
for is in the foreground. -/
theorem exists_of_suspend (hstart : ∀ m, start m → m.history = []) (h : Path again start p m)
    {moment : Moment} {later earlier : Trace} (hsplit : m.history = later ++ moment :: earlier)
    {mask : SignalSet} {answer : Answer} (hevent : moment.event = .call ⟨.suspend mask, answer⟩) :
    ∃ previous pid n, Path again start (.drained previous pid) n ∧ n.state = moment.state ∧
      mask = sleepMask previous ∧ n.state.jobs.foregroundPid? = some pid ∧
        earlier = ⟨.sleepsFor pid, n.state⟩ :: n.history := by
  obtain ⟨q, n, q', n', after, before, hpath, hm, hhistory, rfl⟩ :=
    h.exists_move_of_history hstart hsplit
  obtain ⟨news, heq, hnews⟩ := hm.exists_news
  obtain rfl := List.append_cancel_right (heq.symm.trans hhistory)
  obtain ⟨previous, pid, rfl, hmask, hpid, hboth⟩ := (hnews moment (by simp)).2 mask answer hevent
  -- The move adds two moments, and only the later one is a call.
  rcases List.append_eq_cons_iff.1 hboth with ⟨rfl, hcons⟩ | ⟨after, rfl, hcons⟩
  · obtain ⟨rfl, rfl⟩ := List.cons.inj hcons
    exact ⟨previous, pid, n, hpath, rfl, hmask, hpid, rfl⟩
  · have hlast : after = [] ∧ moment = ⟨.sleepsFor pid, n.state⟩ ∧ before = [] := by
      simpa [List.append_eq_cons_iff] using hcons.symm
    rw [hlast.2.1] at hevent
    cases hevent

end Path

end JobShell
