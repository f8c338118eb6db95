import JobShell.Proofs.Reaping

/-!
# Reaping does not depend on the order of the children

The kernel reports children in whatever order it likes, but what happened to one child in the order
in which it happened. A pass over the wait queue learns one status after another. It ends with the
same job table for every order of the queue that the kernel may choose, and prints and is told the
same things, if not in the same order.
-/

namespace JobShell

open Routine

/-! ### What a pass leaves in the trace -/

/-- What the event writes to the standard output, if it is about that. -/
def Event.out? : Event → Option String
  | out text => some text
  | _ => none

/-- The texts written to the standard output, in order. -/
def Trace.printed (trace : Trace) : List String := (events trace).filterMap Event.out?

namespace Trace

theorem calls_append (later earlier : Trace) :
    calls (later ++ earlier) = calls earlier ++ calls later := by
  simp [calls, events, List.filterMap_append]

theorem printed_append (later earlier : Trace) :
    printed (later ++ earlier) = printed earlier ++ printed later := by
  simp [printed, events, List.filterMap_append]

end Trace

/-! ### The entries of the wait queue -/

/-- What happened to a child is read as a status of that child. -/
theorem Change.pid_of_read? {pid : Pid} {change : Change} {status : WaitStatus}
    (h : change.read? pid = some status) : status.pid = pid := by
  cases change with
  | exited code => exact Option.some.inj h ▸ rfl
  | signaled number dumped =>
    obtain ⟨signal, -, rfl⟩ := Option.map_eq_some_iff.1 h
    rfl
  | stopped number =>
    simp only [read?] at h
    split at h
    · exact Option.some.inj h ▸ rfl
    · obtain ⟨signal, -, rfl⟩ := Option.map_eq_some_iff.1 h
      rfl
  | continued => exact Option.some.inj h ▸ rfl

namespace WaitEntry

/-- The process that the entry is about. -/
def pid? : WaitEntry → Option Pid
  | status pid _ => some pid
  | failure _ => none

theorem read_of_some {pid : Pid} {change : Change} {told : WaitStatus} (hpid : pid ≠ 0)
    (h : change.read? pid = some told) : (status pid change).read = .ok (some told) := by
  simp only [read]
  rw [if_neg hpid, h]

theorem read_of_none {pid : Pid} {change : Change} (hpid : pid ≠ 0)
    (h : change.read? pid = none) : (status pid change).read = .error .einval := by
  simp only [read]
  rw [if_neg hpid, h]

/-- The status that a wait reads from the entry, if it can be read. -/
def status? (entry : WaitEntry) : Option WaitStatus := entry.read.toOption.join

theorem status?_eq_some {entry : WaitEntry} {status : WaitStatus} :
    entry.status? = some status ↔ entry.read = .ok (some status) := by
  unfold status?
  cases entry.read with
  | error errno => simp [Except.toOption]
  | ok read? => simp [Except.toOption]

/-- A status is about the process that its entry is about. -/
theorem pid?_of_status? {entry : WaitEntry} {status : WaitStatus}
    (h : entry.status? = some status) : entry.pid? = some status.pid := by
  replace h := status?_eq_some.1 h
  cases entry with
  | failure errno => cases h
  | status pid change =>
    simp only [read] at h
    split at h
    · cases h
    · split at h
      · next reading hreading =>
        obtain rfl := Option.some.inj (Except.ok.inj h)
        exact congrArg some (Change.pid_of_read? hreading).symm
      · cases h

end WaitEntry

/-- What a wait answers that finds the queue empty. -/
def Kernel.emptyAnswer (kernel : Kernel) : Answer :=
  if kernel.alive.isEmpty then .errno .echild else .number 0

theorem Kernel.waitEmpty_apply (m : Machine) : Kernel.waitEmpty m =
    (.done (), m.recording (.call ⟨.wait, m.state.kernel.emptyAnswer⟩)) := by
  unfold emptyAnswer
  show (if m.state.kernel.alive.isEmpty then record _ else record _) m = _
  split
  · rfl
  · rfl

/-- The statuses of a queue that can be read. -/
def statuses (queue : List WaitEntry) : List WaitStatus := queue.filterMap WaitEntry.status?

/-- Two orders of the same entries, in which those about one process come in the same order. -/
structure SameHistories (queue queue' : List WaitEntry) : Prop where
  perm : queue.Perm queue'
  order : ∀ pid, queue.filter (·.pid? = some pid) = queue'.filter (·.pid? = some pid)

/-- Two neighbours that are about different processes may change places. -/
theorem SameHistories.swap {first second : WaitEntry} (hne : first.pid? ≠ second.pid?)
    (before after : List WaitEntry) :
    SameHistories (before ++ first :: second :: after) (before ++ second :: first :: after) where
  perm := (List.Perm.swap second first after).append_left before
  order pid := by
    rw [List.filter_append, List.filter_append]
    congr 1
    by_cases hfirst : first.pid? = some pid
    · have hsecond : second.pid? ≠ some pid := fun h ↦ hne (hfirst.trans h.symm)
      simp [hfirst, hsecond]
    · simp [List.filter_cons, hfirst]

/-- The statuses about a process are those of the entries about it. -/
theorem filter_statuses (queue : List WaitEntry) (pid : Pid) :
    (statuses queue).filter (·.pid = pid) = statuses (queue.filter (·.pid? = some pid)) := by
  unfold statuses
  rw [List.filter_filterMap, List.filterMap_filter]
  refine List.filterMap_congr fun entry _ ↦ ?_
  cases hstatus : entry.status? with
  | none => simp
  | some status =>
    rw [WaitEntry.pid?_of_status? hstatus]
    by_cases hpid : status.pid = pid <;> simp [Option.filter, hpid]

/-! ### A pass over the queue -/

namespace Machine

variable (m : Machine)

/-- The machine with another wait queue. -/
def queueing (queue : List WaitEntry) : Machine :=
  m.withKernel fun k ↦ { k with waitQueue := queue }

/-- The machine in a pass over the wait queue that has led to `table`, left `rest` to be taken and
added `added` to the trace. -/
def inPass (table : JobTable) (rest : List WaitEntry) (added : Trace) : Machine :=
  { m with
    state := { m.state with
      jobs := table
      kernel := { m.state.kernel with waitQueue := rest } }
    trace := added ++ m.trace }

end Machine

/-- A pass over the wait queue that began with `m₀` has come to a table and to a rest of the queue,
made calls and printed texts, and has changed nothing else. -/
def Reaped (m₀ : Machine) (table : JobTable) (rest : List WaitEntry) (calls : List Call)
    (texts : List String) (m : Machine) : Prop :=
  ∃ added, m = m₀.inPass table rest added ∧ Trace.calls added = calls ∧ Trace.printed added = texts

namespace Reaped

variable {m₀ m : Machine} {table : JobTable} {rest : List WaitEntry} {calls : List Call}
  {texts : List String}

/-- One more event, which is a call or writes something or does neither. -/
theorem recording (h : Reaped m₀ table rest calls texts m) (event : Event) :
    Reaped m₀ table rest (calls ++ event.call?.toList) (texts ++ event.out?.toList)
      (m.recording event) := by
  obtain ⟨added, rfl, rfl, rfl⟩ := h
  refine ⟨⟨event, _⟩ :: added, rfl, ?_, ?_⟩
  · rw [← List.singleton_append, Trace.calls_append]
    cases event <;> rfl
  · rw [← List.singleton_append, Trace.printed_append]
    cases event <;> rfl

/-- One more wait. -/
theorem waiting (h : Reaped m₀ table rest calls texts m) (answer : Answer) :
    Reaped m₀ table rest (calls ++ [⟨.wait, answer⟩]) texts
      (m.recording (.call ⟨.wait, answer⟩)) := by
  have hrecorded := h.recording (.call ⟨.wait, answer⟩)
  rwa [show texts ++ (Event.call _).out?.toList = texts from List.append_nil texts] at hrecorded

theorem quiet (h : Reaped m₀ table rest calls texts m) {event : Event} (hcall : event.call? = none)
    (hout : event.out? = none) : Reaped m₀ table rest calls texts (m.recording event) := by
  have hrecorded := h.recording event
  rw [hcall, hout] at hrecorded
  simpa using hrecorded

theorem withJobs (h : Reaped m₀ table rest calls texts m) (table' : JobTable) :
    Reaped m₀ table' rest calls texts (m.withState { m.state with jobs := table' }) := by
  obtain ⟨added, rfl, hcalls, htexts⟩ := h
  exact ⟨added, rfl, hcalls, htexts⟩

theorem withQueue (h : Reaped m₀ table rest calls texts m) (rest' : List WaitEntry) :
    Reaped m₀ table rest' calls texts (m.withKernel fun k ↦ { k with waitQueue := rest' }) := by
  obtain ⟨added, rfl, hcalls, htexts⟩ := h
  exact ⟨added, rfl, hcalls, htexts⟩

theorem changeJobs (h : Reaped m₀ table rest calls texts m) (change : JobChange)
    (table' : JobTable) : Reaped m₀ table' rest calls texts (m.changingJobs change table') :=
  (h.withJobs table').quiet rfl rfl

theorem jobs (h : Reaped m₀ table rest calls texts m) : m.state.jobs = table := by
  obtain ⟨added, rfl, -, -⟩ := h
  rfl

theorem queue (h : Reaped m₀ table rest calls texts m) : m.state.kernel.waitQueue = rest := by
  obtain ⟨added, rfl, -, -⟩ := h
  rfl

end Reaped

namespace Shell

variable {m₀ : Machine} {table table' : JobTable} {rest : List WaitEntry} {calls : List Call}
  {texts : List String}

theorem triple_log_reaped {level : Level} {component : Component} {text : String} :
    Triple (Reaped m₀ table rest calls texts) (log level component text)
      { done := fun _ ↦ Reaped m₀ table rest calls texts } :=
  triple_record fun _ hm ↦ hm.quiet rfl rfl

/-- A status that only leads to a note in the log prints nothing. -/
theorem triple_log_unnoticed {level : Level} {component : Component} {text : String} :
    Triple (Reaped m₀ table rest calls texts) (log level component text)
      { done := fun _ ↦ Reaped m₀ table rest calls (texts ++ []) } := by
  rw [List.append_nil]
  exact triple_log_reaped

theorem triple_printLine_reaped {text : String} :
    Triple (Reaped m₀ table rest calls texts) (printLine text)
      { done := fun _ ↦ Reaped m₀ table rest calls (texts ++ [text ++ "\n"]) } := by
  refine triple_record fun m hm ↦ ?_
  have hprinted := hm.recording (.out (text ++ "\n"))
  rwa [show calls ++ (Event.out _).call?.toList = calls from List.append_nil calls] at hprinted

/-- A look at the table during a pass. -/
theorem triple_state_reaped {next : State → Routine Unit} {post : Post Unit}
    (h : ∀ s, s.jobs = table → Triple (Reaped m₀ table rest calls texts) (next s) post) :
    Triple (Reaped m₀ table rest calls texts) (state >>= next) post :=
  fun m hm ↦ h m.state hm.jobs m hm

theorem triple_changeJobs_reaped {change : JobChange} :
    Triple (Reaped m₀ table rest calls texts) (changeJobs change table')
      { done := fun _ ↦ Reaped m₀ table' rest calls texts } :=
  triple_changeJobs fun _ hm ↦ hm.changeJobs change table'

/-- Acting on a status changes the table and prints as the table says. -/
theorem triple_apply_learned (status : WaitStatus) :
    Triple (Reaped m₀ table rest calls texts) (apply status)
      { done := fun _ ↦ Reaped m₀ (table.learned status) rest calls
          (texts ++ (table.notice? status).toList) } := by
  cases status with
  | exited pid code =>
    refine triple_log_reaped.andThen _ fun _ ↦ triple_state_reaped fun s hs ↦ ?_
    rw [hs, show texts ++ (table.notice? (.exited pid code)).toList = texts from
      List.append_nil texts, JobTable.learned, JobTable.learn?]
    cases table.remove pid with
    | none => exact triple_log_reaped
    | some removed => exact triple_changeJobs_reaped
  | signaled pid signal =>
    refine triple_log_reaped.andThen _ fun _ ↦ triple_state_reaped fun s hs ↦ ?_
    rw [hs, JobTable.learned, JobTable.learn?, JobTable.notice?, JobTable.byPid?_eq_remove]
    cases table.remove pid with
    | none => exact triple_log_unnoticed
    | some removed => exact triple_changeJobs_reaped.andThen _ fun _ ↦ triple_printLine_reaped
  | stopped pid signal =>
    refine triple_log_reaped.andThen _ fun _ ↦ triple_state_reaped fun s hs ↦ ?_
    rw [hs, JobTable.learned, JobTable.learn?, JobTable.notice?,
      JobTable.byPid?_eq_setState .stopped]
    cases table.setState pid .stopped with
    | none => exact triple_log_unnoticed
    | some restated => exact triple_changeJobs_reaped.andThen _ fun _ ↦ triple_printLine_reaped
  | continued pid => exact triple_log_unnoticed
  | traced pid => exact triple_log_unnoticed

theorem reap_apply {m : Machine} {queue : List WaitEntry}
    (h : m.state.kernel.waitQueue = queue) : reap m = reapAll queue m := by
  subst h
  rfl

/-- The waits that take the entries. -/
def waits (entries : List WaitEntry) : List Call :=
  entries.map fun entry ↦ ⟨.wait, Kernel.waitAnswer entry⟩

theorem reaped_taking {m : Machine} {entry : WaitEntry}
    (h : Reaped m₀ table (entry :: rest) calls texts m) :
    Reaped m₀ table rest (calls ++ waits [entry]) texts (m.taking entry rest) :=
  (h.withQueue rest).waiting _

/-- A pass that takes an entry that tells a status acts on it and goes on. -/
theorem exists_reap_of_status {m : Machine} {entry : WaitEntry} {status : WaitStatus}
    (h : Reaped m₀ table (entry :: rest) calls texts m) (hread : entry.read = .ok (some status)) :
    ∃ m', Reaped m₀ (table.learned status) rest (calls ++ waits [entry])
        (texts ++ (table.notice? status).toList) m' ∧ reap m = reap m' := by
  have hlearned : Reaped m₀ table rest _ texts
      ((m.taking entry rest).recording (.learned status)) := (reaped_taking h).quiet rfl rfl
  obtain ⟨_, m', happly, hm'⟩ := (triple_apply_learned status).exists_done hlearned
  refine ⟨m', hm', ?_⟩
  rw [reap_apply h.queue, reap_apply hm'.queue, reapAll_of_status hread, bind_of_done happly]

/-- A pass gets through entries that can all be read, one after another, and comes to what is behind
them. -/
theorem exists_reap_of_telling {before : List WaitEntry} {m : Machine}
    (htelling : ∀ entry ∈ before, entry.IsTelling)
    (h : Reaped m₀ table (before ++ rest) calls texts m) :
    ∃ m', Reaped m₀ (table.learnedAll (statuses before)) rest (calls ++ waits before)
        (texts ++ table.notices (statuses before)) m' ∧ reap m = reap m' := by
  induction before generalizing table calls texts m with
  | nil =>
    refine ⟨m, ?_, rfl⟩
    simpa [waits, statuses, JobTable.learnedAll, JobTable.notices] using h
  | cons entry before ih =>
    obtain ⟨status, hread⟩ := htelling entry List.mem_cons_self
    have hstatuses : statuses (entry :: before) = status :: statuses before :=
      List.filterMap_cons_some (WaitEntry.status?_eq_some.2 hread)
    obtain ⟨m₁, hfirst, hreap⟩ := exists_reap_of_status h hread
    obtain ⟨m', hrest, hreap'⟩ :=
      ih (fun later hmem ↦ htelling later (List.mem_cons_of_mem _ hmem)) hfirst
    refine ⟨m', ?_, hreap.trans hreap'⟩
    rw [hstatuses]
    simpa [waits, JobTable.learnedAll, JobTable.notices] using hrest

/-- Once the queue is empty, one more wait says so. -/
theorem triple_waitEmpty_reaped : Triple (Reaped m₀ table [] calls texts) Kernel.waitEmpty
    { done := fun _ ↦
        Reaped m₀ table [] (calls ++ [⟨.wait, m₀.state.kernel.emptyAnswer⟩]) texts } := by
  intro m hm
  have hempty : m.state.kernel.emptyAnswer = m₀.state.kernel.emptyAnswer := by
    obtain ⟨added, rfl, -, -⟩ := hm
    rfl
  rw [Kernel.waitEmpty_apply, hempty]
  exact hm.waiting _

/-- A pass over entries that can all be read takes them all, learns their statuses and finds the
queue empty. -/
theorem reap_queueing {queue : List WaitEntry} (htelling : ∀ entry ∈ queue, entry.IsTelling)
    (m : Machine) : ∃ added,
      reap (m.queueing queue) =
        (.done (), m.inPass (m.state.jobs.learnedAll (statuses queue)) [] added) ∧
      Trace.calls added = waits queue ++ [⟨.wait, m.state.kernel.emptyAnswer⟩] ∧
      Trace.printed added = m.state.jobs.notices (statuses queue) := by
  have hstart : Reaped m m.state.jobs (queue ++ []) [] [] (m.queueing queue) :=
    ⟨[], by rw [List.append_nil]; rfl, rfl, rfl⟩
  obtain ⟨m', hm', hreap⟩ := exists_reap_of_telling htelling hstart
  obtain ⟨_, _, hempty, added, rfl, hcalls, htexts⟩ := triple_waitEmpty_reaped.exists_done hm'
  exact ⟨added, hreap.trans ((reap_apply hm'.queue).trans hempty), hcalls, htexts⟩

/-- **Reaping does not depend on the order of the children.** Two wait queues whose entries can all
be read and which differ only in how the histories of the children are interleaved are both reaped
without a failure. They leave the same machine, with the same job table and nothing to reap, but for
the trace, and what was printed and what the waits answered is the same in another order. -/
theorem reap_ignores_order {queue queue' : List WaitEntry}
    (htelling : ∀ entry ∈ queue, entry.IsTelling) (horder : SameHistories queue queue')
    (m : Machine) : ∃ table added added',
      reap (m.queueing queue) = (.done (), m.inPass table [] added) ∧
      reap (m.queueing queue') = (.done (), m.inPass table [] added') ∧
      (Trace.printed added).Perm (Trace.printed added') ∧
      (Trace.calls added).Perm (Trace.calls added') := by
  have htelling' : ∀ entry ∈ queue', entry.IsTelling :=
    fun entry hmem ↦ htelling entry (horder.perm.mem_iff.2 hmem)
  have hsame : ∀ pid, (statuses queue).filter (·.pid = pid) =
      (statuses queue').filter (·.pid = pid) := by
    intro pid
    rw [filter_statuses, filter_statuses, horder.order]
  obtain ⟨htable, hnotices⟩ := JobTable.learnedAll_of_sameOrder hsame m.state.jobs
  obtain ⟨added, hreap, hcalls, hprinted⟩ := reap_queueing htelling m
  obtain ⟨added', hreap', hcalls', hprinted'⟩ := reap_queueing htelling' m
  refine ⟨_, added, added', hreap, htable ▸ hreap', ?_, ?_⟩
  · rw [hprinted, hprinted']
    exact hnotices
  · rw [hcalls, hcalls']
    exact (horder.perm.map _).append_right _

/-- A shell with three jobs, of which the first is in the foreground. -/
def threeJobs : Machine where
  state :=
    { jobs :=
        { slots := [some ⟨1, 11, .foreground, "make"⟩, some ⟨2, 12, .background, "tail &"⟩,
            some ⟨3, 13, .background, "sleep 9 &"⟩] ++ List.replicate 13 none
          nextId := 4
          length_slots := rfl } }

/-- The second job is stopped and ends before the end of the third one is reported. -/
def inTurn : List WaitEntry :=
  [.status 12 (.stopped 20), .status 12 (.signaled 9 true), .status 13 (.exited 0)]

/-- The end of the third job is reported in between. -/
def crossing : List WaitEntry :=
  [.status 12 (.stopped 20), .status 13 (.exited 0), .status 12 (.signaled 9 true)]

/-- It makes no difference when the end of the third job is reported. -/
theorem reap_of_crossing : (∀ entry ∈ inTurn, entry.IsTelling) ∧ SameHistories inTurn crossing ∧
    ∃ table added added',
      reap (threeJobs.queueing inTurn) = (.done (), threeJobs.inPass table [] added) ∧
      reap (threeJobs.queueing crossing) = (.done (), threeJobs.inPass table [] added') ∧
      (Trace.printed added).Perm (Trace.printed added') ∧
      (Trace.calls added).Perm (Trace.calls added') := by
  have htelling : ∀ entry ∈ inTurn, entry.IsTelling := by
    simp only [inTurn, List.forall_mem_cons]
    exact ⟨⟨_, rfl⟩, ⟨_, rfl⟩, ⟨_, rfl⟩, nofun⟩
  have horder : SameHistories inTurn crossing :=
    SameHistories.swap (by decide) [.status 12 (.stopped 20)] []
  exact ⟨htelling, horder, reap_ignores_order htelling horder threeJobs⟩

end Shell

end JobShell
