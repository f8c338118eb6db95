import JobShell.Proofs.Path.Sound

/-!
# Every wait comes to an end

The loop of a wait has no quantity of its own that decreases. What bounds it is how often the shell
can still be kept from learning that the process it waits for has ended. Each sleep uses up a batch
of the script, until none is left. The sleep after that ends every living child and the next one
reports the end of every child there ever was, so from then on the end of the process is queued. A
drain reaches it unless an entry before it says that there is nothing to wait for, and each such
entry is taken only once.
-/

namespace JobShell

open Routine

/-! ### Drains and sleeps -/

/-- What a wait does by turns. -/
inductive Beat
  /-- It finishes a drain. -/
  | drain
  /-- It goes to sleep. -/
  | sleep
  deriving DecidableEq

/-- `j` drains, each followed by a sleep. -/
def Beat.rounds (j : Nat) : List Beat := (List.replicate j [drain, sleep]).flatten

theorem Beat.rounds_succ (j : Nat) : rounds (j + 1) = rounds j ++ [drain] ++ [sleep] := by
  rw [rounds, List.replicate_succ', List.flatten_append, List.append_assoc]
  rfl

/-- The drain that the event finishes, or the sleep that it begins. -/
def Event.beat? : Event → Option Beat
  | drained => some .drain
  | call ⟨.suspend _, _⟩ => some .sleep
  | _ => none

theorem Event.beat?_of_isQuiet {event : Event} (h : event.isQuiet = true) : event.beat? = none := by
  unfold beat?
  split <;> first | cases h | rfl

/-- The drains and the sleeps, in the order in which they happened. -/
def Trace.beats (trace : Trace) : List Beat := (events trace).filterMap Event.beat?

theorem Trace.beats_append (later earlier : Trace) :
    beats (later ++ earlier) = beats earlier ++ beats later := by
  simp [beats, events]

/-- Since it was `m₀`, the machine has come to have these drains and sleeps. -/
def Machine.Did (m₀ : Machine) (beats : List Beat) (m : Machine) : Prop :=
  ∃ news, m.history = news ++ m₀.history ∧ Trace.beats news = beats

namespace Machine.Did

variable {m₀ m m' : Machine} {beats : List Beat} {event : Event} {s : State}

theorem refl (m : Machine) : m.Did [] m := ⟨[], rfl, rfl⟩

theorem record {beat : Beat} (h : m₀.Did beats m) (hhistory : m'.history = ⟨event, s⟩ :: m.history)
    (hbeat : event.beat? = some beat) : m₀.Did (beats ++ [beat]) m' := by
  obtain ⟨news, hnews, rfl⟩ := h
  refine ⟨⟨event, s⟩ :: news, by rw [hhistory, hnews, List.cons_append], ?_⟩
  simp [Trace.beats, Trace.events, hbeat]

theorem skip (h : m₀.Did beats m) (hhistory : m'.history = ⟨event, s⟩ :: m.history)
    (hbeat : event.beat? = none) : m₀.Did beats m' := by
  obtain ⟨news, hnews, rfl⟩ := h
  refine ⟨⟨event, s⟩ :: news, by rw [hhistory, hnews, List.cons_append], ?_⟩
  simp [Trace.beats, Trace.events, hbeat]

/-- Nothing that happens outside the shell is a drain or a sleep. -/
theorem undisturbed : Undisturbed (m₀.Did beats) where
  script _ _ _ hm := hm
  quiet _ _ hquiet hm := hm.skip rfl (Event.beat?_of_isQuiet hquiet)
  after _ _ hm := hm.skip rfl rfl
  sleep _ _ _ hm := hm

end Machine.Did

/-! ### What keeps a wait going -/

namespace WaitEntry

/-- A wait that takes the entry finds nothing to tell, and the drain leaves the queue alone. -/
def stops : WaitEntry → Bool
  | status pid _ => pid = 0
  | failure errno => errno = .echild

theorem stops_iff {entry : WaitEntry} :
    entry.stops = true ↔ entry.read = .error .echild ∨ entry.read = .ok none := by
  cases entry with
  | failure errno => simp [stops, read]
  | status pid change =>
    simp only [stops, read, decide_eq_true_eq]
    split
    · next hpid => simp [hpid]
    · next hpid => split <;> simp [hpid]

end WaitEntry

namespace Machine

variable (m : Machine)

/-- The entries that the wait queue holds, those that what happens `now` is going to add, and those
that the later sleeps of the script are. -/
def toCome (now : List Occurrence) : List WaitEntry :=
  m.state.kernel.waitQueue ++
    (now ++ m.script.batches.flatten).filterMap fun what ↦ (Event.happened what).posted?

/-- How many sleeps it takes at most to have the end of every process queued, and a drain get as far
as that. -/
def patience (now : List Occurrence) : Nat :=
  m.script.batches.length + (m.toCome now).countP WaitEntry.stops +
    (if m.exhausted then 1 else 2) * (1 + m.state.kernel.forked.count 0)

/-- The end of process `pid` is queued behind at most `d` entries that stop a drain, and no batch is
left. -/
structure IsDue (pid : Pid) (d : Nat) : Prop where
  spent : m.script.batches = []
  exhausted : m.exhausted = true
  queued : ∃ ahead rest, m.state.kernel.waitQueue = ahead ++ .status pid (.exited 0) :: rest ∧
    ahead.countP WaitEntry.stops ≤ d

/-- A wait for process `pid` that is about to drain needs at most `k` more sleeps. -/
def Awaits (pid : Pid) (k : Nat) : Prop :=
  m.patience [] ≤ k ∨ m.IsDue pid k ∧ m.state.noted.childStatus = true

/-- The same of a wait that drains or has drained: if the process still has a job, then it takes `k`
more sleeps, or else there are fewer than `bound` entries in the way. -/
def Nears (pid : Pid) (k bound : Nat) : Prop :=
  pid ∈ m.state.jobs.pids → m.patience [] ≤ k ∨ ∃ d < bound, m.IsDue pid d

/-- The same of a wait that sleeps, while `now` is still to happen. -/
def Sleeps (pid : Pid) (k : Nat) (now : List Occurrence) : Prop :=
  m.patience now ≤ k ∨ now = [] ∧ m.IsDue pid k ∧ m.state.IsWoken

variable {m} {pid : Pid} {entry : WaitEntry} {rest : List WaitEntry}

/-- Two machines of which a wait has the same to expect. -/
structure SameOutlook (m m' : Machine) : Prop where
  batches : m'.script.batches = m.script.batches
  exhausted : m'.exhausted = m.exhausted
  queue : m'.state.kernel.waitQueue = m.state.kernel.waitQueue
  forked : m'.state.kernel.forked = m.state.kernel.forked

namespace SameOutlook

variable {m' : Machine} (h : m.SameOutlook m')
include h

theorem patience_eq (now : List Occurrence) : m'.patience now = m.patience now := by
  simp only [patience, toCome, h.batches, h.exhausted, h.queue, h.forked]

theorem isDue {d : Nat} (hdue : m.IsDue pid d) : m'.IsDue pid d :=
  ⟨h.batches.trans hdue.spent, h.exhausted.trans hdue.exhausted, by rw [h.queue]; exact hdue.queued⟩

theorem nears {k bound : Nat} (hjobs : pid ∈ m'.state.jobs.pids → pid ∈ m.state.jobs.pids)
    (hnears : m.Nears pid k bound) : m'.Nears pid k bound := by
  intro hpid
  rw [h.patience_eq]
  refine (hnears (hjobs hpid)).imp_right ?_
  rintro ⟨d, hd, hdue⟩
  exact ⟨d, hd, h.isDue hdue⟩

end SameOutlook

theorem patience_pos (now : List Occurrence) : 0 < m.patience now := by
  unfold patience
  split <;> omega

/-- The bound on a wait's drains is large enough for its sleeps. -/
theorem patience_lt_waitBound : m.patience [] < Shell.waitBound m := by
  have hstops : (m.toCome []).countP WaitEntry.stops ≤
      m.state.kernel.waitQueue.length + m.script.batches.flatten.length := by
    refine Nat.le_trans List.countP_le_length ?_
    rw [toCome, List.length_append, List.nil_append]
    exact Nat.add_le_add_left (List.length_filterMap_le _ _) _
  have hzero : m.state.kernel.forked.count 0 ≤ m.state.kernel.forked.length := List.count_le_length
  unfold patience Shell.waitBound
  split <;> omega

/-- A wait that takes an entry is rid of it. -/
theorem patience_taking (h : m.state.kernel.waitQueue = entry :: rest) :
    (m.taking entry rest).patience [] + (if entry.stops then 1 else 0) = m.patience [] := by
  have hcome : m.toCome [] = entry :: (m.taking entry rest).toCome [] := by
    rw [toCome, h]
    rfl
  unfold patience
  rw [hcome, List.countP_cons]
  exact (Nat.add_right_comm _ _ _).trans (congrArg (· + _) (Nat.add_assoc _ _ _))

/-- What happens moves from what is to come into the queue. -/
theorem patience_after (what : Occurrence) (now : List Occurrence) :
    (m.after what).patience now = m.patience (what :: now) := by
  have hcome : (m.after what).toCome now = m.toCome (what :: now) := by
    show ((m.state.undergoing what).raising what.signal).kernel.waitQueue ++ _ = _
    rw [State.waitQueue_raising, State.waitQueue_undergoing, toCome, List.append_assoc,
      List.cons_append, List.filterMap_cons]
    cases (Event.happened what).posted? <;> rfl
  have hforked : (m.after what).state.kernel.forked = m.state.kernel.forked :=
    (State.forked_raising _ _).trans (State.forked_undergoing _ what)
  unfold patience
  rw [hcome, hforked]
  rfl

theorem sameOutlook_delivering (mask : SignalSet) : m.SameOutlook (m.delivering mask) :=
  ⟨rfl, rfl, m.state.waitQueue_delivering mask, m.state.forked_delivering mask⟩

theorem sameOutlook_remasking (how : MaskChange) (signals : SignalSet) :
    m.SameOutlook (m.remasking how signals) :=
  ⟨rfl, rfl, State.waitQueue_delivering _ _, State.forked_delivering _ _⟩

/-- A sleep that uses up a batch has that batch happen. -/
theorem patience_next {batch : List Occurrence} {batches : List (List Occurrence)}
    (h : m.script.batches = batch :: batches) :
    ({ m with script := { m.script with batches } } : Machine).patience batch + 1 =
      m.patience [] := by
  have hcome : ({ m with script := { m.script with batches } } : Machine).toCome batch =
      m.toCome [] := by
    rw [toCome, toCome, h]
    rfl
  have hsum : ∀ a b c : Nat, a + b + c + 1 = a + 1 + b + c := by omega
  unfold patience
  rw [hcome, h]
  exact hsum batches.length _ _

/-! ### The end of every process -/

theorem countP_map_exited (pids : List Pid) :
    (pids.map (WaitEntry.status · (.exited 0))).countP WaitEntry.stops = pids.count 0 := by
  rw [List.countP_map, List.count]
  rfl

namespace IsDue

variable {d : Nat}

/-- What is taken stands before the end of the process, unless it is that end. -/
theorem taking (h : m.IsDue pid d) (hqueue : m.state.kernel.waitQueue = entry :: rest)
    (hne : entry ≠ .status pid (.exited 0)) :
    ∃ d', d' + (if entry.stops then 1 else 0) = d ∧ (m.taking entry rest).IsDue pid d' := by
  obtain ⟨ahead, behind, hsplit, hcount⟩ := h.queued
  cases ahead with
  | nil => exact absurd (List.cons.inj (hqueue.symm.trans hsplit)).1 hne
  | cons first ahead =>
    obtain ⟨rfl, rfl⟩ := List.cons.inj (hqueue.symm.trans hsplit)
    rw [List.countP_cons] at hcount
    refine ⟨d - if entry.stops then 1 else 0, ?_, h.spent, h.exhausted, ahead, behind, rfl, ?_⟩
    · omega
    · omega

end IsDue

/-- With no batch left, what keeps a wait going stands in the queue, or is added by a sleep that
finds none. -/
theorem patience_of_spent (h : m.script.batches = []) : m.patience [] =
    m.state.kernel.waitQueue.countP WaitEntry.stops +
      (if m.exhausted then 1 else 2) * (1 + m.state.kernel.forked.count 0) := by
  rw [patience, toCome, h, List.length_nil, Nat.zero_add]
  exact congrArg (List.countP _ · + _) (List.append_nil _)

/-- A sleep that finds no batch ends every living child, or else reports the end of every child, and
so that of process `pid`. -/
theorem sleeps_endingAll {k : Nat} (hsound : m.state.Sound) (hpid : pid ∈ m.state.jobs.pids)
    (hnears : m.Nears pid (k + 1) (k + 1)) (hspent : m.script.batches = []) :
    (({ m with exhausted := true } : Machine).endingAll
      (if m.exhausted then m.state.kernel.forked else m.state.kernel.alive)).Sleeps pid k [] := by
  generalize hpids : (if m.exhausted then m.state.kernel.forked else m.state.kernel.alive) = pids
  obtain ⟨hqueue, hforked, hwoken⟩ :=
    Kernel.exists_endingAll ({ m with exhausted := true } : Machine) pids
  have hspent' : (({ m with exhausted := true } : Machine).endingAll pids).script.batches = [] :=
    hspent
  have hexhausted' : (({ m with exhausted := true } : Machine).endingAll pids).exhausted = true :=
    rfl
  generalize ({ m with exhausted := true } : Machine).endingAll pids = m' at *
  replace hqueue : m'.state.kernel.waitQueue = m.state.kernel.waitQueue ++ pids.map _ := hqueue
  replace hforked : m'.state.kernel.forked = m.state.kernel.forked := hforked
  rcases hnears hpid with hle | ⟨d, hd, ⟨-, -, ahead, rest, hsplit, hcount⟩⟩
  · rw [patience_of_spent hspent] at hle
    cases hexhausted : m.exhausted with
    | false =>
      rw [hexhausted, if_neg Bool.false_ne_true] at hpids hle
      have hzero := hsound.alive.count_le 0
      left
      rw [patience_of_spent hspent', hqueue, hforked, hexhausted', if_pos rfl, List.countP_append,
        countP_map_exited, ← hpids]
      omega
    | true =>
      rw [hexhausted, if_pos rfl] at hpids hle
      obtain ⟨before, after, hforks⟩ := List.append_of_mem (hsound.started pid hpid)
      refine Or.inr ⟨rfl, ⟨hspent', hexhausted', m.state.kernel.waitQueue ++
        before.map (WaitEntry.status · (.exited 0)), after.map (WaitEntry.status · (.exited 0)),
        ?_, ?_⟩, hwoken⟩
      · rw [hqueue, ← hpids, hforks, List.map_append, List.map_cons, List.append_assoc]
      · rw [hforks, List.count_append] at hle
        rw [List.countP_append, countP_map_exited]
        omega
  -- The end of the process is queued already, and stays where it is.
  · refine Or.inr ⟨rfl, ⟨hspent', hexhausted', ahead,
      rest ++ pids.map (WaitEntry.status · (.exited 0)), ?_, ?_⟩, hwoken⟩
    · rw [hqueue, hsplit, List.append_assoc, List.cons_append]
    · omega

end Machine

/-- A status takes no process into the job table, and the one that ended out of it. -/
theorem JobTable.mem_pids_of_learn? {table table' : JobTable} {status : WaitStatus}
    {change : JobChange} {pid : Pid} (h : table.learn? status = some (change, table'))
    (hnodup : table.pids.Nodup) (hpid : pid ∈ table'.pids) :
    pid ∈ table.pids ∧ status.ended? ≠ some pid := by
  rcases exists_of_learn? h with ⟨ended, job, hended, -, hremove⟩ | ⟨stopped, job, hended, -, hset⟩
  · obtain ⟨hold, hne⟩ := (mem_pids_remove_iff hremove hnodup).1 hpid
    refine ⟨hold, fun heq ↦ hne ?_⟩
    exact Option.some.inj (heq.symm.trans hended)
  · rw [pids_setState hset] at hpid
    exact ⟨hpid, by rw [hended]; exact nofun⟩

namespace Shell

variable {m₀ : Machine} {beats : List Beat} (pid : Pid) (k : Nat)

/-- A wait that began with `m₀` has come to have these drains and sleeps, and has so much before it
as `left` says. -/
def Counted (m₀ : Machine) (beats : List Beat) (left : Machine → Prop) (m : Machine) : Prop :=
  m.state.Sound ∧ m₀.Did beats m ∧ left m

/-- What is left of a wait does not depend on what is recorded, nor on the answers of its calls. -/
theorem steady_counted {left : Machine → Prop}
    (hleft : ∀ m m', m.SameOutlook m' → m'.state = m.state → left m → left m') :
    Steady (Counted m₀ beats left) where
  script m _ hbatches hm := ⟨hm.1, hm.2.1, hleft m _ ⟨hbatches, rfl, rfl, rfl⟩ rfl hm.2.2⟩
  quiet m _ hquiet hm :=
    ⟨hm.1, hm.2.1.skip rfl (Event.beat?_of_isQuiet hquiet),
      hleft m _ ⟨rfl, rfl, rfl, rfl⟩ rfl hm.2.2⟩

theorem steady_nears (bound : Nat) : Steady (Counted m₀ beats (Machine.Nears · pid k bound)) :=
  steady_counted fun _ _ hsame hstate hleft ↦ hsame.nears (by rw [hstate]; exact id) hleft

/-! ### Drains -/

/-- A drain that reaps comes nearer to the end of process `pid`: it learns of it, or is stopped by
an entry that stands before it. -/
theorem counted_reap : Triple (Counted m₀ beats (Machine.Nears · pid k (k + 1))) reap
    { done := fun _ ↦ Counted m₀ beats (Machine.Nears · pid k k)
      failed := fun _ m ↦ m.state.Sound ∧ m₀.Did beats m } := by
  have hlearning : ∀ status : WaitStatus, Steady (Counted m₀ beats fun m ↦
      status.ended? = some pid ∨ m.Nears pid k (k + 1)) := by
    intro status
    refine steady_counted fun _ _ hsame hstate hleft ↦ hleft.imp_right fun hnears ↦ ?_
    exact hsame.nears (by rw [hstate]; exact id) hnears
  refine triple_reap fun queue ↦
    triple_reapAll (steady_nears pid k _) hlearning ?_ ?_ ?_ ?_ ?_ ?_ queue
  · rintro m answer ⟨hsound, hdid, hnears⟩ hempty
    refine ⟨hsound, hdid.skip rfl rfl, fun hpid ↦ (hnears hpid).imp_right ?_⟩
    rintro ⟨d, -, hdue⟩
    obtain ⟨ahead, rest, hsplit, -⟩ := hdue.queued
    rw [hempty] at hsplit
    simp at hsplit
  · rintro m entry rest ⟨hsound, hdid, hnears⟩ hqueue hread
    have hstops := WaitEntry.stops_iff.2 hread
    refine ⟨hsound.taking entry rest, hdid.skip rfl rfl, fun hpid ↦ ?_⟩
    have htaking := Machine.patience_taking hqueue
    rw [if_pos hstops] at htaking
    -- The process has a job, so its end is not an entry that stops a drain.
    have hne : entry ≠ .status pid (.exited 0) := by
      rintro rfl
      have hpos := hsound.positive pid hpid
      exact absurd (of_decide_eq_true hstops) (Int.ne_of_gt hpos)
    refine (hnears hpid).imp (fun hle ↦ by omega) ?_
    rintro ⟨d, hd, hdue⟩
    obtain ⟨d', heq, hdue'⟩ := hdue.taking hqueue hne
    rw [if_pos hstops] at heq
    exact ⟨d', by omega, hdue'⟩
  · rintro m entry rest errno ⟨hsound, hdid, -⟩ - - -
    exact ⟨hsound.taking entry rest, hdid.skip rfl rfl⟩
  · rintro m entry rest status ⟨hsound, hdid, hnears⟩ hqueue hread
    have hrecorded : m₀.Did beats (m.taking entry rest) := hdid.skip rfl rfl
    refine ⟨hsound.taking entry rest, hrecorded.skip rfl rfl, ?_⟩
    by_cases hend : entry = .status pid (.exited 0)
    · left
      rw [hend, WaitEntry.read] at hread
      split at hread
      · cases hread
      · cases hread
        rfl
    · refine Or.inr fun hpid ↦ ?_
      have htaking := Machine.patience_taking hqueue
      refine (hnears hpid).imp (fun hle ↦ ?_) ?_
      · show (m.taking entry rest).patience [] ≤ k
        omega
      · rintro ⟨d, hd, hdue⟩
        obtain ⟨d', heq, hdue'⟩ := hdue.taking hqueue hend
        exact ⟨d', by omega, hdue'.spent, hdue'.exhausted, hdue'.queued⟩
  · rintro status m change table ⟨hsound, hdid, hleft⟩ hlearn
    refine ⟨hsound.learn hlearn, hdid.skip rfl rfl, fun hpid ↦ ?_⟩
    obtain ⟨hold, hne⟩ := JobTable.mem_pids_of_learn? hlearn hsound.nodup hpid
    have hsame : m.SameOutlook (m.changingJobs change table) := ⟨rfl, rfl, rfl, rfl⟩
    exact hsame.nears (fun _ ↦ hold) (hleft.resolve_left hne) hpid
  · rintro status m ⟨hsound, hdid, hleft⟩ hnone
    refine ⟨hsound, hdid, fun hpid ↦ hleft.resolve_left (fun hended ↦ ?_) hpid⟩
    rcases JobTable.remove_eq_none_iff.1 (JobTable.remove_of_learn? hnone hended) with hneg | hno
    · exact absurd hneg (Int.not_lt.2 (hsound.positive pid hpid))
    · exact hno hpid

/-- A drain that comes when it is due reaps, and so makes an end of process `pid` or of an entry
that stands before it. -/
theorem counted_drain : Triple (Counted m₀ beats (Machine.Awaits · pid k)) drain
    { done := fun _ ↦ Counted m₀ (beats ++ [.drain]) (Machine.Nears · pid k k)
      failed := fun _ m ↦ m.state.Sound ∧ m₀.Did beats m } := by
  refine triple_drain (steady_nears pid k _) (steady_nears pid k _) ?_ ?_ (counted_reap pid k) ?_ ?_
  · rintro m ⟨hsound, hdid, hawaits⟩ -
    have hsame : m.SameOutlook m.takingNoted := ⟨rfl, rfl, rfl, rfl⟩
    refine ⟨hsound.signalled hsound.held {}, hdid, hsame.nears id fun _ ↦ hawaits.imp_right ?_⟩
    exact fun hdue ↦ ⟨k, Nat.lt_succ_self k, hdue.1⟩
  -- Without a note there is nothing to reap, and the end of the process is not due yet.
  · rintro m ⟨hsound, hdid, hawaits⟩ hnoted
    have hsame : m.SameOutlook m.takingNoted := ⟨rfl, rfl, rfl, rfl⟩
    refine ⟨hsound.signalled hsound.held {}, hdid, hsame.nears id fun _ ↦ Or.inl ?_⟩
    refine hawaits.resolve_right fun hdue ↦ ?_
    rw [hnoted] at hdue
    exact Bool.false_ne_true hdue.2
  · refine fun signal _ ↦
      triple_relay (steady_nears pid k _) (steady_nears pid k _) ?_ fun _ hm _ ↦ hm
    rintro m target failure ⟨hsound, hdid, hnears⟩ -
    have hsame : ∀ event, m.SameOutlook (m.recording event) := fun _ ↦ ⟨rfl, rfl, rfl, rfl⟩
    exact ⟨hsound, hdid.skip rfl rfl, (hsame _).nears id hnears⟩
  · rintro m ⟨hsound, hdid, hnears⟩
    have hsame : m.SameOutlook (m.recording .drained) := ⟨rfl, rfl, rfl, rfl⟩
    exact ⟨hsound, hdid.record rfl rfl, hsame.nears id hnears⟩

/-! ### Sleeps -/

/-- A sleep for a process that has a job uses up something of what keeps the wait going: a batch,
one of the two sleeps that find none, or an entry before the end of the process. -/
theorem counted_suspend {mask : SignalSet} (hmask : mask.contains .childStatus = false) :
    Triple (fun m ↦ Counted m₀ beats (Machine.Nears · pid (k + 1) (k + 1)) m ∧
        pid ∈ m.state.jobs.pids) (Kernel.suspend mask)
      { done := fun _ ↦ Counted m₀ (beats ++ [.sleep]) (Machine.Awaits · pid k)
        exited := m₀.Did (beats ++ [.sleep]) } := by
  refine Kernel.triple_suspend_by_batch
    (fun now ↦ Counted m₀ (beats ++ [.sleep]) (Machine.Sleeps · pid k now)) ?_ ?_ ?_ ?_ ?_ ?_
  · rintro m batch batches ⟨⟨hsound, hdid, hnears⟩, hpid⟩ hbatches
    refine ⟨hsound, hdid.record rfl rfl, Or.inl ?_⟩
    have hpatience := Machine.patience_next hbatches
    rcases hnears hpid with hle | ⟨d, -, hdue⟩
    · show ({ m with script := { m.script with batches } } : Machine).patience batch ≤ k
      omega
    · rw [hdue.spent] at hbatches
      cases hbatches
  · rintro m ⟨⟨hsound, hdid, hnears⟩, hpid⟩ hspent
    have hsame : m.SameOutlook (m.recording (.call ⟨.suspend mask, .errno .eintr⟩)) :=
      ⟨rfl, rfl, rfl, rfl⟩
    refine ⟨hsound.endingAll _, hdid.record rfl rfl, ?_⟩
    have hrecorded := hsame.nears id hnears
    exact Machine.sleeps_endingAll hsound hpid hrecorded hspent
  · rintro what rest m ⟨hsound, hdid, hsleeps⟩
    refine ⟨hsound.after what, hdid.skip rfl rfl, Or.inl ?_⟩
    rw [Machine.patience_after]
    exact hsleeps.resolve_right nofun
  · rintro what rest m ⟨-, hdid, -⟩
    exact Machine.Did.undisturbed.quitting hdid
  · exact fun m hm ↦ hm.1.quit
  · rintro m ⟨hsound, hdid, hsleeps⟩
    have hsame := m.sameOutlook_delivering mask
    refine ⟨hsound.delivering mask, hdid, hsleeps.imp (fun hle ↦ ?_) fun ⟨_, hdue, hwoken⟩ ↦ ?_⟩
    · rw [hsame.patience_eq]
      exact hle
    · exact ⟨hsame.isDue hdue, m.state.childStatus_noted_delivering hwoken hmask⟩

/-! ### Waits -/

/-- Since it was `m₀`, the machine drained and slept by turns, and slept at most `most` times. -/
def Alternates (m₀ : Machine) (most : Nat) (m : Machine) : Prop :=
  ∃ j ≤ most, m₀.Did (Beat.rounds j) m ∨ m₀.Did (Beat.rounds j ++ [.drain]) m

theorem Alternates.skip {m m' : Machine} {most : Nat} {event : Event} {s : State}
    (h : Alternates m₀ most m) (hhistory : m'.history = ⟨event, s⟩ :: m.history)
    (hbeat : event.beat? = none) : Alternates m₀ most m' := by
  obtain ⟨j, hj, hdid⟩ := h
  exact ⟨j, hj, hdid.imp (·.skip hhistory hbeat) (·.skip hhistory hbeat)⟩

theorem steady_alternates {most : Nat} : Steady (Alternates m₀ most) where
  script _ _ _ hm := hm
  quiet _ _ hquiet hm := hm.skip rfl (Event.beat?_of_isQuiet hquiet)

/-- Draining and sleeping by turns comes to an end: each sleep takes one from the sleeps that are
left, so with at most `k` of them the loop needs no more than `k + 1` drains. -/
theorem alternates_awaitForeground {most : Nat} (previous : SignalSet) (n : Nat) :
    Triple (fun m ↦ ∃ j k, j + k ≤ most ∧ k < n ∧
        Counted m₀ (Beat.rounds j) (Machine.Awaits · pid k) m)
      (awaitForeground pid previous n)
      { done := fun _ m ↦ m.state.Sound ∧ Alternates m₀ most m
        failed := fun _ m ↦ m.state.Sound ∧ Alternates m₀ most m
        exited := Alternates m₀ most } := by
  refine triple_awaitForeground_by_count
    (fun n m ↦ ∃ j k, j + k ≤ most ∧ k < n ∧
      Counted m₀ (Beat.rounds j) (Machine.Awaits · pid k) m)
    (fun n m ↦ ∃ j k, j + k ≤ most ∧ k ≤ n ∧
      Counted m₀ (Beat.rounds j ++ [.drain]) (Machine.Nears · pid k k) m) ?_ ?_ ?_ ?_ n
  · rintro n m ⟨j, k, hmost, hlt, hm⟩
    refine (counted_drain pid k).weaken ?_ m hm
    rintro (_ | error | status | _) m hm
    · exact ⟨j, k, hmost, Nat.le_of_lt_succ hlt, hm⟩
    · exact ⟨hm.1, j, by omega, Or.inl hm.2⟩
    · exact hm.elim
    · exact hm.elim
  · rintro n m ⟨⟨j, k, hmost, hle, hm⟩, hpid⟩
    have hjob := JobTable.mem_pids_of_foregroundPid? hpid
    cases k with
    -- At least one sleep is always left while the process has a job.
    | zero =>
      rcases hm.2.2 hjob with hnone | ⟨d, hd, -⟩
      · exact absurd (Nat.lt_of_lt_of_le (Machine.patience_pos []) hnone) (Nat.lt_irrefl 0)
      · exact absurd hd (Nat.not_lt_zero d)
    | succ k =>
      have hmask : (sleepMask previous).contains .childStatus = false := contains_sleepMask rfl
      have hrecorded : m₀.Did (Beat.rounds j ++ [.drain]) (m.recording (.sleepsFor pid)) :=
        hm.2.1.skip rfl rfl
      have hsame : m.SameOutlook (m.recording (.sleepsFor pid)) := ⟨rfl, rfl, rfl, rfl⟩
      refine (counted_suspend pid k hmask).imp ?_ ?_ (m.recording (.sleepsFor pid))
        ⟨⟨hm.1, hrecorded, hsame.nears id hm.2.2⟩, hjob⟩
      · intro _ m' hm'
        rw [← Beat.rounds_succ] at hm'
        exact ⟨j + 1, k, by omega, hle, hm'⟩
      · intro m' hm'
        rw [← Beat.rounds_succ] at hm'
        exact ⟨j + 1, by omega, Or.inl hm'⟩
  · rintro n m ⟨j, k, hmost, -, hm⟩ -
    exact ⟨hm.1, j, by omega, Or.inr hm.2.1⟩
  · rintro m ⟨j, k, -, hlt, -⟩
    exact Nat.not_lt_zero k hlt

/-- A wait ends, whatever the script, and its sleeps are bounded by what kept it going when it
began. -/
theorem alternates_waitFor (m : Machine) (hsound : m.state.Sound) :
    (waitFor pid m).1 ≠ .stalled ∧ Alternates m (m.patience []) (waitFor pid m).2 := by
  have hwait : Triple (Counted m [] fun m' ↦ m'.patience [] = m.patience []) (waitFor pid)
      { done := fun _ ↦ Alternates m (m.patience [])
        failed := fun _ ↦ Alternates m (m.patience [])
        exited := Alternates m (m.patience []) } := by
    refine triple_waitFor (fun _ ↦ Counted m [] fun m' ↦ m'.patience [] = m.patience [])
      (fun _ _ m' ↦ m'.state.Sound ∧ Alternates m (m.patience []) m') ?_ ?_ ?_ ?_ ?_ ?_ ?_
    · refine steady_counted fun _ _ hsame _ heq ↦ ?_
      rw [hsame.patience_eq, heq]
    · exact fun _ ↦ (steady_state State.Sound).and steady_alternates
    · exact fun _ hm ↦ hm.1.quit
    · rintro m' errno ⟨-, hdid, -⟩
      exact ⟨0, Nat.zero_le _, Or.inl (hdid.skip rfl rfl)⟩
    · rintro m' ⟨hsound, hdid, heq⟩
      have hquit : (m'.state.kernel.mask.union .noted).contains .quit = false := by
        rw [SignalSet.contains_union, hsound.heeds]
        rfl
      refine ⟨hsound.remasking hquit, hdid.skip rfl rfl, ?_⟩
      exact ((m'.sameOutlook_remasking _ _).patience_eq []).trans heq
    · intro previous n
      refine (alternates_awaitForeground pid previous n).of_imp ?_
      rintro m' ⟨⟨hsound, hdid, heq⟩, rfl⟩
      refine ⟨0, m.patience [], by omega, ?_, hsound, hdid, Or.inl (Nat.le_of_eq heq)⟩
      rw [← heq]
      exact m'.patience_lt_waitBound
    · intro previous result
      have hrestored : Triple (fun m' ↦ m'.state.Sound ∧ Alternates m (m.patience []) m')
          (restoreMask previous) { done := fun _ ↦ Alternates m (m.patience []) } :=
        triple_restoreMask ((steady_state State.Sound).and steady_alternates) steady_alternates
          (fun _ hm ↦ hm.1.quit) (fun _ _ hm ↦ hm.2.skip rfl rfl) fun _ hm ↦ hm.2.skip rfl rfl
      cases result with
      | ok value => exact hrestored
      | error error => exact hrestored
  have hpost := hwait m ⟨hsound, .refl m, rfl⟩
  generalize waitFor pid m = result at hpost ⊢
  obtain ⟨_ | error | status | _, m'⟩ := result
  · exact ⟨nofun, hpost⟩
  · exact ⟨nofun, hpost⟩
  · exact ⟨nofun, hpost⟩
  · exact hpost.elim

/-! ### The bound of the loop -/

/-- What the loop does once a drain is done. -/
theorem awaitForeground_of_drain {previous : SignalSet} (n : Nat) {m m' : Machine}
    (hdrain : drain m = (.done (), m')) : awaitForeground pid previous (n + 1) m =
      if m'.state.jobs.foregroundPid? = some pid then
        (Kernel.suspend (sleepMask previous) >>= fun _ ↦ awaitForeground pid previous n)
          (m'.recording (.sleepsFor pid))
      else (.done (), m') := by
  rw [awaitForeground, bind_of_done hdrain]
  show (if m'.state.jobs.foregroundPid? = some pid then _ else _ : Routine Unit) m' = _
  split
  · rfl
  · rfl

/-- A loop that ends within its bound does the same under every greater bound: the bound is no part
of what a wait does. -/
theorem awaitForeground_add {previous : SignalSet} {n : Nat} (more : Nat) {m : Machine}
    (h : (awaitForeground pid previous n m).1 ≠ .stalled) :
    awaitForeground pid previous (n + more) m = awaitForeground pid previous n m := by
  induction n generalizing m with
  | zero => exact absurd rfl h
  | succ n ih =>
    rw [Nat.succ_add]
    rcases hdrain : drain m with ⟨_ | error | status | _, m'⟩
    · rw [awaitForeground_of_drain pid n hdrain] at h
      rw [awaitForeground_of_drain pid n hdrain, awaitForeground_of_drain pid _ hdrain]
      split
      · next hpid =>
        rw [if_pos hpid] at h
        rcases hsleep : Kernel.suspend (sleepMask previous) (m'.recording (.sleepsFor pid)) with
          ⟨_ | error | status | _, m''⟩
        · rw [bind_of_done hsleep] at h
          rw [bind_of_done hsleep, bind_of_done hsleep]
          exact ih h
        · rw [bind_of_failed hsleep, bind_of_failed hsleep]
        · rw [bind_of_exited hsleep, bind_of_exited hsleep]
        · rw [bind_of_stalled hsleep, bind_of_stalled hsleep]
      · rfl
    · rw [awaitForeground, awaitForeground, bind_of_failed hdrain, bind_of_failed hdrain]
    · rw [awaitForeground, awaitForeground, bind_of_exited hdrain, bind_of_exited hdrain]
    · rw [awaitForeground, awaitForeground, bind_of_stalled hdrain, bind_of_stalled hdrain]

end Shell

end JobShell
