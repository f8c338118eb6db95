import JobShell.Proofs.ForegroundJobs
import JobShell.Proofs.SignalTargets

/-!
# Keys reach the job in the foreground alone

A key is passed on in a drain, after the drain has taken everything from the wait queue. By then the
job table agrees with the kernel, so the job in the foreground has not finished, and as long as no
fatal error has occurred it is the only one there. A kernel may hand out process ids that are no
proper ones, but a shell that has got such an id for a child does not come to a drain any more:
either it is that child, or it has failed with a fatal error.
-/

namespace JobShell

open Routine

/-! ### Proper process ids -/

/-- The phases from which no drain is reached: those of a child, and those after a fatal error. -/
def Phase.IsLost : Phase → Prop
  | restoring _ .child | reached .child => True
  | restoring _ (.failed error) | reached (.failed error) => error.recoverable = false
  | _ => False

/-- Unless the phase is lost, each process has a proper id, save one that was forked a moment
ago. -/
def Proper (p : Phase) (s : State) : Prop :=
  p.IsLost ∨ ∀ pid ∈ s.kernel.forked, 1 ≤ pid ∨ p.fresh? = some pid

namespace Proper

variable {p p' : Phase} {s s' : State} {m m' : Machine}

/-- Going on with the same processes, from a phase in which none was forked a moment ago. -/
theorem forget (h : Proper p s) (hforked : s'.kernel.forked = s.kernel.forked)
    (hlost : p.IsLost → p'.IsLost) (hfresh : p.fresh? = none) : Proper p' s' := by
  refine h.imp hlost fun hproper pid hpid ↦ Or.inl ?_
  rw [hforked] at hpid
  refine (hproper pid hpid).resolve_right fun hnow ↦ ?_
  rw [hfresh] at hnow
  cases hnow

/-- A new job has a proper id, and a process that gets none for its id is a reason to give up. -/
theorem settle {previous : SignalSet} {pid : Pid} {upshot : Upshot}
    (h : Proper (.forked previous pid) s) (hforked : s'.kernel.forked = s.kernel.forked)
    (hpid : 1 ≤ pid ∨ (Phase.restoring previous upshot).IsLost) :
    Proper (.restoring previous upshot) s' := by
  refine hpid.symm.imp_right fun hpos other hother ↦ Or.inl ?_
  rw [hforked] at hother
  rcases h.resolve_left id other hother with hproper | heq
  · exact hproper
  · exact Option.some.inj heq ▸ hpos

/-- Turning to another phase, no new process is at hand. -/
theorem turn (h : Proper p s) (hturn : Turn p s p') : Proper p' s := by
  cases hturn with
  | recover hrecoverable =>
    refine h.forget rfl (fun hlost ↦ ?_) rfl
    exact absurd (hrecoverable.symm.trans hlost) (by decide)
  | child => exact Or.inl trivial
  | unreadable site => cases site <;> exact h.forget rfl False.elim rfl
  | _ => exact h.forget rfl False.elim rfl

theorem record {event : Event} (h : Proper p s) (hremark : Remark p s event p') : Proper p' s := by
  cases hremark with
  | quiet => exact h
  | relay => exact h
  | drained site => cases site <;> exact h.forget rfl False.elim rfl
  | kill previous failure hne hadd =>
    refine h.settle rfl ?_
    rcases JobTable.add_eq_error_iff.1 hadd with ⟨-, rfl⟩ | ⟨hpos, -⟩
    · exact Or.inr rfl
    · exact Or.inl hpos
  | unrestored previous upshot => cases upshot <;> exact h.forget rfl id rfl
  | _ => exact h.forget rfl False.elim rfl

theorem changeJobs {change : JobChange} {table : JobTable} (h : Proper p s)
    (hrewrite : Rewrite p s change table p') : Proper p' { s with jobs := table } := by
  cases hrewrite with
  | add previous hne hadd =>
    obtain ⟨hpos, -⟩ := JobTable.exists_of_add hadd
    exact h.settle rfl (Or.inl hpos)
  | _ => exact h.forget rfl False.elim rfl

theorem spawn {previous : SignalSet} (h : Proper (.launching previous) m.state) :
    Proper (.forked previous m.state.kernel.nextPid) m.spawning.state := by
  refine Or.inr fun pid hpid ↦ ?_
  rcases List.mem_append.1 hpid with hold | hnew
  · exact Or.inl ((h.resolve_left id pid hold).resolve_right nofun)
  · exact Or.inr (congrArg some (List.mem_singleton.1 hnew).symm)

/-- Every move keeps the ids of all processes proper, or the phase is lost. -/
theorem move (h : Proper p m.state) (hmove : Move p m p' m') : Proper p' m'.state := by
  have hsame : (∀ previous, p ≠ .launching previous) → Proper p m'.state := by
    intro hp
    unfold Proper
    rcases hmove.forked_cases with ⟨hforked, -⟩ | ⟨⟨previous, heq⟩, -⟩
    · rw [hforked]
      exact h
    · exact absurd heq (hp previous)
  cases hmove with
  | same hstate =>
    rw [hstate]
    exact h
  | turn hturn => exact h.turn hturn
  | record hremark => exact h.record hremark
  | happen what hopen =>
    refine hsame fun previous heq ↦ ?_
    rw [heq] at hopen
    exact hopen
  | takeNoted site => split <;> cases site <;> exact h.forget rfl False.elim rfl
  | takeEntry => exact h.forget rfl False.elim rfl
  | changeJobs hrewrite => exact h.changeJobs hrewrite
  | remask hremask =>
    cases hremask with
    | restore mask previous upshot => cases upshot <;> exact (hsame nofun).forget rfl id rfl
    | _ => exact (hsame nofun).forget rfl False.elim rfl
  | spawn => exact h.spawn
  | sleep => exact h.forget rfl False.elim rfl
  | endAll => exact hsame nofun
  | wake => exact (hsame nofun).forget rfl False.elim rfl

end Proper

/-- On a path that only begins again where all is fine, every machine is proper. -/
theorem Path.proper {again : Phase → Prop} {start : Machine → Prop} {p : Phase} {m : Machine}
    (h : Path again start p m) (hagain : ∀ p, again p → p.IsFine)
    (hstart : ∀ m, start m → Proper .ready m.state) : Proper p m.state := by
  induction h with
  | start h => exact hstart _ h
  | move _ hmove ih => exact ih.move hmove
  | @again p m _ ha ih =>
    have hfine := hagain p ha
    cases p with
    | reached upshot =>
      cases upshot with
      | settled => exact ih.forget rfl False.elim rfl
      | failed error =>
        refine ih.forget rfl (fun hlost ↦ ?_) rfl
        exact absurd (hlost.symm.trans hfine) (by decide)
      | _ => exact hfine.elim
    | _ => exact hfine.elim

theorem proper_of_begins {session : Session} (m : Machine) (h : session.Begins m) :
    Proper .ready m.state := by
  rw [show m = session.initial from h]
  exact Or.inr nofun

theorem Phase.IsFine.isOver (p : Phase) (h : p.IsFine) : p.IsOver := by
  cases p with
  | reached upshot =>
    cases upshot with
    | settled => trivial
    | failed => trivial
    | _ => exact h.elim
  | _ => exact h.elim

/-! ### What a shell may rely on -/

/-- Nothing that happened at the moment keeps keys from reaching the right job: no wait fails
because of it, it is about a process that was forked before, and it is no failure to put a mask
back. -/
def Moment.isReliable (moment : Moment) : Bool :=
  match moment.event with
  | .happened (.child pid change) =>
    moment.state.kernel.forked.contains pid && (change.read? pid).isSome
  | .happened (.waitFailure _) => false
  | .call ⟨.changeMask .replace _, .errno _⟩ => false
  | _ => true

/-- A process with a proper id that was forked is one that the shell can be told of. -/
theorem isFaithful_of_isReliable {moment : Moment} (h : moment.isReliable = true)
    (hpids : ∀ pid ∈ moment.state.kernel.forked, 1 ≤ pid) : moment.isFaithful = true := by
  obtain ⟨event, s⟩ := moment
  cases event with
  | happened what =>
    cases what with
    | child pid change =>
      obtain ⟨hforked, hread⟩ := Bool.and_eq_true_iff.1 h
      have hpos : decide (1 ≤ pid) = true :=
        decide_eq_true (hpids pid (List.contains_iff_mem.1 hforked))
      exact Bool.and_eq_true_iff.2 ⟨Bool.and_eq_true_iff.2 ⟨hpos, hread⟩, hforked⟩
    | waitFailure errno => cases h
    | raised signal => rfl
  | call call =>
    obtain ⟨request, answer⟩ := call
    cases request with
    | changeMask how => cases how <;> cases answer <;> first | rfl | exact h
    | _ => rfl
  | _ => rfl

/-! ### Passing a key on -/

/-- The signals that keys are passed on as. -/
def Signal.IsKey (signal : Signal) : Prop := signal = .int ∨ signal = .tstp

instance (signal : Signal) : Decidable signal.IsKey :=
  inferInstanceAs (Decidable (signal = .int ∨ signal = .tstp))

/-- The key signals are sent only by a drain that is done with the wait queue, and to the job in the
foreground. -/
theorem Move.relays {p p' : Phase} {m m' : Machine} (h : Move p m p' m') :
    ∃ news, m'.history = news ++ m.history ∧ ∀ moment ∈ news, ∀ target signal answer,
      moment.event = .call ⟨.send target signal, answer⟩ → signal.IsKey →
        moment.state = m.state ∧ news = [moment] ∧ ∃ site pid, p = .relaying site ∧ target = -pid ∧
          m.state.jobs.foregroundPid? = some pid := by
  cases h with
  | same _ hhistory => exact ⟨[], hhistory, by simp⟩
  | turn => exact ⟨[], rfl, by simp⟩
  | @record _ _ _ event h =>
    refine ⟨[⟨event, m.state⟩], rfl, fun moment hmem target signal answer hevent hkey ↦ ?_⟩
    obtain rfl := List.mem_singleton.1 hmem
    obtain rfl : event = .call ⟨.send target signal, answer⟩ := hevent
    refine ⟨rfl, rfl, ?_⟩
    cases h with
    | quiet h => cases h
    | relay site failure hpid => exact ⟨site, _, rfl, rfl, hpid⟩
    | resume => exact absurd hkey (by decide)
    | unresumed => exact absurd hkey (by decide)
    | kill => exact absurd hkey (by decide)
  | happen what => exact ⟨[_], rfl, by simp⟩
  | takeNoted => exact ⟨[], rfl, by simp⟩
  | takeEntry => exact ⟨[_], rfl, by simp⟩
  | changeJobs => exact ⟨[_], rfl, by simp⟩
  | remask => exact ⟨[_], rfl, by simp⟩
  | spawn => exact ⟨[_], rfl, by simp⟩
  | sleep => exact ⟨[_, _], rfl, by simp⟩
  | endAll => exact ⟨[], rfl, by simp⟩
  | wake => exact ⟨[], rfl, by simp⟩

/-- When a key is passed on, a path was doing this in a drain. -/
theorem Path.exists_of_relay {again : Phase → Prop} {start : Machine → Prop} {p : Phase}
    {m : Machine} (hstart : ∀ m, start m → m.history = []) (h : Path again start p m)
    {moment : Moment} {later earlier : Trace} (hsplit : m.history = later ++ moment :: earlier)
    {target : Pid} {signal : Signal} {answer : Answer}
    (hevent : moment.event = .call ⟨.send target signal, answer⟩) (hkey : signal.IsKey) :
    ∃ site n pid, Path again start (.relaying site) n ∧ n.state = moment.state ∧
      n.history = earlier ∧ target = -pid ∧ n.state.jobs.foregroundPid? = some pid := by
  obtain ⟨q, n, q', n', after, before, hpath, hm, hhistory, rfl⟩ :=
    h.exists_move_of_history hstart hsplit
  obtain ⟨news, heq, hnews⟩ := hm.relays
  obtain rfl := List.append_cancel_right (heq.symm.trans hhistory)
  obtain ⟨hstate, hsingle, site, pid, rfl, htarget, hpid⟩ :=
    hnews moment (by simp) target signal answer hevent hkey
  obtain ⟨rfl, rfl⟩ : after = [] ∧ before = [] := by
    simpa [List.append_eq_cons_iff] using hsingle
  exact ⟨site, n, pid, hpath, hstate.symm, rfl, htarget, hpid⟩

/-- The one job in the foreground is the one that is found there. -/
theorem Disciplined.exists_foregroundJobs_eq {p : Phase} {table : JobTable} {pid : Pid}
    (h : Disciplined p table) (hnodup : table.pids.Nodup) (hpid : table.foregroundPid? = some pid) :
    ∃ job, table.foregroundJobs = [job] ∧ job.pid = pid := by
  obtain ⟨job, hfind, rfl⟩ := Option.map_eq_some_iff.1 hpid
  have hmem : job ∈ table.foregroundJobs := by
    refine List.mem_filter.2 ⟨List.mem_of_find?_eq_some hfind, ?_⟩
    simpa using List.find?_some hfind
  have hlength := h.length_foregroundJobs_le hnodup
  obtain ⟨only, honly⟩ := List.length_eq_one_iff.1
    (Nat.le_antisymm hlength (List.length_pos_of_mem hmem))
  rw [honly, List.mem_singleton] at hmem
  exact ⟨only, honly, by rw [hmem]⟩

/-! ### The order of a drain -/

/-- The call is a wait, or it sends a signal. -/
def Request.isWaitOrSend : Request → Bool
  | wait | send _ _ => true
  | _ => false

/-- The waits, and the signals that were sent, in order. -/
def Trace.waitsAndSends (trace : Trace) : List Call :=
  trace.calls.filter fun call ↦ call.request.isWaitOrSend

/-- What is seen of an event among the waits and the signals. -/
def Event.waitOrSend? (event : Event) : Option Call :=
  event.call?.filter fun call ↦ call.request.isWaitOrSend

theorem Event.waitOrSend?_of_isQuiet {event : Event} (h : event.isQuiet = true) :
    event.waitOrSend? = none := by
  cases event with
  | call call =>
    obtain ⟨request, answer⟩ := call
    cases request with
    | wait => cases h
    | send => cases h
    | _ => rfl
  | _ => rfl

/-- The last moment is listed last. -/
theorem Trace.waitsAndSends_cons (moment : Moment) (trace : Trace) :
    waitsAndSends (moment :: trace) = waitsAndSends trace ++ moment.event.waitOrSend?.toList := by
  have hview : ∀ trace : Trace, waitsAndSends trace = (events trace).filterMap Event.waitOrSend? :=
    fun trace ↦ List.filter_filterMap
  rw [hview, hview, events, List.map_cons, List.reverse_cons, List.filterMap_append]
  cases h : moment.event.waitOrSend? <;> simp [events, h]

/-- What was waited for and sent since `m₀` is as `p` says. -/
def Sent (m₀ : Machine) (p : List Call → Prop) (m : Machine) : Prop :=
  ∃ news, m.history = news ++ m₀.history ∧ p (Trace.waitsAndSends news)

namespace Sent

variable {m₀ m : Machine} {p q : List Call → Prop}

theorem record {event : Event} (h : Sent m₀ p m)
    (hq : ∀ calls, p calls → q (calls ++ event.waitOrSend?.toList)) :
    Sent m₀ q (m.recording event) := by
  obtain ⟨news, hhistory, hnews⟩ := h
  refine ⟨⟨event, m.state⟩ :: news, ?_, ?_⟩
  · rw [List.cons_append, ← hhistory]
    rfl
  · rw [Trace.waitsAndSends_cons]
    exact hq _ hnews

/-- Events that are no waits and send no signal are not seen. -/
theorem unseen {event : Event} (h : Sent m₀ p m) (hevent : event.waitOrSend? = none) :
    Sent m₀ p (m.recording event) := by
  refine h.record fun calls hcalls ↦ ?_
  rw [hevent, Option.toList_none, List.append_nil]
  exact hcalls

theorem steady : Steady (Sent m₀ p) where
  script _ _ _ h := h
  quiet _ _ hquiet h := h.unseen (Event.waitOrSend?_of_isQuiet hquiet)

end Sent

/-- Nothing but waits. -/
def AreWaits (calls : List Call) : Prop := ∀ call ∈ calls, call.request = .wait

/-- Nothing, or that the signal was sent. -/
def IsSend (signal : Signal) (call? : Option Call) : Prop :=
  ∀ call ∈ call?, ∃ target, call.request = .send target signal

/-- Waits, and then the interrupt signal or nothing. -/
def AreInterrupting (calls : List Call) : Prop :=
  ∃ waits int?, calls = waits ++ Option.toList int? ∧ AreWaits waits ∧ IsSend .int int?

/-- Waits, then the interrupt signal or nothing, then the suspend signal or nothing. -/
def AreInOrder (calls : List Call) : Prop :=
  ∃ waits int? tstp?, calls = waits ++ Option.toList int? ++ Option.toList tstp? ∧
    AreWaits waits ∧ IsSend .int int? ∧ IsSend .tstp tstp?

theorem isSend_none (signal : Signal) : IsSend signal none := fun _ hmem ↦ nomatch hmem

/-- After waits alone no interrupt need follow. -/
theorem AreWaits.areInterrupting {calls : List Call} (h : AreWaits calls) : AreInterrupting calls :=
  ⟨calls, none, (List.append_nil calls).symm, h, isSend_none .int⟩

/-- After an interrupt no suspend signal need follow. -/
theorem AreInterrupting.areInOrder {calls : List Call} (h : AreInterrupting calls) :
    AreInOrder calls := by
  obtain ⟨waits, int?, rfl, hwaits, hint⟩ := h
  exact ⟨waits, int?, none, (List.append_nil _).symm, hwaits, hint, isSend_none .tstp⟩

theorem Sent.imp {m₀ m : Machine} {p q : List Call → Prop} (h : Sent m₀ p m)
    (hpq : ∀ calls, p calls → q calls) : Sent m₀ q m := by
  obtain ⟨news, hhistory, hnews⟩ := h
  exact ⟨news, hhistory, hpq _ hnews⟩

namespace Shell

/-- A pass over the wait queue waits, and sends nothing. -/
theorem triple_reap_waits (m₀ : Machine) :
    Triple (Sent m₀ AreWaits) reap
      { done := fun _ ↦ Sent m₀ AreWaits, failed := fun _ ↦ Sent m₀ AreWaits } := by
  have hsteady : Steady (Sent m₀ AreWaits) := Sent.steady
  have hwait : ∀ {m : Machine} (entry : WaitEntry) (rest : List WaitEntry), Sent m₀ AreWaits m →
      Sent m₀ AreWaits (m.taking entry rest) := by
    intro m entry rest hm
    refine Sent.record (m := m.withKernel fun k ↦ { k with waitQueue := rest }) hm
      fun calls hcalls ↦ List.forall_mem_append.2 ⟨hcalls, ?_⟩
    exact List.forall_mem_singleton.2 rfl
  refine triple_reap (triple_reapAll hsteady (fun _ ↦ hsteady) ?_ ?_ ?_ ?_ ?_ ?_)
  · refine fun m answer hm _ ↦ hm.record fun calls hcalls ↦
      List.forall_mem_append.2 ⟨hcalls, ?_⟩
    exact List.forall_mem_singleton.2 rfl
  · exact fun m entry rest hm _ _ ↦ hwait entry rest hm
  · exact fun m entry rest errno hm _ _ _ ↦ hwait entry rest hm
  · exact fun m entry rest status hm _ _ ↦ (hwait entry rest hm).unseen rfl
  · intro status m change table hm _
    exact Sent.unseen (m := m.withState { m.state with jobs := table }) hm rfl
  · exact fun status m hm _ ↦ hm

/-- A drain waits first, and then passes on each key at most once, the interrupt key first. -/
theorem triple_drain_in_order (m₀ : Machine) :
    Triple (fun m ↦ m = m₀) drain
      { done := fun _ ↦ Sent m₀ AreInOrder, failed := fun _ ↦ Sent m₀ AreInOrder } := by
  have hstart : ∀ m, m = m₀ → Sent m₀ AreWaits m.takingNoted := by
    rintro m rfl
    exact ⟨[], rfl, nofun⟩
  have hint : Triple (Sent m₀ AreWaits) (relay .int)
      { done := fun _ ↦ Sent m₀ AreInterrupting } := by
    refine triple_relay Sent.steady Sent.steady (fun m pid failure hm _ ↦ ?_) ?_
    · refine hm.record fun calls hcalls ↦ ⟨calls, some _, rfl, hcalls, fun call hmem ↦ ?_⟩
      obtain rfl := Option.some.inj hmem
      exact ⟨-pid, rfl⟩
    · exact fun m hm _ ↦ hm.imp fun _ ↦ AreWaits.areInterrupting
  have htstp : Triple (Sent m₀ AreInterrupting) (relay .tstp)
      { done := fun _ ↦ Sent m₀ AreInOrder } := by
    refine triple_relay Sent.steady Sent.steady (fun m pid failure hm _ ↦ ?_) ?_
    · refine hm.record ?_
      rintro calls ⟨waits, int?, rfl, hwaits, hint⟩
      refine ⟨waits, int?, some _, rfl, hwaits, hint, fun call hmem ↦ ?_⟩
      obtain rfl := Option.some.inj hmem
      exact ⟨-pid, rfl⟩
    · exact fun m hm _ ↦ hm.imp fun _ ↦ AreInterrupting.areInOrder
  refine triple_drain_by_stages Sent.steady Sent.steady Sent.steady (fun m hm _ ↦ hstart m hm)
    (fun m hm _ ↦ hstart m hm) ?_ hint ?_ htstp ?_ ?_
  · refine (triple_reap_waits m₀).weaken ?_
    rintro (value | error | status | _) m hm
    · exact hm
    · exact Sent.imp hm fun _ hwaits ↦ hwaits.areInterrupting.areInOrder
    · exact hm
    · exact hm
  · exact fun m hm ↦ hm.imp fun _ ↦ AreWaits.areInterrupting
  · exact fun m hm ↦ hm.imp fun _ ↦ AreInterrupting.areInOrder
  · exact fun m hm ↦ hm.unseen rfl

/-- A drain of any machine waits first, then sends its signals in order. -/
theorem sent_of_drain (m : Machine) : Sent m AreInOrder (drain m).2 := by
  have hdrain := triple_drain_in_order m m rfl
  generalize drain m = result at hdrain ⊢
  obtain ⟨value | error | status | _, m'⟩ := result
  · exact hdrain
  · exact hdrain
  · exact hdrain.elim
  · exact hdrain.elim

end Shell

/-- **Keys reach the one job in the foreground, while it lives.** Take a step of a session before
which no fatal error occurred, and let everything up to its end be about children that were forked
before and can be waited for, and let every mask be put back. Then whenever the interrupt or the
suspend signal was sent, there was exactly one job in the foreground, the signal went to its process
group, and its process was alive. Whatever was noted before, a drain waits first, and then sends the
interrupt signal at most once and after it the suspend signal at most once. -/
theorem relays_reach_live_foreground (session : Session) {earlier later : List Report}
    {report : Report} (hsplit : session.run = earlier ++ report :: later)
    (hearlier : ∀ before ∈ earlier, before.ending.isFatal = false)
    (hreliable : ∀ moment ∈ report.machine.history, moment.isReliable = true) :
    (∀ moment ∈ report.machine.history, ∀ target signal answer,
      moment.event = .call ⟨.send target signal, answer⟩ → signal = .int ∨ signal = .tstp →
        ∃ job, moment.state.jobs.foregroundJobs = [job] ∧ target = -job.pid ∧
          job.pid ∈ moment.state.kernel.alive) ∧
      ∀ m, ∃ news waits int? tstp?, (Shell.drain m).2.history = news ++ m.history ∧
        news.waitsAndSends = waits ++ Option.toList int? ++ Option.toList tstp? ∧
        (∀ call ∈ waits, call.request = .wait) ∧
        (∀ call ∈ int?, ∃ target, call.request = .send target .int) ∧
        ∀ call ∈ tstp?, ∃ target, call.request = .send target .tstp := by
  have hsound := session.sound_of_begins
  have hbegins := session.history_of_begins
  constructor
  · intro moment hmem target signal answer hevent hkey
    obtain ⟨p, hpath⟩ : OnPath Phase.IsFine session.Begins report.machine :=
      (session.leaves_of_run trivial hsplit fun before hmem ↦
        survives_of_isFatal (hearlier before hmem)).onPath
    obtain ⟨after, before, hhistory⟩ := List.append_of_mem hmem
    obtain ⟨site, n, pid, hn, hstate, rfl, rfl, hpid⟩ :=
      hpath.exists_of_relay hbegins hhistory hevent hkey
    have hfaithful : ∀ other ∈ n.history, other.isFaithful = true := by
      have hpids : ∀ pid ∈ n.state.kernel.forked, 1 ≤ pid := fun pid hpid ↦
        ((hn.proper (fun _ ↦ id) proper_of_begins).resolve_left id pid hpid).resolve_right nofun
      intro other hother
      refine isFaithful_of_isReliable (hreliable other ?_) fun pid hpid ↦
        hpids pid (hn.forked_of_mem_history hbegins other hother hpid)
      rw [hhistory]
      exact List.mem_append_right _ (List.mem_cons_of_mem _ hother)
    have hover : Path Phase.IsOver session.Begins (.relaying site) n := hn.mono Phase.IsFine.isOver
    have hwakeful : Wakeful (.relaying site) n.state := by
      refine hover.wakeful hsound wakeful_of_begins ?_ nofun
      exact fun other hother ↦ isTold_of_isFaithful (hfaithful other hother)
    obtain ⟨hunmasked, htracked⟩ :=
      hover.tracked hsound wakeful_of_begins unmasked_and_tracked_of_begins hfaithful
    obtain ⟨job, hjobs, rfl⟩ := (hn.disciplined (fun _ ↦ id) hsound
      disciplined_of_begins).exists_foregroundJobs_eq (hn.sound hsound).state.nodup hpid
    rw [← hstate]
    refine ⟨job, hjobs, rfl, ?_⟩
    exact (((htracked.agrees hwakeful hunmasked).2 job.pid).1
      (JobTable.mem_pids_of_foregroundPid? hpid)).2
  · intro m
    obtain ⟨news, hhistory, waits, int?, tstp?, hcalls, hwaits, hint, htstp⟩ :=
      Shell.sent_of_drain m
    exact ⟨news, waits, int?, tstp?, hhistory, hcalls, hwaits, hint, htstp⟩

/-- A session in which both keys are typed while a program runs in the foreground, which then ends,
and once more when it is gone. -/
def pestered : Session where
  steps := [⟨.line "nap", { batches := [[.raised .suspend, .raised .interrupt, .raised .interrupt],
    [.raised .interrupt, .child 1001 (.signaled 2 false)]] }⟩]

/-- The interrupt key reaches the program, which lives, once for the two times it was typed. -/
theorem relays_reach_of_pestered : (∀ report ∈ pestered.run, report.ending.isFatal = false) ∧
    (∀ moment ∈ pestered.history, moment.isReliable = true) ∧
      ∃ moment ∈ pestered.history, moment.event = .call ⟨.send (-1001) .int, .number 0⟩ ∧
        1001 ∈ moment.state.kernel.alive ∧ ∃ job, moment.state.jobs.foregroundJobs = [job] := by
  have hfatal : ∀ report ∈ pestered.run, report.ending.isFatal = false := by decide +kernel
  have hreliable : ∀ moment ∈ pestered.history, moment.isReliable = true := by decide +kernel
  have hsends : ∃ moment ∈ pestered.history,
      moment.event = .call ⟨.send (-1001) .int, .number 0⟩ := by decide +kernel
  obtain ⟨moment, hmem, hevent⟩ := hsends
  have hsplit : pestered.run = pestered.run.dropLast ++ pestered.last :: [] :=
    (List.dropLast_append_getLast pestered.run_ne_nil).symm
  have hearlier : ∀ before ∈ pestered.run.dropLast, before.ending.isFatal = false :=
    fun before hbefore ↦ hfatal before (List.dropLast_subset _ hbefore)
  obtain ⟨job, hjobs, htarget, halive⟩ := (relays_reach_live_foreground pestered hsplit hearlier
    hreliable).1 moment hmem (-1001) .int _ hevent (Or.inl rfl)
  rw [← Int.neg_inj.1 htarget] at halive
  exact ⟨hfatal, hreliable, moment, hmem, hevent, halive, job, hjobs⟩

end JobShell
