import JobShell.Kernel.Calls
import JobShell.Proofs.Triple

/-!
# What the kernel does to a machine

Signals, occurrences and system calls as functions on machines, and the triples that follow. As
long as the quit key is not held back, delivering signals is always done, and what happens outside
either changes the machine in one way or ends the process.
-/

namespace JobShell

/-- The events noted once the handler of a signal has run. -/
def EventSet.noting (noted : EventSet) : Handled → EventSet
  | .childStatus => { noted with childStatus := true }
  | .interrupt => { noted with interrupt := true }
  | .suspend => { noted with suspend := true }
  | .quit => noted

namespace State

variable (s : State)

/-- The state with another kernel. -/
def withKernel (f : Kernel → Kernel) : State := { s with kernel := f s.kernel }

/-- The state after a signal was raised. -/
def raising (signal : Handled) : State :=
  if s.kernel.mask.contains signal then
    s.withKernel fun k ↦ { k with pending := k.pending.insert signal }
  else { s with noted := s.noted.noting signal }

/-- The state after a signal was delivered, if it is pending and `mask` lets it through. -/
def deliveringOne (mask : SignalSet) (signal : Handled) : State :=
  if s.kernel.pending.contains signal && !mask.contains signal then
    { s.withKernel fun k ↦ { k with pending := k.pending.erase signal } with
      noted := s.noted.noting signal }
  else s

/-- The state after all pending signals that `mask` lets through were delivered. -/
def delivering (mask : SignalSet) : State :=
  Handled.all.foldl (fun s signal ↦ s.deliveringOne mask signal) s

/-- The state once the processes `pids` have ended, before the shell is told. -/
def ending (pids : List Pid) : State :=
  s.withKernel fun k ↦ pids.foldl (fun k pid ↦ k.post pid (.exited 0)) k

/-- The state once something happened outside, before the shell is told. -/
def undergoing : Occurrence → State
  | .child pid change => s.withKernel (·.post pid change)
  | .waitFailure errno => s.withKernel (·.postFailure errno)
  | .raised _ => s

/-- The state with other signals pending and other events noted. -/
def signalled (pending : SignalSet) (noted : EventSet) : State :=
  { s with noted, kernel := { s.kernel with pending } }

/-- The state under another mask, before signals are delivered that it lets through. -/
def masked (how : MaskChange) (signals : SignalSet) : State :=
  s.withKernel fun k ↦ { k with mask := Kernel.maskAfter how signals k.mask }

/-- The shell was told of a child, or will be once the signal is let through. -/
def IsWoken : Prop := s.noted.childStatus = true ∨ s.kernel.pending.childStatus = true

/-! ### What signals change -/

theorem childStatus_noting {noted : EventSet} (h : noted.childStatus = true) (signal : Handled) :
    (noted.noting signal).childStatus = true := by
  cases signal with
  | childStatus => rfl
  | _ => exact h

/-- Raising a signal touches nothing but what is pending and noted. -/
theorem exists_raising (signal : Handled) : ∃ pending noted,
    s.raising signal = s.signalled pending noted ∧
      (∀ other, pending.contains other = true →
        s.kernel.pending.contains other = true ∨ s.kernel.mask.contains other = true) ∧
      (s.IsWoken ∨ signal = .childStatus → (s.signalled pending noted).IsWoken) := by
  unfold raising
  split
  · next hmask =>
    refine ⟨s.kernel.pending.insert signal, s.noted, rfl, fun other hother ↦ ?_, fun h ↦ ?_⟩
    · rw [SignalSet.contains_insert, Bool.or_eq_true, decide_eq_true_eq] at hother
      rcases hother with hother | rfl
      · exact Or.inl hother
      · exact Or.inr hmask
    · show _ ∨ (s.kernel.pending.insert signal).contains .childStatus = true
      rw [SignalSet.contains_insert, Bool.or_eq_true, decide_eq_true_eq]
      rcases h with (h | h) | rfl
      · exact Or.inl h
      · exact Or.inr (Or.inl h)
      · exact Or.inr (Or.inr rfl)
  · refine ⟨s.kernel.pending, s.noted.noting signal, rfl, fun other hother ↦ Or.inl hother, ?_⟩
    rintro ((h | h) | rfl)
    · exact Or.inl (childStatus_noting h signal)
    · exact Or.inr h
    · exact Or.inl rfl

theorem isWoken_raising {signal : Handled} (h : s.IsWoken ∨ signal = .childStatus) :
    (s.raising signal).IsWoken := by
  obtain ⟨pending, noted, heq, -, hwoken⟩ := s.exists_raising signal
  rw [heq]
  exact hwoken h

theorem isWoken_undergoing (h : s.IsWoken) (what : Occurrence) : (s.undergoing what).IsWoken := by
  cases what with
  | child => exact h
  | waitFailure => exact h
  | raised => exact h

theorem contains_pending_deliveringOne (mask : SignalSet) (signal other : Handled) :
    (s.deliveringOne mask signal).kernel.pending.contains other =
      (s.kernel.pending.contains other && (mask.contains other || decide (other ≠ signal))) := by
  unfold State.deliveringOne
  split
  · next h =>
    rw [Bool.and_eq_true, Bool.not_eq_true'] at h
    show (s.kernel.pending.erase signal).contains other = _
    rw [SignalSet.contains_erase]
    by_cases hother : other = signal
    · subst hother
      simp [h.2]
    · simp [hother]
  · next h =>
    by_cases hother : other = signal
    · subst hother
      cases hp : s.kernel.pending.contains other <;> cases hm : mask.contains other <;> simp_all
    · simp [hother]

theorem exists_deliveringOne (mask : SignalSet) (signal : Handled) : ∃ pending noted,
    s.deliveringOne mask signal = s.signalled pending noted ∧
      (s.IsWoken → (s.signalled pending noted).IsWoken) := by
  unfold deliveringOne
  split
  · refine ⟨s.kernel.pending.erase signal, s.noted.noting signal, rfl, ?_⟩
    rintro (h | h)
    · exact Or.inl (childStatus_noting h signal)
    · by_cases hsignal : signal = .childStatus
      · exact Or.inl (by rw [hsignal]; rfl)
      · refine Or.inr ?_
        show (s.kernel.pending.erase signal).contains .childStatus = true
        rw [SignalSet.contains_erase, decide_eq_false fun heq ↦ hsignal heq.symm, Bool.not_false,
          Bool.and_true]
        exact h
  · exact ⟨s.kernel.pending, s.noted, rfl, id⟩

/-- Delivering signals touches nothing but what is pending and noted. What is held back stays
pending. -/
theorem exists_delivering (mask : SignalSet) : ∃ pending noted,
    s.delivering mask = s.signalled pending noted ∧
      (∀ signal, pending.contains signal =
        (s.kernel.pending.contains signal && mask.contains signal)) ∧
      (s.IsWoken → (s.signalled pending noted).IsWoken) := by
  -- A fold over any list of signals lets out those of the list, and `Handled.all` lists all.
  have hall : ∀ (signals : List Handled) (s : State), ∃ pending noted,
      signals.foldl (fun s signal ↦ s.deliveringOne mask signal) s = s.signalled pending noted ∧
        (∀ signal, pending.contains signal = (s.kernel.pending.contains signal &&
          (mask.contains signal || decide (signal ∉ signals)))) ∧
        (s.IsWoken → (s.signalled pending noted).IsWoken) := by
    intro signals
    induction signals with
    | nil => exact fun s ↦ ⟨s.kernel.pending, s.noted, rfl, fun signal ↦ by simp, id⟩
    | cons first signals ih =>
      intro s
      obtain ⟨pending, noted, heq, hwoken⟩ := s.exists_deliveringOne mask first
      obtain ⟨pending', noted', heq', hpending', hwoken'⟩ := ih (s.deliveringOne mask first)
      rw [heq] at heq' hwoken'
      refine ⟨pending', noted', ?_, fun signal ↦ ?_, fun h ↦ hwoken' (hwoken h)⟩
      · rw [List.foldl_cons, heq, heq']
        rfl
      · rw [hpending', contains_pending_deliveringOne]
        rw [Bool.and_assoc]
        cases hmask : mask.contains signal with
        | true => simp
        | false => simp
  obtain ⟨pending, noted, heq, hpending, hwoken⟩ := hall Handled.all s
  refine ⟨pending, noted, heq, fun signal ↦ ?_, hwoken⟩
  rw [hpending, decide_eq_false fun hnot ↦ hnot (Handled.mem_all signal), Bool.or_false]

@[simp] theorem jobs_raising (signal : Handled) : (s.raising signal).jobs = s.jobs := by
  obtain ⟨pending, noted, heq, -⟩ := s.exists_raising signal
  rw [heq]
  rfl

@[simp] theorem jobs_delivering (mask : SignalSet) : (s.delivering mask).jobs = s.jobs := by
  obtain ⟨pending, noted, heq, -⟩ := s.exists_delivering mask
  rw [heq]
  rfl

@[simp] theorem jobs_undergoing (what : Occurrence) : (s.undergoing what).jobs = s.jobs := by
  cases what <;> rfl

@[simp] theorem waitQueue_raising (signal : Handled) :
    (s.raising signal).kernel.waitQueue = s.kernel.waitQueue := by
  obtain ⟨pending, noted, heq, -⟩ := s.exists_raising signal
  rw [heq]
  rfl

@[simp] theorem waitQueue_delivering (mask : SignalSet) :
    (s.delivering mask).kernel.waitQueue = s.kernel.waitQueue := by
  obtain ⟨pending, noted, heq, -⟩ := s.exists_delivering mask
  rw [heq]
  rfl

@[simp] theorem forked_raising (signal : Handled) :
    (s.raising signal).kernel.forked = s.kernel.forked := by
  obtain ⟨pending, noted, heq, -⟩ := s.exists_raising signal
  rw [heq]
  rfl

@[simp] theorem forked_delivering (mask : SignalSet) :
    (s.delivering mask).kernel.forked = s.kernel.forked := by
  obtain ⟨pending, noted, heq, -⟩ := s.exists_delivering mask
  rw [heq]
  rfl

@[simp] theorem forked_undergoing (what : Occurrence) :
    (s.undergoing what).kernel.forked = s.kernel.forked := by
  cases what <;> rfl

/-- What the mask of a sleep lets through is not left pending. -/
theorem childStatus_noted_delivering {mask : SignalSet} (h : s.IsWoken)
    (hmask : mask.contains .childStatus = false) :
    (s.delivering mask).noted.childStatus = true := by
  obtain ⟨pending, noted, heq, hpending, hwoken⟩ := s.exists_delivering mask
  rw [heq]
  refine (hwoken h).resolve_right fun hheld ↦ ?_
  have hlet := hpending .childStatus
  rw [hmask, Bool.and_false] at hlet
  exact absurd (hlet.symm.trans hheld) Bool.false_ne_true

end State

/-- The signal by which the shell is told. -/
def Occurrence.signal : Occurrence → Handled
  | child _ _ | waitFailure _ => .childStatus
  | raised signal => signal

/-- The entry that the event adds to the wait queue. -/
def Event.posted? : Event → Option WaitEntry
  | happened (.child pid change) => some (.status pid change)
  | happened (.waitFailure errno) => some (.failure errno)
  | _ => none

theorem State.waitQueue_undergoing (s : State) (what : Occurrence) :
    (s.undergoing what).kernel.waitQueue =
      s.kernel.waitQueue ++ (Event.happened what).posted?.toList := by
  cases what with
  | child pid change => rfl
  | waitFailure errno => rfl
  | raised signal => exact (List.append_nil _).symm

namespace Machine

variable (m : Machine)

/-- The machine with another state. -/
def withState (s : State) : Machine := { m with state := s }

/-- The machine with another kernel. -/
def withKernel (f : Kernel → Kernel) : Machine := m.withState (m.state.withKernel f)

/-- The machine after a signal was raised. -/
def raising (signal : Handled) : Machine := m.withState (m.state.raising signal)

/-- The machine after the pending signals that `mask` lets through were delivered. -/
def delivering (mask : SignalSet) : Machine := m.withState (m.state.delivering mask)

/-- The machine after an occurrence that did not end the process. -/
def after (what : Occurrence) : Machine :=
  ((m.withState (m.state.undergoing what)).recording (.happened what)).raising what.signal

/-- The machine that the quit key leaves when it ends the process. -/
def quitting : Machine :=
  ((m.after (.raised .quit)).recording (.out (Kernel.quitNotice ++ "\n"))).recording
    (.call ⟨.leave 1, .never⟩)

/-- The machine after the mask was changed. -/
def remasking (how : MaskChange) (signals : SignalSet) : Machine :=
  let mask := Kernel.maskAfter how signals m.state.kernel.mask
  ((m.withKernel fun k ↦ { k with mask }).recording
    (.call ⟨.changeMask how signals, .number 0⟩)).delivering mask

/-- The machine after the processes `pids` were reported to have ended. -/
def endingAll (pids : List Pid) : Machine :=
  (m.withState (m.state.ending pids)).raising .childStatus

/-- The machine after a process was started. -/
def spawning : Machine :=
  (m.withKernel Kernel.spawn).recording (.call ⟨.fork, .number m.state.kernel.nextPid⟩)

/-- The machine after a wait took `entry` from the queue, which leaves `rest`. -/
def taking (entry : WaitEntry) (rest : List WaitEntry) : Machine :=
  (m.withKernel fun k ↦ { k with waitQueue := rest }).recording
    (.call ⟨.wait, Kernel.waitAnswer entry⟩)

/-- Why the next call of a kind fails, if it does. -/
def failure? (kind : Fallible) : Option Errno := (m.script.failures kind).headD none

/-- The machine once it is settled whether the next call of a kind fails. -/
def deciding (kind : Fallible) : Machine :=
  { m with
    script := { m.script with
      failures := fun k ↦ if k = kind then (m.script.failures kind).tail
        else m.script.failures k } }

/-- The machine after a call that has no effect on the kernel. -/
def attempting (kind : Fallible) (request : Request) : Machine :=
  (m.deciding kind).recording (.call ⟨request, .ofFailure (m.failure? kind)⟩)

@[simp] theorem state_withState (s : State) : (m.withState s).state = s := rfl

/-- After a change of the mask, what is still pending was pending before and is blocked now. -/
theorem exists_remasking (how : MaskChange) (signals : SignalSet) : ∃ pending noted,
    (m.remasking how signals).state = (m.state.masked how signals).signalled pending noted ∧
      (∀ signal, pending.contains signal = (m.state.kernel.pending.contains signal &&
        (Kernel.maskAfter how signals m.state.kernel.mask).contains signal)) ∧
      (m.state.IsWoken → (m.state.signalled pending noted).IsWoken) :=
  (m.state.masked how signals).exists_delivering (Kernel.maskAfter how signals m.state.kernel.mask)

end Machine

namespace Kernel

open Routine

variable {pre : Machine → Prop}

/-! ### Signals -/

theorem handle_apply {signal : Handled} (h : signal ≠ .quit) (m : Machine) :
    handle signal m =
      (.done (), m.withState { m.state with noted := m.state.noted.noting signal }) := by
  cases signal with
  | quit => exact absurd rfl h
  | interrupt => rfl
  | childStatus => rfl
  | suspend => rfl

/-- The quit key ends the process on the spot. -/
theorem handle_quit_apply (m : Machine) : handle .quit m =
    (.exited 1, (m.recording (.out (quitNotice ++ "\n"))).recording (.call ⟨.leave 1, .never⟩)) :=
  rfl

theorem raise_apply {signal : Handled} {m : Machine}
    (h : signal ≠ .quit ∨ m.state.kernel.mask.contains .quit = true) :
    raise signal m = (.done (), m.raising signal) := by
  show (if m.state.kernel.mask.contains signal = true then _
    else handle signal : Routine Unit) m = _
  unfold Machine.raising State.raising
  split
  · rfl
  · next hmask =>
    refine handle_apply ?_ m
    rintro rfl
    exact hmask (h.resolve_left fun hne ↦ hne rfl)

theorem deliver_apply {mask : SignalSet} {signal : Handled} {m : Machine}
    (h : m.state.kernel.pending.contains .quit = false) :
    deliver mask signal m = (.done (), m.withState (m.state.deliveringOne mask signal)) := by
  show (if (m.state.kernel.pending.contains signal && !mask.contains signal) = true then _
    else _ : Routine Unit) m = _
  unfold State.deliveringOne
  split
  · next hpending =>
    rw [Bool.and_eq_true] at hpending
    refine handle_apply ?_ _
    rintro rfl
    rw [h] at hpending
    exact absurd hpending.1 (by decide)
  · rfl

/-- Delivering signals is always done as long as the quit key is not pending. -/
theorem deliverAll_apply {mask : SignalSet} {m : Machine}
    (h : m.state.kernel.pending.contains .quit = false) :
    deliverAll mask m = (.done (), m.delivering mask) := by
  have hall : ∀ (signals : List Handled) (m : Machine),
      m.state.kernel.pending.contains .quit = false →
      signals.forM (deliver mask) m = (.done (),
        m.withState (signals.foldl (fun s signal ↦ s.deliveringOne mask signal) m.state)) := by
    intro signals
    induction signals with
    | nil => exact fun m _ ↦ rfl
    | cons signal signals ih =>
      intro m hm
      show (deliver mask signal >>= fun _ ↦ signals.forM (deliver mask)) m = _
      rw [bind_of_done (deliver_apply hm), ih]
      · rfl
      -- Delivering one signal makes no other pending, the quit key's least of all.
      · rw [Machine.state_withState, State.contains_pending_deliveringOne, hm, Bool.false_and]
  exact hall Handled.all m h

/-! ### Occurrences -/

/-- The quit key leaves no note. -/
theorem after_quit {m : Machine} (h : m.state.kernel.mask.contains .quit = false) :
    m.after (.raised .quit) = m.recording (.happened (.raised .quit)) := by
  show (m.recording (.happened (.raised .quit))).raising .quit = _
  unfold Machine.raising State.raising
  rw [Machine.state_recording, h]
  rfl

/-- The quit key ends the process on the spot, after it was recorded. -/
theorem happen_quit_apply {m : Machine} (h : m.state.kernel.mask.contains .quit = false) :
    happen (.raised .quit) m = (.exited 1, m.quitting) := by
  show (if m.state.kernel.mask.contains .quit = true then _ else handle .quit : Routine Unit)
    (m.recording (.happened (.raised .quit))) = _
  rw [h, Machine.quitting, after_quit h]
  exact handle_quit_apply _

/-- An occurrence changes the machine in one way. Only the quit key ends the process, and it does so
after it was recorded. -/
theorem happen_apply (what : Occurrence) (m : Machine) :
    happen what m = (.done (), m.after what) ∨
      what = .raised .quit ∧ m.state.kernel.mask.contains .quit = false ∧
        happen what m = (.exited 1, m.quitting) := by
  have hchild : Handled.childStatus ≠ .quit := by decide
  cases what with
  | child pid change => exact Or.inl (raise_apply (Or.inl hchild))
  | waitFailure errno => exact Or.inl (raise_apply (Or.inl hchild))
  | raised signal =>
    by_cases hquit : signal = .quit
    · subst hquit
      cases hmask : m.state.kernel.mask.contains .quit with
      | true => exact Or.inl (raise_apply (Or.inr hmask))
      | false => exact Or.inr ⟨rfl, rfl, happen_quit_apply hmask⟩
    · exact Or.inl (raise_apply (Or.inl hquit))

end Kernel

/-- A steady predicate that nothing that happens outside the shell can break. -/
structure Undisturbed (pre : Machine → Prop) : Prop extends Steady pre where
  /-- Anything may happen. -/
  after : ∀ (m : Machine) (what : Occurrence), pre m → pre (m.after what)
  /-- The shell may sleep. -/
  sleep : ∀ (m : Machine) (script : Script) (exhausted : Bool), pre m →
    pre { m with script, exhausted }

theorem Undisturbed.quitting {pre : Machine → Prop} (h : Undisturbed pre) {m : Machine}
    (hm : pre m) : pre m.quitting := h.quiet _ _ rfl (h.quiet _ _ rfl (h.after m _ hm))

/-- A fact that does not depend on the machine may be carried along. -/
theorem Undisturbed.given {fact : Prop} {pre : Machine → Prop} (h : Undisturbed pre) :
    Undisturbed fun m ↦ fact ∧ pre m where
  script m script hbatches hm := ⟨hm.1, h.script m script hbatches hm.2⟩
  quiet m event hquiet hm := ⟨hm.1, h.quiet m event hquiet hm.2⟩
  after m what hm := ⟨hm.1, h.after m what hm.2⟩
  sleep m script exhausted hm := ⟨hm.1, h.sleep m script exhausted hm.2⟩

namespace Kernel

open Routine

variable {pre : Machine → Prop}

theorem triple_happen (h : Undisturbed pre) (what : Occurrence) :
    Triple pre (happen what)
      { done := fun _ ↦ pre, exited := fun m' ↦ ∃ m, pre m ∧ m' = m.quitting } := by
  intro m hm
  rcases happen_apply what m with heq | ⟨-, -, heq⟩
  · rw [heq]
    exact h.after m what hm
  · rw [heq]
    exact ⟨m, hm, rfl⟩

/-- Several things that happen in turn: what holds before each of them may depend on what is still
to happen. If they end the process, then it was the quit key that did. -/
theorem triple_happenAll_in_turn {before : List Occurrence → Machine → Prop}
    {exited : Machine → Prop}
    (hafter : ∀ what rest m, before (what :: rest) m → before rest (m.after what))
    (hquit : ∀ what rest m, before (what :: rest) m → exited m.quitting) :
    ∀ occurrences, Triple (before occurrences) (happenAll occurrences)
      { done := fun _ ↦ before [], exited }
  | [] => triple_pure fun _ hm ↦ hm
  | what :: rest => by
    show Triple _ (happen what >>= fun _ ↦ happenAll rest) _
    refine Triple.bind (fun _ ↦ before rest) ?_ fun _ ↦ triple_happenAll_in_turn hafter hquit rest
    intro m hm
    rcases happen_apply what m with heq | ⟨-, -, heq⟩
    · rw [heq]
      exact hafter what rest m hm
    · rw [heq]
      exact hquit what rest m hm

theorem triple_happenAll (h : Undisturbed pre) (occurrences : List Occurrence) :
    Triple pre (happenAll occurrences)
      { done := fun _ ↦ pre, exited := fun m' ↦ ∃ m, pre m ∧ m' = m.quitting } :=
  triple_happenAll_in_turn (fun what _ m hm ↦ h.after m what hm) (fun _ _ m hm ↦ ⟨m, hm, rfl⟩)
    occurrences

/-! ### Calls -/

theorem nextFailure_apply (kind : Fallible) (m : Machine) :
    ∃ failure script, script.batches = m.script.batches ∧
      nextFailure kind m = (.done failure, { m with script }) :=
  ⟨_, (nextFailure kind m).2.script, rfl, rfl⟩

theorem nextFailure_eq (kind : Fallible) (m : Machine) :
    nextFailure kind m = (.done (m.failure? kind), m.deciding kind) := rfl

theorem attemptCall_apply (kind : Fallible) (request : Request) (m : Machine) :
    attemptCall kind request m = (.done (m.failure? kind), m.attempting kind request) := rfl

/-- A call without effect leaves its record, whatever it answers. -/
theorem triple_attemptCall (h : Steady pre) {kind : Fallible} {request : Request}
    {post : Option Errno → Machine → Prop}
    (hcall : ∀ m failure, pre m →
      post failure (m.recording (.call ⟨request, .ofFailure failure⟩))) :
    Triple pre (attemptCall kind request) { done := post } := by
  intro m hm
  exact hcall _ _ (h.script m _ rfl hm)

/-- A call without effect that the shell does not depend on leaves nothing but its record. -/
theorem triple_quietCall (h : Steady pre) {kind : Fallible} {request : Request}
    (hquiet : ∀ answer, (Event.call ⟨request, answer⟩).isQuiet = true) :
    Triple pre (attemptCall kind request) { done := fun _ ↦ pre } :=
  triple_attemptCall h fun m _ hm ↦ h.quiet m _ (hquiet _) hm

theorem changeMask_of_none {m m' : Machine} {how : MaskChange} {signals : SignalSet}
    (hnext : nextFailure .changeMask m = (.done none, m'))
    (hquit : m'.state.kernel.pending.contains .quit = false) :
    changeMask how signals m = (.done (.ok m'.state.kernel.mask), m'.remasking how signals) := by
  unfold changeMask
  rw [bind_of_done hnext]
  let mask := maskAfter how signals m'.state.kernel.mask
  have hdeliver : deliverAll mask ((m'.withKernel fun k ↦ { k with mask }).recording
      (.call ⟨.changeMask how signals, .number 0⟩)) = (.done (), m'.remasking how signals) :=
    deliverAll_apply hquit
  exact bind_of_done hdeliver

theorem changeMask_of_some {m m' : Machine} {how : MaskChange} {signals : SignalSet} {errno : Errno}
    (hnext : nextFailure .changeMask m = (.done (some errno), m')) :
    changeMask how signals m =
      (.done (.error errno), m'.recording (.call ⟨.changeMask how signals, .errno errno⟩)) := by
  unfold changeMask
  rw [bind_of_done hnext]
  rfl

/-- Changing the mask fails without effect, or is done and delivers what is no longer blocked. -/
theorem triple_changeMask (h : Steady pre) {how : MaskChange} {signals : SignalSet}
    {post : Except Errno SignalSet → Machine → Prop}
    (hquit : ∀ m, pre m → m.state.kernel.pending.contains .quit = false)
    (hfail : ∀ m errno, pre m →
      post (.error errno) (m.recording (.call ⟨.changeMask how signals, .errno errno⟩)))
    (hdone : ∀ m, pre m → post (.ok m.state.kernel.mask) (m.remasking how signals)) :
    Triple pre (changeMask how signals) { done := post } := by
  intro m hm
  obtain ⟨failure, script, hbatches, hnext⟩ := nextFailure_apply .changeMask m
  have hm' := h.script m script hbatches hm
  cases failure with
  | none =>
    rw [changeMask_of_none hnext (hquit _ hm')]
    exact hdone _ hm'
  | some errno =>
    rw [changeMask_of_some hnext]
    exact hfail _ errno hm'

/-! ### Sleeping -/

theorem endChildren_apply (m : Machine) : endChildren m = (.done (),
    ({ m with exhausted := true } : Machine).endingAll
      (if m.exhausted then m.state.kernel.forked else m.state.kernel.alive)) := by
  have hpost : ∀ (pids : List Pid) (m : Machine),
      (pids.forM fun pid ↦ modifyKernel (·.post pid (.exited 0))) m = (.done (),
        m.withState (m.state.ending pids)) := by
    intro pids
    induction pids with
    | nil => exact fun m ↦ rfl
    | cons pid pids ih =>
      intro m
      exact ih (m.withKernel (·.post pid (.exited 0)))
  have hraise : ∀ m, raise .childStatus m = (.done (), m.raising .childStatus) :=
    fun m ↦ raise_apply (Or.inl (by decide))
  show (List.forM (if m.exhausted then m.state.kernel.forked else m.state.kernel.alive) _ >>=
    fun _ ↦ raise .childStatus : Routine Unit) { m with exhausted := true } = _
  rw [bind_of_done (hpost _ _), hraise]
  rfl

/-- Reporting the end of some processes queues one status for each and leaves none of them alive. -/
theorem foldl_post_exited (pids : List Pid) (kernel : Kernel) :
    ∃ alive, pids.foldl (fun k pid ↦ k.post pid (.exited 0)) kernel =
        { kernel with
          alive
          waitQueue := kernel.waitQueue ++ pids.map fun pid ↦ .status pid (.exited 0) } ∧
      ∀ pid, pid ∈ alive ↔ pid ∈ kernel.alive ∧ pid ∉ pids := by
  induction pids generalizing kernel with
  | nil => exact ⟨kernel.alive, by simp, by simp⟩
  | cons first pids ih =>
    obtain ⟨alive, heq, halive⟩ := ih (kernel.post first (.exited 0))
    refine ⟨alive, ?_, fun pid ↦ ?_⟩
    · rw [List.foldl_cons, heq]
      simp [Kernel.post]
    · rw [halive]
      show pid ∈ kernel.alive.filter (· ≠ first) ∧ pid ∉ pids ↔ _
      rw [List.mem_filter, List.mem_cons, not_or, decide_eq_true_eq, and_assoc]

/-- When processes are reported to have ended, their ends are queued and the shell is told. -/
theorem exists_endingAll (m : Machine) (pids : List Pid) :
    (m.endingAll pids).state.kernel.waitQueue =
        m.state.kernel.waitQueue ++ pids.map (WaitEntry.status · (.exited 0)) ∧
      (m.endingAll pids).state.kernel.forked = m.state.kernel.forked ∧
      (m.endingAll pids).state.IsWoken := by
  obtain ⟨alive, heq, -⟩ := foldl_post_exited pids m.state.kernel
  have hkernel : (m.state.ending pids).kernel = _ := heq
  refine ⟨?_, ?_, State.isWoken_raising _ (Or.inr rfl)⟩
  · show ((m.state.ending pids).raising .childStatus).kernel.waitQueue = _
    rw [State.waitQueue_raising, hkernel]
  · show ((m.state.ending pids).raising .childStatus).kernel.forked = _
    rw [State.forked_raising, hkernel]

/-- A sleep: the call is made, the next batch happens, and what the sleep lets through is delivered.
`asleep` may depend on what is still to happen of the batch. If no batch is left, all living
children end, or else all children there ever were. -/
theorem triple_suspend_by_batch (asleep : List Occurrence → Machine → Prop) {mask : SignalSet}
    {post exited : Machine → Prop}
    (hbatch : ∀ m batch batches, pre m → m.script.batches = batch :: batches →
      asleep batch { m.recording (.call ⟨.suspend mask, .errno .eintr⟩) with
        script := { m.script with batches } })
    (hended : ∀ m, pre m → m.script.batches = [] →
      asleep [] (({ m.recording (.call ⟨.suspend mask, .errno .eintr⟩) with
        exhausted := true } : Machine).endingAll
          (if m.exhausted then m.state.kernel.forked else m.state.kernel.alive)))
    (hafter : ∀ what rest m, asleep (what :: rest) m → asleep rest (m.after what))
    (hexited : ∀ what rest m, asleep (what :: rest) m → exited m.quitting)
    (hquit : ∀ m, asleep [] m → m.state.kernel.pending.contains .quit = false)
    (hwake : ∀ m, asleep [] m → post (m.delivering mask)) :
    Triple pre (suspend mask) { done := fun _ ↦ post, exited } := by
  have hdeliver : Triple (asleep []) (deliverAll mask) { done := fun _ ↦ post } := by
    intro m hm
    rw [deliverAll_apply (hquit m hm)]
    exact hwake m hm
  have hrecord : Triple pre (record (.call ⟨.suspend mask, .errno .eintr⟩))
      { done := fun _ m' ↦ ∃ m, m' = m.recording (.call ⟨.suspend mask, .errno .eintr⟩) ∧ pre m } :=
    fun m hm ↦ ⟨m, rfl, hm⟩
  have hnext : Triple
      (fun m' ↦ ∃ m, m' = m.recording (.call ⟨.suspend mask, .errno .eintr⟩) ∧ pre m) nextBatch
      { done := fun batch m' ↦ batch.elim
          (∃ m, m' = m.recording (.call ⟨.suspend mask, .errno .eintr⟩) ∧ pre m ∧
            m.script.batches = []) fun batch ↦ asleep batch m' } := by
    rintro _ ⟨m, rfl, hm⟩
    unfold nextBatch
    split
    · next hnil => exact ⟨m, rfl, hm, hnil⟩
    · next batch batches hcons => exact hbatch m batch batches hm hcons
  refine hrecord.andThen _ fun _ ↦ hnext.andThen _ fun batch ↦ ?_
  cases batch with
  | none =>
    refine Triple.andThen (fun _ ↦ asleep []) ?_ fun _ ↦ hdeliver.of_done fun _ _ hm ↦ hm
    rintro _ ⟨m, rfl, hm, hnil⟩
    rw [endChildren_apply]
    exact hended m hm hnil
  | some batch =>
    exact Triple.bind (fun _ ↦ asleep []) (triple_happenAll_in_turn hafter hexited batch)
      fun _ ↦ hdeliver.of_done fun _ _ hm ↦ hm

/-- A sleep in which the same holds all the time. -/
theorem triple_suspend {asleep : Machine → Prop} {mask : SignalSet}
    {post : Machine → Prop} (h : Undisturbed asleep)
    (hcall : ∀ m, pre m → asleep (m.recording (.call ⟨.suspend mask, .errno .eintr⟩)))
    (hended : ∀ m pids, pids = m.state.kernel.forked ∨ pids = m.state.kernel.alive →
      asleep m → asleep (m.endingAll pids))
    (hquit : ∀ m, asleep m → m.state.kernel.pending.contains .quit = false)
    (hwake : ∀ m, asleep m → post (m.delivering mask)) :
    Triple pre (suspend mask) { done := fun _ ↦ post, exited := asleep } := by
  refine triple_suspend_by_batch (fun _ ↦ asleep) (fun m _ _ hm _ ↦ ?_) (fun m hm _ ↦ ?_)
    (fun what _ m hm ↦ h.after m what hm) (fun _ _ _ hm ↦ h.quitting hm) hquit hwake
  · exact h.sleep _ _ m.exhausted (hcall m hm)
  · refine hended _ _ ?_ (h.sleep _ m.script true (hcall m hm))
    cases m.exhausted with
    | true => exact Or.inl rfl
    | false => exact Or.inr rfl

/-! ### Forking -/

/-- The rest of a fork that has started process `pid`. -/
def afterFork (child : Routine Empty) (pid : Pid) : Routine (Except Errno Pid) := do
  given (← machine).playsChildren (playChild child pid)
  happenAll (← nextAtFork)
  if pid = 0 then nomatch ← child else return .ok pid

theorem fork_of_some {child : Routine Empty} {m : Machine} {errno : Errno}
    (h : m.failure? .fork = some errno) : fork child m =
      (.done (.error errno), (m.deciding .fork).recording (.call ⟨.fork, .errno errno⟩)) := by
  have hnext : nextFailure .fork m = (.done (some errno), m.deciding .fork) := by
    rw [nextFailure_eq, h]
  exact bind_of_done hnext

theorem fork_of_none {child : Routine Empty} {m : Machine} (h : m.failure? .fork = none) :
    fork child m = afterFork child m.state.kernel.nextPid (m.deciding .fork).spawning := by
  have hnext : nextFailure .fork m = (.done none, m.deciding .fork) := by
    rw [nextFailure_eq, h]
  exact bind_of_done hnext

/-- Once a process was started, things happen, and only the process that is told 0 goes on as the
child. -/
theorem triple_afterFork {child : Routine Empty} {pid : Pid} {forked : Machine → Prop}
    {post : Except Errno Pid → Machine → Prop} {exited : Machine → Prop}
    (hopen : Undisturbed forked)
    (hplays : ∀ m, forked m → m.playsChildren = false)
    (hexited : ∀ m, forked m → exited m.quitting)
    (hparent : ∀ m, pid ≠ 0 → forked m → post (.ok pid) m)
    (hchild : pid = 0 → Triple forked child { done := fun _ _ ↦ True, exited }) :
    Triple forked (afterFork child pid) { done := post, exited } := by
  refine triple_machine fun m ↦ Triple.bind (fun _ ↦ forked) ?_ fun _ ↦ ?_
  · refine triple_given ?_ fun _ _ hm ↦ hm.1
    rintro hplay m' ⟨hm, rfl⟩
    rw [hplays m' hm] at hplay
    exact absurd hplay (by decide)
  have hbatch : Triple forked nextAtFork { done := fun _ ↦ forked } :=
    fun m hm ↦ hopen.script m _ rfl hm
  refine hbatch.andThen _ fun occurrences ↦ Triple.bind (fun _ ↦ forked) ?_ fun _ ↦ ?_
  · refine (triple_happenAll hopen occurrences).imp (fun _ _ hm ↦ hm) ?_
    rintro _ ⟨m, hm, rfl⟩
    exact hexited m hm
  split
  · next hzero => exact Triple.bind (fun _ _ ↦ True) (hchild hzero) fun never ↦ never.elim
  · next hne => exact triple_pure fun m hm ↦ hparent m hne hm

/-- A fork fails without effect, or starts a process. The kernel hands out its next process id,
whatever it is. -/
theorem triple_fork (h : Steady pre) {child : Routine Empty} {forked : Pid → Machine → Prop}
    {post : Except Errno Pid → Machine → Prop} {exited : Machine → Prop}
    (hopen : ∀ pid, Undisturbed (forked pid))
    (hplays : ∀ pid m, forked pid m → m.playsChildren = false)
    (hfail : ∀ m errno, pre m → post (.error errno) (m.recording (.call ⟨.fork, .errno errno⟩)))
    (hspawn : ∀ m, pre m → forked m.state.kernel.nextPid m.spawning)
    (hexited : ∀ pid m, forked pid m → exited m.quitting)
    (hparent : ∀ pid m, pid ≠ 0 → forked pid m → post (.ok pid) m)
    (hchild : Triple (forked 0) child { done := fun _ _ ↦ True, exited }) :
    Triple pre (fork child) { done := post, exited } := by
  intro m hm
  obtain ⟨failure, script, hbatches, hnext⟩ := nextFailure_apply .fork m
  have hm' := h.script m script hbatches hm
  unfold fork
  rw [bind_of_done hnext]
  cases failure with
  | some errno => exact hfail _ errno hm'
  | none =>
    have hstarted : ∀ pid, Triple (forked pid) (afterFork child pid) { done := post, exited } := by
      intro pid
      refine triple_afterFork (hopen pid) (hplays pid) (hexited pid) (hparent pid) ?_
      rintro rfl
      exact hchild
    exact hstarted _ _ (hspawn _ hm')

end Kernel

end JobShell
