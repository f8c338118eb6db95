import JobShell.Proofs.Forks

/-!
# What becomes of a child

A child makes the same calls whatever its command is: it leaves the shell's process group, puts the
mask back, resets the handlers and starts its program. It goes no further once it cannot leave the
group or reset a handler. So a program is started by a child that is ready for it or not at all, and
a child that starts none says why and ends.
-/

namespace JobShell

open Routine

/-! ### Calls up to a failure -/

/-- The list up to its first element with `p`, that element included. -/
def cutAfter {α : Type} (p : α → Bool) : List α → List α
  | [] => []
  | x :: xs => x :: if p x then [] else cutAfter p xs

section

variable {α : Type} {p : α → Bool} {xs : List α}

theorem cutAfter_append_of_none (h : ∀ x ∈ xs, p x = false) (ys : List α) :
    cutAfter p (xs ++ ys) = xs ++ cutAfter p ys := by
  induction xs with
  | nil => rfl
  | cons x xs ih =>
    obtain ⟨hx, hxs⟩ := List.forall_mem_cons.1 h
    rw [List.cons_append, cutAfter, hx, if_neg Bool.false_ne_true, ih hxs, List.cons_append]

theorem cutAfter_append_of_some (h : ∃ x ∈ xs, p x = true) (ys : List α) :
    cutAfter p (xs ++ ys) = cutAfter p xs := by
  induction xs with
  | nil => exact absurd h (by simp)
  | cons x xs ih =>
    rw [List.cons_append, cutAfter, cutAfter]
    cases hx : p x with
    | true => rfl
    | false =>
      have hxs : ∃ y ∈ xs, p y = true := by simpa [hx] using h
      rw [ih hxs]

theorem mem_of_mem_cutAfter {x : α} (h : x ∈ cutAfter p xs) : x ∈ xs := by
  induction xs with
  | nil => exact h
  | cons y xs ih =>
    rw [cutAfter, List.mem_cons] at h
    refine h.elim (fun heq ↦ heq ▸ List.mem_cons_self) fun hmem ↦ List.mem_cons_of_mem y (ih ?_)
    split at hmem
    · exact absurd hmem List.not_mem_nil
    · exact hmem

end

/-- The call failed, and no program is to be started after that. -/
def Call.stopsChild : Call → Bool
  | ⟨.setProcessGroup _ _, .errno _⟩ | ⟨.resetHandler _, .errno _⟩ => true
  | _ => false

/-! ### The life of a child -/

/-- What stands in the way of a child: why each of its calls fails, if it does. -/
structure Hindrances where
  /-- It cannot leave the shell's process group. -/
  group : Option Errno
  /-- The mask cannot be put back. -/
  mask : Option Errno
  /-- A handler cannot be reset. -/
  reset : Handled → Option Errno
  /-- Its program cannot be started. -/
  start : Option Errno

/-- A program that is started or was to be, with its arguments and the mask at that time. -/
structure Start where
  /-- The file that is asked for. -/
  file : String
  /-- The arguments, the program's name first. -/
  argv : List String
  /-- The mask under which the program is to run. -/
  mask : SignalSet
  deriving DecidableEq

namespace Hindrances

/-- The handlers in the order in which a child resets them. -/
def handlers : List Handled := [.childStatus, .interrupt, .suspend, .quit]

variable (h : Hindrances)

/-- Nothing keeps the child from being ready for its program. A mask that cannot be put back does
not. -/
def LeaveReady : Prop := h.group = none ∧ ∀ signal ∈ handlers, h.reset signal = none

instance : Decidable h.LeaveReady := inferInstanceAs (Decidable (_ ∧ _))

/-- The calls that reset handlers, with their answers. -/
def resets (signals : List Handled) : List Call :=
  signals.map fun signal ↦ ⟨.resetHandler signal, .ofFailure (h.reset signal)⟩

/-- The calls by which a child prepares itself, with their answers. -/
def preparation (previous : SignalSet) : List Call :=
  [⟨.setProcessGroup 0 0, .ofFailure h.group⟩,
    ⟨.changeMask .replace previous, .ofFailure h.mask⟩] ++ h.resets handlers

/-- All calls of a child up to its program, with their answers. -/
def calls (previous : SignalSet) (argv : List String) : List Call :=
  h.preparation previous ++ [⟨.execute argv, .ofFailure h.start⟩]

/-- What a child starts: its program if it is ready, and under the mask from before the launch
unless that cannot be put back. -/
def starts (previous mask : SignalSet) (program : String) (argv : List String) : List Start :=
  if h.LeaveReady then [⟨program, argv, if h.mask = none then previous else mask⟩] else []

/-- What a child does: its calls as far as it gets, what it says, and its last call. -/
def life (previous : SignalSet) (argv texts : List String) (farewell : List Call) : List Event :=
  (cutAfter Call.stopsChild (h.calls previous argv)).map .call ++ texts.map .err ++
    farewell.map .call

variable {h} {previous mask : SignalSet} {program : String} {argv : List String} {errno : Errno}

theorem stopsChild_reset (signal : Handled) :
    Call.stopsChild ⟨.resetHandler signal, .ofFailure (h.reset signal)⟩ =
      (h.reset signal).isSome := by
  cases h.reset signal <;> rfl

/-- A child that cannot leave the group makes no second call. -/
theorem cutAfter_preparation_of_ungrouped (hgroup : h.group = some errno) :
    cutAfter Call.stopsChild (h.preparation previous) =
      [⟨.setProcessGroup 0 0, .ofFailure h.group⟩] := by
  rw [preparation, hgroup]
  rfl

/-- No mask stops a child. -/
theorem cutAfter_preparation_of_grouped (hgroup : h.group = none) :
    cutAfter Call.stopsChild (h.preparation previous) =
      [⟨.setProcessGroup 0 0, .ofFailure h.group⟩] ++
        [⟨.changeMask .replace previous, .ofFailure h.mask⟩] ++
        cutAfter Call.stopsChild (h.resets handlers) := by
  rw [preparation, hgroup]
  rfl

/-- What stops a child is what keeps it from being ready. -/
theorem stopsChild_preparation_iff :
    (∃ call ∈ h.preparation previous, call.stopsChild = true) ↔ ¬h.LeaveReady := by
  have hgroup : Call.stopsChild ⟨.setProcessGroup 0 0, .ofFailure h.group⟩ = h.group.isSome := by
    cases h.group <;> rfl
  have hmask : Call.stopsChild ⟨.changeMask .replace previous, .ofFailure h.mask⟩ = false := rfl
  have hresets : (∃ call ∈ h.resets handlers, call.stopsChild = true) ↔
      ∃ signal ∈ handlers, h.reset signal ≠ none := by
    simp [resets, stopsChild_reset, Option.isSome_iff_ne_none]
  simp only [preparation, List.mem_append, or_and_right, exists_or, hresets]
  simp [LeaveReady, hgroup, hmask, Option.isSome_iff_ne_none, imp_iff_not_or]

/-- A child that is ready makes all its calls. -/
theorem cutAfter_calls_of_ready (hready : h.LeaveReady) :
    cutAfter Call.stopsChild (h.preparation previous) = h.preparation previous ∧
      cutAfter Call.stopsChild (h.calls previous argv) = h.calls previous argv := by
  have hnone : ∀ call ∈ h.preparation previous, call.stopsChild = false := by
    intro call hmem
    by_contra hstops
    exact stopsChild_preparation_iff.1 ⟨call, hmem, by simpa using hstops⟩ hready
  have hprepares := cutAfter_append_of_none hnone []
  rw [List.append_nil, cutAfter, List.append_nil] at hprepares
  refine ⟨hprepares, ?_⟩
  rw [calls, cutAfter_append_of_none hnone]
  rfl

theorem cutAfter_calls_of_not_ready (hnot : ¬h.LeaveReady) :
    cutAfter Call.stopsChild (h.calls previous argv) =
      cutAfter Call.stopsChild (h.preparation previous) :=
  cutAfter_append_of_some (stopsChild_preparation_iff.2 hnot) _

theorem starts_of_not_ready (hnot : ¬h.LeaveReady) : h.starts previous mask program argv = [] :=
  if_neg hnot

theorem starts_of_ready (hready : h.LeaveReady) : h.starts previous mask program argv =
    [⟨program, argv, if h.mask = none then previous else mask⟩] := if_pos hready

variable (h)

/-- How a child ends: its status, what it says, and its last call. A child whose program was started
says nothing, and its end is up to the program. -/
inductive Fate (program : String) : Nat → List String → List Call → Prop
  | ungrouped {errno : Errno} (hgroup : h.group = some errno) :
    Fate program 1 [s!"setpgid error: {errno.description}" ++ "\n"] [⟨.leave 1, .never⟩]
  | unreset {before after : List Handled} {signal : Handled} {errno : Errno}
    (hgroup : h.group = none) (horder : handlers = before ++ signal :: after)
    (hbefore : ∀ signal ∈ before, h.reset signal = none) (hreset : h.reset signal = some errno) :
    Fate program 1 [s!"tsh: failed to reset {signal.signal.name} handler: {errno.text}" ++ "\n"]
      [⟨.leave 1, .never⟩]
  | notFound (hready : h.LeaveReady) (hstart : h.start = some .enoent) :
    Fate program 127 [s!"{program}: Command not found" ++ "\n"] [⟨.leave 127, .never⟩]
  | notExecutable {errno : Errno} (hready : h.LeaveReady) (hstart : h.start = some errno)
    (hne : errno ≠ .enoent) :
    Fate program 126 [s!"{program}: {errno.description}" ++ "\n"] [⟨.leave 126, .never⟩]
  | started (hready : h.LeaveReady) (hstart : h.start = none) : Fate program 0 [] []

end Hindrances

/-! ### Views of a trace -/

/-- What the process itself did, if the event is that and no log record. -/
def Event.doing? : Event → Option Event
  | happened _ | log _ => none
  | event => some event

/-- The program that was started, or was to be, if the moment is that. -/
def Moment.start? (moment : Moment) : Option Start :=
  match moment.event with
  | .call ⟨.execute argv, _⟩ => some ⟨argv.headD "", argv, moment.state.kernel.mask⟩
  | _ => none

namespace Trace

/-- What the process itself did, in order. -/
def doings (trace : Trace) : List Event := (events trace).filterMap Event.doing?

/-- The programs that were started, or were to be, in order. -/
def starts (trace : Trace) : List Start := trace.reverse.filterMap Moment.start?

end Trace

/-- From `m` to `m'` the process did `doings`, in which it started `starts`, and left the job table
and what stands in the way of programs as they were. -/
structure Lives (m : Machine) (doings : List Event) (starts : List Start) (m' : Machine) :
    Prop where
  doings : m'.trace.doings = m.trace.doings ++ doings
  starts : m'.trace.starts = m.trace.starts ++ starts
  jobs : m'.state.jobs = m.state.jobs
  obstacle : m'.obstacle? = m.obstacle?

namespace Lives

variable {m m' m'' : Machine} {doings doings' : List Event} {starts starts' : List Start}

/-- A change of the machine that nothing tells of. -/
theorem silent (htrace : m'.trace = m.trace) (hjobs : m'.state.jobs = m.state.jobs)
    (hobstacle : m'.obstacle? = m.obstacle?) : Lives m [] [] m' where
  doings := by rw [htrace, List.append_nil]
  starts := by rw [htrace, List.append_nil]
  jobs := hjobs
  obstacle := hobstacle

theorem refl (m : Machine) : Lives m [] [] m := silent rfl rfl rfl

theorem trans (h : Lives m doings starts m') (h' : Lives m' doings' starts' m'') :
    Lives m (doings ++ doings') (starts ++ starts') m'' where
  doings := by rw [h'.doings, h.doings, List.append_assoc]
  starts := by rw [h'.starts, h.starts, List.append_assoc]
  jobs := h'.jobs.trans h.jobs
  obstacle := h'.obstacle.trans h.obstacle

/-- One moment is added to the trace. -/
theorem of_moment {moment : Moment} (htrace : m'.trace = moment :: m.trace)
    (hjobs : m'.state.jobs = m.state.jobs) (hobstacle : m'.obstacle? = m.obstacle?) :
    Lives m moment.event.doing?.toList moment.start?.toList m' where
  doings := by
    rw [htrace]
    exact Trace.filterMap_events_cons _ _ _
  starts := by
    rw [htrace, Trace.starts, List.reverse_cons, List.filterMap_append]
    cases h : moment.start? <;> simp [Trace.starts, h]
  jobs := hjobs
  obstacle := hobstacle

/-- An event is recorded. -/
theorem recording (m : Machine) (event : Event) :
    Lives m event.doing?.toList (Moment.start? ⟨event, m.state⟩).toList (m.recording event) :=
  have htrace : (m.recording event).trace = ⟨event, m.state⟩ :: m.trace := rfl
  of_moment htrace rfl rfl

/-- A call is made that has no effect on the kernel and starts no program. -/
theorem attempting {kind : Fallible} {failure : Option Errno} (h : m.failure? kind = failure)
    (request : Request)
    (hstart : ∀ answer s, Moment.start? ⟨.call ⟨request, answer⟩, s⟩ = none) :
    Lives m [.call ⟨request, .ofFailure failure⟩] [] (m.attempting kind request) := by
  have hcall := recording (m.deciding kind) (.call ⟨request, .ofFailure failure⟩)
  rw [hstart, ← h] at hcall
  rw [← h]
  exact ⟨hcall.doings, hcall.starts, hcall.jobs, hcall.obstacle⟩

/-- The mask is changed. -/
theorem remasking (m : Machine) (how : MaskChange) (signals : SignalSet) :
    Lives m [.call ⟨.changeMask how signals, .number 0⟩] [] (m.remasking how signals) :=
  have htrace : (m.remasking how signals).trace =
      ⟨.call ⟨.changeMask how signals, .number 0⟩, m.state.masked how signals⟩ :: m.trace := rfl
  of_moment htrace (State.jobs_delivering _ _) rfl

end Lives

/-- Why the call of a kind fails that comes after `n` others of that kind, if it does. -/
def Machine.failureAt (m : Machine) (kind : Fallible) (n : Nat) : Option Errno :=
  (m.script.failures kind).getD n none

/-- What stands in the way of a child of this machine, once the mask was changed a number of times,
if `start` keeps it from starting its program. -/
def Machine.hindrances (m : Machine) (masks : Nat) (start : Option Errno) : Hindrances where
  group := m.failureAt .setProcessGroup 0
  mask := m.failureAt .changeMask masks
  reset
    | .childStatus => m.failureAt .resetHandler 0
    | .interrupt => m.failureAt .resetHandler 1
    | .suspend => m.failureAt .resetHandler 2
    | .quit => m.failureAt .resetHandler 3
  start := start

namespace Machine

variable (m : Machine) {kind kind' : Fallible}

theorem failure?_eq_failureAt (kind : Fallible) : m.failure? kind = m.failureAt kind 0 := by
  unfold failure? failureAt
  cases m.script.failures kind <;> rfl

theorem failureAt_deciding_self (kind : Fallible) (n : Nat) :
    (m.deciding kind).failureAt kind n = m.failureAt kind (n + 1) := by
  unfold failureAt deciding
  simp only [if_pos]
  cases m.script.failures kind <;> rfl

theorem failureAt_deciding_of_ne (h : kind' ≠ kind) (n : Nat) :
    (m.deciding kind).failureAt kind' n = m.failureAt kind' n := by
  unfold failureAt deciding
  simp only [if_neg h]

end Machine

/-- A call whose answer is known. -/
theorem Kernel.attemptCall_of_failure? {m : Machine} {kind : Fallible} {failure : Option Errno}
    (h : m.failure? kind = failure) (request : Request) :
    attemptCall kind request m = (.done failure, m.attempting kind request) := by
  rw [← h]
  exact attemptCall_apply kind request m

namespace Shell

variable {h : Hindrances} {m m₁ m₂ m' : Machine} {program : String} {argv : List String}
  {previous : SignalSet}

/-! ### The child's routine -/

/-- What a child leaves that gives up. -/
def abandoning (message : String) (status : Nat) (m : Machine) : Machine :=
  (m.recording (.err (message ++ "\n"))).recording (.call ⟨.leave status, .never⟩)

/-- A child that gives up says why and ends. -/
theorem lives_abandoning (message : String) (status : Nat) (m : Machine) :
    Lives m [.err (message ++ "\n"), .call ⟨.leave status, .never⟩] []
      (abandoning message status m) :=
  (Lives.recording m (.err (message ++ "\n"))).trans
    (.recording (m.recording (.err (message ++ "\n"))) (.call ⟨.leave status, .never⟩))

/-- What a mask that cannot be put back leaves. -/
def unrestoring (m : Machine) (previous : SignalSet) (errno : Errno) : Machine :=
  let refused := (m.deciding .changeMask).recording
    (.call ⟨.changeMask .replace previous, .errno errno⟩)
  refused.recording (.log ⟨.error, .signals, s!"failed to restore signal mask: {errno.text}"⟩)

/-- Putting the mask back is one call, whose failure does not matter. -/
theorem exists_restoreMask_lives (previous : SignalSet)
    (hquit : m.state.kernel.pending.contains .quit = false) :
    ∃ m', restoreMask previous m = (.done (), m') ∧
      Lives m [.call ⟨.changeMask .replace previous, .ofFailure (m.failure? .changeMask)⟩] [] m' ∧
      m'.state.kernel.mask =
        (if m.failure? .changeMask = none then previous else m.state.kernel.mask) ∧
      ∀ n, m'.failureAt .resetHandler n = m.failureAt .resetHandler n := by
  have hnext := Kernel.nextFailure_eq .changeMask m
  have hdecided : Lives m [] [] (m.deciding .changeMask) := .silent rfl rfl rfl
  have hanswers := m.failureAt_deciding_of_ne (show Fallible.resetHandler ≠ .changeMask by decide)
  cases hfailure : m.failure? .changeMask with
  | none =>
    rw [hfailure] at hnext
    have hrestored : restoreMask previous m =
        (.done (), (m.deciding .changeMask).remasking .replace previous) :=
      bind_of_done (Kernel.changeMask_of_none hnext hquit)
    exact ⟨_, hrestored, hdecided.trans (.remasking _ _ _), Kernel.mask_remasking _ _ _, hanswers⟩
  | some errno =>
    rw [hfailure] at hnext
    have hlost : restoreMask previous m = (.done (), unrestoring m previous errno) :=
      bind_of_done (Kernel.changeMask_of_some hnext)
    have hrefused := Lives.recording (m.deciding .changeMask)
      (.call ⟨.changeMask .replace previous, .errno errno⟩)
    refine ⟨_, hlost, (hdecided.trans hrefused).trans ?_, rfl, hanswers⟩
    exact .recording _ (.log ⟨.error, .signals, s!"failed to restore signal mask: {errno.text}"⟩)

section

variable {signal : Handled} {signals : List Handled} {errno : Errno}

theorem resetHandlers_of_some (hfailure : m.failure? .resetHandler = some errno) :
    resetHandlers (signal :: signals) m = (.failed (.ofCall (.resettingHandler signal) errno),
      m.attempting .resetHandler (.resetHandler signal)) :=
  bind_of_done (Kernel.attemptCall_of_failure? hfailure (.resetHandler signal))

theorem resetHandlers_of_none (hfailure : m.failure? .resetHandler = none) :
    resetHandlers (signal :: signals) m =
      resetHandlers signals (m.attempting .resetHandler (.resetHandler signal)) :=
  bind_of_done (Kernel.attemptCall_of_failure? hfailure (.resetHandler signal))

end

/-- How resetting some handlers ends: at the first one that cannot be reset, if there is one. -/
inductive ResetsTo (h : Hindrances) : List Handled → Outcome Unit → Prop
  | done {signals : List Handled} (hall : ∀ signal ∈ signals, h.reset signal = none) :
    ResetsTo h signals (.done ())
  | failed {signals before after : List Handled} {signal : Handled} {errno : Errno}
    (horder : signals = before ++ signal :: after)
    (hbefore : ∀ signal ∈ before, h.reset signal = none) (hreset : h.reset signal = some errno) :
    ResetsTo h signals (.failed (.ofCall (.resettingHandler signal) errno))

theorem ResetsTo.cons {signals : List Handled} {outcome : Outcome Unit} {signal : Handled}
    (hsignal : h.reset signal = none) (hrest : ResetsTo h signals outcome) :
    ResetsTo h (signal :: signals) outcome := by
  cases hrest with
  | done hall => exact .done (List.forall_mem_cons.2 ⟨hsignal, hall⟩)
  | failed horder hbefore hreset =>
    exact .failed (congrArg (signal :: ·) horder) (List.forall_mem_cons.2 ⟨hsignal, hbefore⟩) hreset

/-- Handlers are reset one after the other, up to the first that cannot be. -/
theorem exists_resetHandlers (h : Hindrances) : ∀ (signals : List Handled) (m : Machine),
    (∀ n signal, signals[n]? = some signal → m.failureAt .resetHandler n = h.reset signal) →
      ∃ outcome m', resetHandlers signals m = (outcome, m') ∧ ResetsTo h signals outcome ∧
        Lives m ((cutAfter Call.stopsChild (h.resets signals)).map .call) [] m' ∧
        m'.state = m.state
  | [], m, _ => ⟨_, m, rfl, .done (by simp), .refl m, rfl⟩
  | signal :: signals, m, hanswers => by
    have hanswer : m.failure? .resetHandler = h.reset signal :=
      (m.failure?_eq_failureAt _).trans (hanswers 0 signal rfl)
    have hcall := Lives.attempting hanswer (.resetHandler signal) fun _ _ ↦ rfl
    rw [Hindrances.resets, List.map_cons, cutAfter]
    cases hreset : h.reset signal with
    | some errno =>
      rw [hreset] at hcall
      exact ⟨_, _, resetHandlers_of_some (hanswer.trans hreset),
        .failed (List.nil_append _).symm (by simp) hreset, hcall, rfl⟩
    | none =>
      rw [hreset] at hcall
      have hanswers' : ∀ n other, signals[n]? = some other →
          (m.attempting .resetHandler (.resetHandler signal)).failureAt .resetHandler n =
            h.reset other := fun n other hother ↦
        (m.failureAt_deciding_self .resetHandler n).trans (hanswers (n + 1) other hother)
      obtain ⟨outcome, m', hrest, hresets, hlives, hstate⟩ :=
        exists_resetHandlers h signals _ hanswers'
      exact ⟨outcome, m', (resetHandlers_of_none (hanswer.trans hreset)).trans hrest,
        hresets.cons hreset, hcall.trans hlives, hstate⟩

/-- What a child does that is ready for its program. -/
def startProgram (program : String) (argv : List String) : Routine Empty := do
  match ← Kernel.execute argv with
  | none => finish 0
  | some .enoent => abandon (Fault.commandNotFound program).text notFoundStatus
  | some errno => abandon s!"{program}: {errno.description}" notExecutableStatus

section

variable {errno : Errno} {error : Error}

theorem child_of_ungrouped (hgroup : m.failure? .setProcessGroup = some errno) :
    child program argv previous m =
      abandon s!"setpgid error: {errno.description}" unpreparedStatus
        (m.attempting .setProcessGroup (.setProcessGroup 0 0)) :=
  bind_of_done (Kernel.attemptCall_of_failure? hgroup (.setProcessGroup 0 0))

theorem child_of_unreset (hgroup : m.failure? .setProcessGroup = none)
    (hmask : restoreMask previous (m.attempting .setProcessGroup (.setProcessGroup 0 0)) =
      (.done (), m₁))
    (hreset : resetHandlers Handled.installation m₁ = (.failed error, m₂)) :
    child program argv previous m = abandon s!"tsh: {error.message}" unpreparedStatus m₂ := by
  have hcall := Kernel.attemptCall_of_failure? hgroup (.setProcessGroup 0 0)
  exact (bind_of_done hcall).trans
    ((bind_of_done hmask).trans (bind_of_done (attempt_apply hreset)))

theorem child_of_ready (hgroup : m.failure? .setProcessGroup = none)
    (hmask : restoreMask previous (m.attempting .setProcessGroup (.setProcessGroup 0 0)) =
      (.done (), m₁))
    (hreset : resetHandlers Handled.installation m₁ = (.done (), m₂)) :
    child program argv previous m = startProgram program argv m₂ := by
  have hcall := Kernel.attemptCall_of_failure? hgroup (.setProcessGroup 0 0)
  exact (bind_of_done hcall).trans
    ((bind_of_done hmask).trans (bind_of_done (attempt_apply hreset)))

end

/-- A child that is ready asks for its program, and ends if it does not get it. -/
theorem exists_startProgram (hready : h.LeaveReady)
    (hstart : m.obstacle? (argv.headD "") = h.start) (program : String) :
    ∃ status texts farewell m', startProgram program argv m = (.exited status, m') ∧
      h.Fate program status texts farewell ∧
      Lives m (.call ⟨.execute argv, .ofFailure h.start⟩ :: (texts.map .err ++ farewell.map .call))
        [⟨argv.headD "", argv, m.state.kernel.mask⟩] m' := by
  have hcall : Kernel.execute argv m =
      (.done h.start, m.recording (.call ⟨.execute argv, .ofFailure h.start⟩)) := by
    rw [← hstart]
    rfl
  have hlives := Lives.recording m (.call ⟨.execute argv, .ofFailure h.start⟩)
  have hrest : startProgram program argv m = _ := bind_of_done hcall
  cases hobstacle : h.start with
  | none =>
    rw [hobstacle] at hlives hrest
    exact ⟨_, _, _, _, hrest, .started hready hobstacle, hlives⟩
  | some errno =>
    rw [hobstacle] at hlives hrest
    by_cases hne : errno = .enoent
    · subst hne
      exact ⟨_, _, _, _, hrest, .notFound hready hobstacle, hlives.trans (lives_abandoning _ _ _)⟩
    · have hgives : startProgram program argv m =
          abandon s!"{program}: {errno.description}" notExecutableStatus
            (m.recording (.call ⟨.execute argv, .errno errno⟩)) := by
        rw [hrest]
        cases errno <;> first | rfl | exact absurd rfl hne
      exact ⟨_, _, _, _, hgives, .notExecutable hready hobstacle hne,
        hlives.trans (lives_abandoning _ _ _)⟩

/-- A child that could leave the group puts the mask back and resets the handlers. -/
theorem exists_prepared {start : Option Errno} (hhindrances : m.hindrances 0 start = h)
    (hgroup : h.group = none) (hquit : m.state.kernel.pending.contains .quit = false)
    (previous : SignalSet) : ∃ m₁ outcome m₂,
      restoreMask previous (m.attempting .setProcessGroup (.setProcessGroup 0 0)) =
        (.done (), m₁) ∧
      resetHandlers Handled.installation m₁ = (outcome, m₂) ∧
      ResetsTo h Hindrances.handlers outcome ∧
      Lives m ((cutAfter Call.stopsChild (h.preparation previous)).map .call) [] m₂ ∧
      m₂.state.kernel.mask = if h.mask = none then previous else m.state.kernel.mask := by
  have hgroup' : m.failure? .setProcessGroup = h.group := by
    rw [← hhindrances]
    exact m.failure?_eq_failureAt _
  have hmask : (m.attempting .setProcessGroup (.setProcessGroup 0 0)).failure? .changeMask =
      h.mask := by
    rw [← hhindrances]
    exact m.failure?_eq_failureAt .changeMask
  have hanswers : ∀ n signal, Hindrances.handlers[n]? = some signal →
      m.failureAt .resetHandler n = h.reset signal := by
    intro n signal hsignal
    rw [← hhindrances]
    rcases n with _ | _ | _ | _ | n <;> cases hsignal <;> rfl
  have hcall := Lives.attempting hgroup' (.setProcessGroup 0 0) fun _ _ ↦ rfl
  obtain ⟨m₁, hrestore, hrestored, hmask₁, hanswers₁⟩ := exists_restoreMask_lives
    (m := m.attempting .setProcessGroup (.setProcessGroup 0 0)) previous hquit
  rw [hmask] at hrestored hmask₁
  obtain ⟨outcome, m₂, hreset, hresets, hlives, hstate⟩ :=
    exists_resetHandlers h Hindrances.handlers m₁ fun n signal hsignal ↦
      (hanswers₁ n).trans (hanswers n signal hsignal)
  refine ⟨m₁, outcome, m₂, hrestore, hreset, hresets, ?_, hstate ▸ hmask₁⟩
  rw [Hindrances.cutAfter_preparation_of_grouped hgroup, List.map_append]
  exact (hcall.trans hrestored).trans hlives

/-- What a child says that cannot reset a handler. -/
theorem message_resettingHandler (signal : Handled) (errno : Errno) :
    s!"tsh: {(Error.ofCall (.resettingHandler signal) errno).message}" =
      s!"tsh: failed to reset {signal.signal.name} handler: {errno.text}" := by
  generalize hname : signal.signal.name = name
  show "tsh: " ++ ("failed to reset " ++ signal.signal.name ++ " handler" ++ ": " ++ errno.text) =
    "tsh: failed to reset " ++ name ++ " handler: " ++ errno.text
  rw [hname]
  exact String.toList_inj.1 (by simp)

/-- The life of a child, from its first call to its end. -/
theorem exists_child_life (hhindrances : m.hindrances 0 (m.obstacle? program) = h)
    (hfile : argv.headD "" = program) (hquit : m.state.kernel.pending.contains .quit = false)
    (previous : SignalSet) : ∃ status texts farewell m',
      child program argv previous m = (.exited status, m') ∧
      h.Fate program status texts farewell ∧
      Lives m (h.life previous argv texts farewell)
        (h.starts previous m.state.kernel.mask program argv) m' := by
  have hgroup : m.failure? .setProcessGroup = h.group := by
    rw [← hhindrances]
    exact m.failure?_eq_failureAt _
  have hcall := Lives.attempting hgroup (.setProcessGroup 0 0) fun _ _ ↦ rfl
  unfold Hindrances.life
  cases hfree : h.group with
  | some errno =>
    have hnot : ¬h.LeaveReady := fun hready ↦ by cases hfree.symm.trans hready.1
    refine ⟨_, _, _, _, child_of_ungrouped (hgroup.trans hfree), .ungrouped hfree, ?_⟩
    rw [Hindrances.cutAfter_calls_of_not_ready hnot,
      Hindrances.cutAfter_preparation_of_ungrouped hfree, Hindrances.starts_of_not_ready hnot]
    exact hcall.trans (lives_abandoning _ _ _)
  | none =>
    obtain ⟨m₁, outcome, m₂, hrestore, hreset, hresets, hprepared, hmask⟩ :=
      exists_prepared hhindrances hfree hquit previous
    cases hresets with
    | @failed before after signal errno horder hbefore hstuck =>
      have hmem : signal ∈ Hindrances.handlers := by simp [horder]
      have hnot : ¬h.LeaveReady := fun hready ↦ by cases hstuck.symm.trans (hready.2 signal hmem)
      refine ⟨_, _, _, _, child_of_unreset (hgroup.trans hfree) hrestore hreset,
        .unreset hfree horder hbefore hstuck, ?_⟩
      rw [Hindrances.cutAfter_calls_of_not_ready hnot, Hindrances.starts_of_not_ready hnot,
        ← message_resettingHandler, List.append_assoc]
      exact hprepared.trans (lives_abandoning _ _ _)
    | done hall =>
      have hready : h.LeaveReady := ⟨hfree, hall⟩
      have hobstacle : m₂.obstacle? (argv.headD "") = h.start := by
        rw [hprepared.obstacle, hfile, ← hhindrances]
        rfl
      obtain ⟨status, texts, farewell, m', hends, hfate, hstarted⟩ :=
        exists_startProgram hready hobstacle program
      refine ⟨status, texts, farewell, m',
        (child_of_ready (hgroup.trans hfree) hrestore hreset).trans hends, hfate, ?_⟩
      obtain ⟨hprepares, hcalls⟩ := Hindrances.cutAfter_calls_of_ready hready
      rw [hprepares] at hprepared
      rw [hfile, hmask] at hstarted
      rw [hcalls, Hindrances.starts_of_ready hready, Hindrances.calls, List.map_append,
        List.append_assoc, List.append_assoc]
      exact hprepared.trans hstarted

end Shell

end JobShell
