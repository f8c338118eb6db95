import JobShell.Proofs.Emissions.Routines
import JobShell.Proofs.Orderly.Routines

/-!
# How often a launch forks

Neither a drain nor a wait forks, nor does the child, nor what becomes of the child in the parent.
So a launch forks at most once: it does so unless its command cannot be handed to a program or the
signal for children cannot be blocked.
-/

namespace JobShell

open Routine

/-! ### Views of a trace -/

/-- What a fork was answered, if the event is one. -/
def Event.fork? : Event → Option Answer
  | call ⟨.fork, answer⟩ => some answer
  | _ => none

namespace Trace

/-- What the forks were answered, in order. -/
def forks (trace : Trace) : List Answer := (events trace).filterMap Event.fork?

/-- A view of a trace shows its latest moment last. -/
theorem filterMap_events_cons {α : Type} (f : Event → Option α) (moment : Moment) (trace : Trace) :
    (events (moment :: trace)).filterMap f =
      (events trace).filterMap f ++ (f moment.event).toList := by
  cases hf : f moment.event <;> simp [events, List.filterMap_append, hf]

end Trace

/-- A view in which nothing shows that is permitted shows nothing new. -/
theorem Emitted.filterMap_events {α : Type} {p : Moment → Prop} {m m' : Machine}
    (h : Emitted p m m') {f : Event → Option α} (hf : ∀ moment, p moment → f moment.event = none) :
    (Trace.events m'.trace).filterMap f = (Trace.events m.trace).filterMap f := by
  obtain ⟨-, -, -, -, news, htrace, hnews⟩ := h
  have hnothing : (Trace.events news).filterMap f = [] := by
    refine List.filterMap_eq_nil_iff.2 fun event hmem ↦ ?_
    obtain ⟨moment, hmoment, rfl⟩ := List.mem_map.1 (List.mem_reverse.1 hmem)
    exact hf moment (hnews moment hmoment)
  rw [htrace, Trace.filterMap_events_append, hnothing, List.append_nil]

/-! ### Work that does not fork -/

/-- The moment is no fork. -/
def Forkless (moment : Moment) : Prop := moment.event.fork? = none

/-- A fork is no minor thing. -/
theorem forkless_of_isMinor {moment : Moment} (h : moment.event.isMinor = true) :
    Forkless moment := by
  unfold Forkless Event.fork?
  split
  · next hfork =>
    rw [hfork] at h
    cases h
  · rfl

/-- Nothing that a wait does is a fork. -/
theorem permitsWait_forkless : PermitsWait Forkless where
  minor _ := forkless_of_isMinor
  said _ _ := rfl
  learned _ _ _ _ _ _ := rfl
  relayed _ _ _ _ _ := rfl
  suspended _ _ _ := rfl

/-- Only a command that names a program forks. -/
theorem permitsCommand_forkless {command : Command} (h : ¬command.NamesProgram) :
    PermitsCommand Forkless command where
  resumes _ _ _ := ⟨fun _ _ _ _ ↦ rfl, fun _ _ _ _ _ _ ↦ rfl⟩
  launches hprogram := absurd hprogram h

/-- Neither is what the parent does with a child. -/
theorem permitsAdoption_forkless (command : Command) : PermitsAdoption Forkless command :=
  ⟨fun _ _ _ _ ↦ rfl, fun _ _ _ ↦ rfl⟩

/-- From `m` to `m'` the forks were answered with `answers`. Children are up to the script, after as
before. -/
structure Forked (m : Machine) (answers : List Answer) (m' : Machine) : Prop where
  plays : m'.playsChildren = false
  forks : m'.trace.forks = m.trace.forks ++ answers

/-- The routine, if it begins with `m`, forks with these answers. -/
def ForksAt {α : Type} (answers : List Answer) (routine : Routine α) (m : Machine) : Prop :=
  Forked m answers (routine m).2

section

variable {α β : Type} {answers : List Answer} {m m' : Machine} {routine : Routine α}

/-- It is enough to know where the routine leads. -/
theorem ForksAt.of_apply {outcome : Outcome α} (h : routine m = (outcome, m'))
    (hforked : Forked m answers m') : ForksAt answers routine m := by
  rw [ForksAt, h]
  exact hforked

theorem ForksAt.forked {outcome : Outcome α} (h : ForksAt answers routine m)
    (hr : routine m = (outcome, m')) : Forked m answers m' := by
  rw [ForksAt, hr] at h
  exact h

/-- What does not fork may come before. -/
theorem ForksAt.of_eq {routine' : Routine α} (h : ForksAt answers routine' m')
    (heq : routine m = routine' m') (hforks : m'.trace.forks = m.trace.forks) :
    ForksAt answers routine m := by
  obtain ⟨hplays, hnew⟩ := h
  exact .of_apply heq ⟨hplays, hnew.trans (congrArg (· ++ answers) hforks)⟩

/-- What adds no fork does not fork. -/
theorem forksAt_of_emits (h : EmitsAt Forkless routine m) (hplays : m.playsChildren = false) :
    ForksAt [] routine m := by
  have hemitted := (h hplays).imp fun _ hpermits ↦ hpermits.of_said permitsWait_forkless.said
  exact ⟨hemitted.plays, (hemitted.filterMap_events fun _ ↦ id).trans (List.append_nil _).symm⟩

/-- What does not fork may follow. -/
theorem ForksAt.bind (h : ForksAt answers routine m) {next : α → Routine β}
    (hnext : ∀ value, Emits Forkless (next value)) : ForksAt answers (routine >>= next) m := by
  rcases hr : routine m with ⟨outcome, m'⟩
  have hforked := h.forked hr
  cases outcome with
  | done value =>
    obtain ⟨hplays, hforks⟩ := forksAt_of_emits (hnext value m') hforked.plays
    refine .of_apply (bind_of_done hr) ⟨hplays, ?_⟩
    rw [hforks, List.append_nil]
    exact hforked.forks
  | failed error => exact .of_apply (bind_of_failed hr) hforked
  | exited status => exact .of_apply (bind_of_exited hr) hforked
  | stalled => exact .of_apply (bind_of_stalled hr) hforked

theorem ForksAt.attempt (h : ForksAt answers routine m) : ForksAt answers (attempt routine) m := by
  rcases hr : routine m with ⟨outcome, m'⟩
  exact .of_apply (attempt_apply hr) (h.forked hr)

end

/-- The routine, if it begins with `m`, forks once if a condition holds, and otherwise never. -/
def ForksOnceIf {α : Type} (condition : Prop) (routine : Routine α) (m : Machine) : Prop :=
  ∃ answers, ForksAt answers routine m ∧ answers.length ≤ 1 ∧ (answers ≠ [] ↔ condition)

section

variable {α β : Type} {condition condition' : Prop} {m : Machine} {routine : Routine α}

/-- A routine that does not fork, where it should not. -/
theorem ForksAt.never (h : ForksAt [] routine m) (hnot : ¬condition) :
    ForksOnceIf condition routine m :=
  ⟨[], h, Nat.zero_le 1, iff_of_false (fun hne ↦ hne rfl) hnot⟩

/-- A routine that forks once, where it should. -/
theorem ForksAt.once {answer : Answer} (h : ForksAt [answer] routine m) (hcondition : condition) :
    ForksOnceIf condition routine m :=
  ⟨[answer], h, Nat.le_refl 1, iff_of_true (List.cons_ne_nil _ _) hcondition⟩

theorem ForksOnceIf.of_iff (h : ForksOnceIf condition routine m)
    (hiff : condition ↔ condition') : ForksOnceIf condition' routine m :=
  propext hiff ▸ h

/-- What forks as often, forks once under the same condition. -/
theorem ForksOnceIf.of_forksAt {routine' : Routine β} {m' : Machine}
    (h : ForksOnceIf condition routine m)
    (hforks : ∀ answers, ForksAt answers routine m → ForksAt answers routine' m') :
    ForksOnceIf condition routine' m' := by
  obtain ⟨answers, hanswers, hlength, hiff⟩ := h
  exact ⟨answers, hforks answers hanswers, hlength, hiff⟩

end

/-- A fork is one fork, whether it fails or not. -/
theorem Kernel.exists_forksAt_fork {child : Routine Empty} {m : Machine}
    (hchild : Emits Forkless child) (hplays : m.playsChildren = false) :
    ∃ answer, ForksAt [answer] (fork child) m := by
  cases hfork : m.failure? .fork with
  | some errno =>
    refine ⟨.errno errno, .of_apply (fork_of_some hfork) ⟨hplays, ?_⟩⟩
    exact Trace.filterMap_events_cons Event.fork? _ m.trace
  | none =>
    have hafter := emits_afterFork permitsWait_forkless.toPermitsMinor hchild
      m.state.kernel.nextPid (m.deciding .fork).spawning
    rcases hr : afterFork child m.state.kernel.nextPid (m.deciding .fork).spawning with
      ⟨outcome, m'⟩
    obtain ⟨hplays', hforks⟩ := (forksAt_of_emits hafter hplays).forked hr
    refine ⟨.number m.state.kernel.nextPid,
      .of_apply ((fork_of_none hfork).trans hr) ⟨hplays', ?_⟩⟩
    rw [hforks, List.append_nil]
    exact Trace.filterMap_events_cons Event.fork? _ m.trace

namespace Shell

variable {α : Type} {m m₁ : Machine} {command : Command} {program line : String}

/-! ### Launches -/

/-- A launch is stopped by an argument that holds a NUL. -/
theorem launch_of_holdsNul (h : ∃ argument ∈ command.argv, holdsNul argument = true) :
    launch command m = (.failed (.of (.malformedLine command.input)), m) := by
  unfold launch
  rw [if_pos (List.any_eq_true.2 h)]
  rfl

/-- What is left of a launch once the signal for children is blocked. -/
def forkAndAdopt (command : Command) (program : String) (previous : SignalSet) : Routine Job := do
  match ← Kernel.fork (child program command.argv previous) with
  | .error errno => fail (.ofCall .forking errno)
  | .ok pid => adopt pid (initialState command) command.input

/-- Otherwise a launch is work with the signal for children blocked. -/
theorem launch_eq_withBlocked (hnul : ∀ argument ∈ command.argv, holdsNul argument = false)
    (hprogram : command.program? = some program) :
    launch command = withBlocked .children (forkAndAdopt command program) := by
  have hany : ¬command.argv.any holdsNul = true := by
    rw [List.any_eq_true]
    rintro ⟨argument, hmem, hheld⟩
    rw [hnul argument hmem] at hheld
    cases hheld
  unfold launch
  rw [if_neg hany, hprogram]
  rfl

section

variable {body : SignalSet → Routine α} {signals : SignalSet}

/-- If signals cannot be blocked, the work is not even begun. -/
theorem withBlocked_of_some {errno : Errno} (h : m.failure? .changeMask = some errno) :
    withBlocked signals body m = (.failed (.ofCall .maskingSignals errno),
      (m.deciding .changeMask).recording (.call ⟨.changeMask .block signals, .errno errno⟩)) := by
  have hnext : Kernel.nextFailure .changeMask m = (.done (some errno), m.deciding .changeMask) := by
    rw [Kernel.nextFailure_eq, h]
  exact bind_of_done (Kernel.changeMask_of_some hnext)

/-- If they can, the work is done and the mask is put back that was there before. -/
theorem withBlocked_of_none (h : m.failure? .changeMask = none)
    (hquit : m.state.kernel.pending.contains .quit = false) :
    withBlocked signals body m = restoringAfter m.state.kernel.mask (body m.state.kernel.mask)
      ((m.deciding .changeMask).remasking .block signals) := by
  have hnext : Kernel.nextFailure .changeMask m = (.done none, m.deciding .changeMask) := by
    rw [Kernel.nextFailure_eq, h]
  exact bind_of_done (Kernel.changeMask_of_none hnext hquit)

end

/-- Whatever the fork is answered, it is the only one. -/
theorem exists_forksAt_forkAndAdopt (hplays : m.playsChildren = false) (command : Command)
    (program : String) (previous : SignalSet) :
    ∃ answer, ForksAt [answer] (forkAndAdopt command program previous) m := by
  have hminor := permitsWait_forkless.toPermitsMinor
  obtain ⟨answer, hfork⟩ :=
    Kernel.exists_forksAt_fork (emits_child hminor program command.argv previous) hplays
  refine ⟨answer, hfork.bind fun result ↦ ?_⟩
  cases result with
  | error errno => exact emits_fail _
  | ok pid =>
    exact emits_adopt hminor permitsWait_forkless.said (permitsAdoption_forkless command) pid

/-- A launch whose command can be handed to a program forks once, unless the signal for children
cannot be blocked. -/
theorem forksOnceIf_launch (hplays : m.playsChildren = false)
    (hquit : m.state.kernel.pending.contains .quit = false)
    (hprogram : command.program? = some program)
    (hnul : ∀ argument ∈ command.argv, holdsNul argument = false) :
    ForksOnceIf (m.failure? .changeMask = none) (launch command) m := by
  rw [launch_eq_withBlocked hnul hprogram]
  -- The call that changes the mask is no fork, whatever it answers.
  have hcall : ∀ answer s, (Trace.events (⟨.call ⟨.changeMask .block .children, answer⟩, s⟩ ::
      m.trace)).filterMap Event.fork? = m.trace.forks := fun answer s ↦
    (Trace.filterMap_events_cons _ _ _).trans (List.append_nil _)
  cases hmask : m.failure? .changeMask with
  | some errno =>
    refine ForksAt.never (.of_apply (withBlocked_of_some hmask) ⟨hplays, ?_⟩) nofun
    exact (hcall _ _).trans (List.append_nil _).symm
  | none =>
    have hblocked : ((m.deciding .changeMask).remasking .block .children).playsChildren = false :=
      hplays
    obtain ⟨answer, hbody⟩ :=
      exists_forksAt_forkAndAdopt hblocked command program m.state.kernel.mask
    have hrestored : ForksAt [answer] (restoringAfter m.state.kernel.mask _) _ :=
      hbody.attempt.bind fun result ↦
        (emits_restoreMask permitsWait_forkless.toPermitsMinor _).bind fun _ ↦
          emits_ofExcept result
    exact (hrestored.of_eq (withBlocked_of_none hmask hquit) (hcall _ _)).once rfl

/-- Neither an announcement nor a wait forks. -/
theorem forksAt_runProgram {answers : List Answer} (h : ForksAt answers (launch command) m) :
    ForksAt answers (runProgram command) m := by
  refine h.bind fun job ↦ ?_
  split
  · refine emits_state fun s ↦ ?_
    split
    · exact emits_record fun _ ↦ rfl
    · exact emits_pure ()
  · exact emits_waitFor permitsWait_forkless job.pid

/-- Reporting an error does not fork. -/
theorem forksAt_reporting {answers : List Answer} {routine : Routine Unit}
    (h : ForksAt answers routine m) : ForksAt answers (reporting routine) m := by
  refine h.attempt.bind fun result ↦ ?_
  cases result with
  | ok value => exact emits_reporting permitsWait_forkless (emits_pure ())
  | error error => exact emits_reporting permitsWait_forkless (emits_fail error)

end Shell

end JobShell
