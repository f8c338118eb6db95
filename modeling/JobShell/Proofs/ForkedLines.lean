import JobShell.Proofs.Children
import JobShell.Proofs.LineLaunches

/-!
# A line in the process that its fork started

The process that a fork starts is in the middle of the line too, with the signal for children still
blocked. From there on it lives as a child and ends as one, whatever fails. Only the quit key can
end it earlier, as the shell's handlers are still installed when the fork returns.
-/

namespace JobShell

open Routine

/-- The event is work of a shell at its jobs. -/
def Event.isJobControl : Event → Bool
  | jobs _ | learned _ | drained | sleepsFor _ => true
  | call ⟨.fork, _⟩ | call ⟨.wait, _⟩ | call ⟨.send _ _, _⟩ | call ⟨.suspend _, _⟩ => true
  | _ => false

namespace Hindrances

variable {h : Hindrances} {program : String} {status : Nat} {argv texts : List String}
  {farewell : List Call} {previous : SignalSet}

/-- The last call of a child ends its process. -/
theorem Fate.leaves (hfate : h.Fate program status texts farewell) :
    ∀ call ∈ farewell, call = ⟨.leave status, .never⟩ := by
  cases hfate with
  | started => exact fun call hmem ↦ absurd hmem List.not_mem_nil
  | _ => exact fun call hmem ↦ List.mem_singleton.1 hmem

theorem isJobControl_of_mem_calls {call : Call} (hmem : call ∈ h.calls previous argv) :
    (Event.call call).isJobControl = false := by
  simp only [calls, preparation, resets, List.mem_append, List.mem_cons, List.mem_map,
    List.not_mem_nil, or_false] at hmem
  obtain ((rfl | rfl) | ⟨signal, -, rfl⟩) | rfl := hmem <;> rfl

/-- A child does no work of a shell at its jobs. -/
theorem Fate.isJobControl (hfate : h.Fate program status texts farewell) :
    ∀ event ∈ h.life previous argv texts farewell, event.isJobControl = false := by
  intro event hmem
  rw [life, List.mem_append, List.mem_append, List.mem_map, List.mem_map, List.mem_map] at hmem
  obtain (⟨call, hcall, rfl⟩ | ⟨text, -, rfl⟩) | ⟨call, hcall, rfl⟩ := hmem
  · exact isJobControl_of_mem_calls (mem_of_mem_cutAfter hcall)
  · rfl
  · rw [hfate.leaves call hcall]
    rfl

end Hindrances

/-- The machine, if its next fork goes on as the child. -/
def Machine.asChild (m : Machine) (obstacle? : String → Option Errno) : Machine :=
  { m.withKernel fun k ↦ { k with nextPid := 0 } with obstacle? }

/-- The next fork of the machine goes on as the child, whose programs are kept from starting as
`obstacle?` says, and no quit key is held back. -/
structure IsForking (obstacle? : String → Option Errno) (m : Machine) : Prop where
  plays : m.playsChildren = false
  obstacle : m.obstacle? = obstacle?
  next : m.state.kernel.nextPid = 0
  heeds : m.state.kernel.mask.contains .quit = false
  quit : m.state.kernel.pending.contains .quit = false

namespace IsForking

variable {obstacle? : String → Option Errno} {m m' : Machine}

theorem of_eq (hm : IsForking obstacle? m) (hplays : m'.playsChildren = m.playsChildren)
    (hobstacle : m'.obstacle? = m.obstacle?)
    (hnext : m'.state.kernel.nextPid = m.state.kernel.nextPid)
    (hmask : m'.state.kernel.mask = m.state.kernel.mask)
    (hpending : m'.state.kernel.pending = m.state.kernel.pending) : IsForking obstacle? m' where
  plays := hplays.trans hm.plays
  obstacle := hobstacle.trans hm.obstacle
  next := hnext.trans hm.next
  heeds := by rw [hmask, hm.heeds]
  quit := by rw [hpending, hm.quit]

theorem steady (obstacle? : String → Option Errno) : Steady (IsForking obstacle?) where
  script _ _ _ hm := hm.of_eq rfl rfl rfl rfl rfl
  quiet _ _ _ hm := hm.of_eq rfl rfl rfl rfl rfl

/-- The signal for children may be blocked. -/
theorem remasking (hm : IsForking obstacle? m) :
    IsForking obstacle? (m.remasking .block .children) := by
  obtain ⟨pending, noted, hstate, hpending, -⟩ := m.exists_remasking .block .children
  refine ⟨hm.plays, hm.obstacle, ?_, ?_, ?_⟩
  · rw [hstate]
    exact hm.next
  · rw [Kernel.mask_remasking]
    show (m.state.kernel.mask.union .children).contains .quit = false
    rw [SignalSet.contains_union, hm.heeds]
    rfl
  · rw [hstate]
    show pending.contains .quit = false
    rw [hpending, hm.quit, Bool.false_and]

end IsForking

/-- Nothing but signals and wait statuses reached the process from `m` to `m'`. -/
structure Outlasts (m m' : Machine) : Prop extends Lives m [] [] m' where
  script : m'.script = m.script
  mask : m'.state.kernel.mask = m.state.kernel.mask
  quit : m'.state.kernel.pending.contains .quit = false

namespace Machine

variable {m : Machine}

theorem lives_after (m : Machine) (what : Occurrence) : Lives m [] [] (m.after what) :=
  have htrace : (m.after what).trace =
      ⟨.happened what, m.state.undergoing what⟩ :: m.trace := rfl
  .of_moment htrace ((State.jobs_raising _ _).trans (State.jobs_undergoing _ _)) rfl

theorem outlasts_after (hheeds : m.state.kernel.mask.contains .quit = false)
    (hquit : m.state.kernel.pending.contains .quit = false) (what : Occurrence) :
    Outlasts m (m.after what) := by
  have hpending : (m.state.undergoing what).kernel.pending = m.state.kernel.pending := by
    cases what <;> rfl
  have hmask : (m.state.undergoing what).kernel.mask = m.state.kernel.mask := by
    cases what <;> rfl
  obtain ⟨pending, noted, heq, hheld, -⟩ := (m.state.undergoing what).exists_raising what.signal
  rw [hpending, hmask] at hheld
  have hstate : (m.after what).state = (m.state.undergoing what).signalled pending noted := heq
  refine ⟨m.lives_after what, rfl, ?_, ?_⟩
  · rw [hstate]
    exact hmask
  · rw [hstate]
    show pending.contains .quit = false
    by_contra hcontains
    rcases hheld .quit (by simpa using hcontains) with h | h
    · exact absurd (hquit.symm.trans h) Bool.false_ne_true
    · exact absurd (hheeds.symm.trans h) Bool.false_ne_true

/-- The end that the quit key puts to a process. -/
theorem lives_quitting (m : Machine) :
    Lives m [.out (Kernel.quitNotice ++ "\n"), .call ⟨.leave 1, .never⟩] [] m.quitting :=
  (m.lives_after (.raised .quit)).trans
    ((Lives.recording _ (.out (Kernel.quitNotice ++ "\n"))).trans
      (.recording _ (.call ⟨.leave 1, .never⟩)))

end Machine

namespace Outlasts

variable {m m' m'' : Machine}

theorem refl (hquit : m.state.kernel.pending.contains .quit = false) : Outlasts m m :=
  ⟨.refl m, rfl, rfl, hquit⟩

theorem trans (h : Outlasts m m') (h' : Outlasts m' m'') : Outlasts m m'' :=
  ⟨h.toLives.trans h'.toLives, h'.script.trans h.script, h'.mask.trans h.mask, h'.quit⟩

end Outlasts

namespace Kernel

variable {m : Machine}

/-- What happens leaves the process as it was, up to the quit key, which ends it. -/
theorem exists_happenAll : ∀ (occurrences : List Occurrence) (m : Machine),
    m.state.kernel.mask.contains .quit = false →
    m.state.kernel.pending.contains .quit = false →
      (.raised .quit ∉ occurrences →
        ∃ m', happenAll occurrences m = (.done (), m') ∧ Outlasts m m') ∧
      (.raised .quit ∈ occurrences → ∃ m', happenAll occurrences m = (.exited 1, m') ∧
        Lives m [.out (quitNotice ++ "\n"), .call ⟨.leave 1, .never⟩] [] m')
  | [], m, _, hquit => by
    refine ⟨fun _ ↦ ⟨m, rfl, .refl hquit⟩, fun hmem ↦ absurd hmem List.not_mem_nil⟩
  | what :: occurrences, m, hheeds, hquit => by
    have hsplit : happenAll (what :: occurrences) m =
        (happen what >>= fun _ ↦ happenAll occurrences) m := rfl
    by_cases hwhat : what = .raised .quit
    · subst hwhat
      refine ⟨fun hnot ↦ absurd List.mem_cons_self hnot, fun _ ↦ ⟨m.quitting, ?_, ?_⟩⟩
      · exact hsplit.trans (bind_of_exited (happen_quit_apply hheeds))
      · exact m.lives_quitting
    · have hhappens : happen what m = (.done (), m.after what) :=
        (happen_apply what m).resolve_right fun hends ↦ hwhat hends.1
      have hgoes : happenAll (what :: occurrences) m = happenAll occurrences (m.after what) :=
        hsplit.trans (bind_of_done hhappens)
      have hfirst := Machine.outlasts_after hheeds hquit what
      obtain ⟨hdone, hends⟩ :=
        exists_happenAll occurrences (m.after what) (hfirst.mask ▸ hheeds) hfirst.quit
      rw [hgoes, List.mem_cons, or_iff_right (Ne.symm hwhat)]
      refine ⟨fun hnot ↦ ?_, fun hmem ↦ ?_⟩
      · obtain ⟨m', hall, hrest⟩ := hdone hnot
        exact ⟨m', hall, hfirst.trans hrest⟩
      · obtain ⟨m', hall, hrest⟩ := hends hmem
        exact ⟨m', hall, hfirst.toLives.trans hrest⟩

/-- The machine with nothing more to happen at its fork. -/
def pastFork (m : Machine) : Machine :=
  { m with script := { m.script with atFork := m.script.atFork.tail } }

section

variable {child : Routine Empty} {m₁ m' : Machine} {pid : Pid} {status : Nat}

theorem given_playChild (hplays : m.playsChildren = false) :
    given m.playsChildren (playChild child pid) m = (.done (), m) := by
  rw [hplays]
  rfl

/-- What happens at a fork may end the process. -/
theorem afterFork_of_happenAll_exited (hplays : m.playsChildren = false)
    (h : happenAll (m.script.atFork.headD []) (pastFork m) = (.exited status, m')) :
    afterFork child pid m = (.exited status, m') := by
  have hnext : nextAtFork m = (.done (m.script.atFork.headD []), pastFork m) := rfl
  exact (bind_of_done (given_playChild hplays)).trans
    ((bind_of_done hnext).trans (bind_of_exited h))

/-- If it does not, the process that is told 0 is the child. -/
theorem afterFork_of_child_exited (hplays : m.playsChildren = false)
    (h : happenAll (m.script.atFork.headD []) (pastFork m) = (.done (), m₁))
    (hchild : child m₁ = (.exited status, m')) : afterFork child 0 m = (.exited status, m') := by
  have hnext : nextAtFork m = (.done (m.script.atFork.headD []), pastFork m) := rfl
  exact (bind_of_done (given_playChild hplays)).trans
    ((bind_of_done hnext).trans ((bind_of_done h).trans (bind_of_exited hchild)))

end

end Kernel

/-- The process says some texts. -/
theorem Lives.saying (m : Machine) (texts : List String) :
    Lives m (texts.map .out) [] (m.saying texts) where
  doings := by
    have hshown := Event.filterMap_map_out (f := Event.doing?) (fun _ ↦ rfl) texts
    exact (Trace.filterMap_events_saying Event.doing? m texts).trans (congrArg _ hshown)
  starts := by
    have hnone : (texts.map fun text ↦ (⟨.out text, m.state⟩ : Moment)).filterMap
        Moment.start? = [] := by
      rw [List.filterMap_map]
      exact List.filterMap_eq_nil_iff.2 fun text _ ↦ rfl
    rw [Machine.saying, Trace.starts, List.reverse_append, List.reverse_reverse,
      List.filterMap_append, hnone]
    rfl
  jobs := rfl
  obstacle := rfl

namespace Shell

variable {m m₁ m' : Machine} {command : Command} {line program : String}

/-- A drain does not touch what a fork depends on. -/
theorem triple_drain_forking (obstacle? : String → Option Errno) :
    Triple (IsForking obstacle?) drain
      { done := fun _ ↦ IsForking obstacle?, failed := fun _ _ ↦ True } := by
  have hsteady := IsForking.steady obstacle?
  refine triple_drain hsteady hsteady (fun _ hm _ ↦ hm.of_eq rfl rfl rfl rfl rfl)
    (fun _ hm _ ↦ hm.of_eq rfl rfl rfl rfl rfl) ?_ ?_ fun _ hm ↦ hm.of_eq rfl rfl rfl rfl rfl
  · refine triple_reap fun queue ↦
      triple_reapAll hsteady (fun _ ↦ hsteady) ?_ ?_ ?_ ?_ ?_ ?_ queue
    · exact fun _ _ hm _ ↦ hm.of_eq rfl rfl rfl rfl rfl
    · exact fun _ _ _ hm _ _ ↦ hm.of_eq rfl rfl rfl rfl rfl
    · exact fun _ _ _ _ _ _ _ _ ↦ trivial
    · exact fun _ _ _ _ hm _ _ ↦ hm.of_eq rfl rfl rfl rfl rfl
    · exact fun _ _ _ _ hm _ ↦ hm.of_eq rfl rfl rfl rfl rfl
    · exact fun _ _ hm _ ↦ hm
  · exact fun signal _ ↦ triple_relay hsteady hsteady
      (fun _ _ _ hm _ ↦ hm.of_eq rfl rfl rfl rfl rfl) fun _ hm _ ↦ hm

/-- What a line does up to its fork, once its drain is done. -/
def upToFork (settings : Settings) (command : Command) : List Event :=
  (echoes settings command).map .out ++
    [.call ⟨.changeMask .block .children, .number 0⟩, .call ⟨.fork, .number 0⟩]

/-- The machine when a line is about to fork. -/
def blocked (m : Machine) (command : Command) : Machine :=
  ((echoing m command).deciding .changeMask).remasking .block .children

/-- The machine when a line has just forked. -/
def forked (m : Machine) (command : Command) : Machine :=
  ((blocked m command).deciding .fork).spawning

section

variable {obstacle? : String → Option Errno}

theorem isForking_blocked (hm : IsForking obstacle? m) (command : Command) :
    IsForking obstacle? (blocked m command) :=
  have hechoed : IsForking obstacle? ((echoing m command).deciding .changeMask) :=
    hm.of_eq rfl rfl rfl rfl rfl
  hechoed.remasking

theorem mask_forked (m : Machine) (command : Command) :
    (forked m command).state.kernel.mask = m.state.kernel.mask.union .children :=
  Kernel.mask_remasking ((echoing m command).deciding .changeMask) .block .children

/-- A line goes as far as its fork without starting a program. -/
theorem lives_forked (hm : IsForking obstacle? m) (command : Command) :
    Lives m (upToFork m.state.settings command) [] (forked m command) := by
  have hlogged := Lives.recording m (.log ⟨.debug, .shell, command.inspect⟩)
  have hechoed : Lives m ((echoes m.state.settings command).map .out) [] (echoing m command) :=
    hlogged.trans (.saying _ _)
  have hdecided : Lives (echoing m command) [] [] ((echoing m command).deciding .changeMask) :=
    .silent rfl rfl rfl
  have hblocked : Lives m ((echoes m.state.settings command).map .out ++
      [.call ⟨.changeMask .block .children, .number 0⟩]) [] (blocked m command) :=
    hechoed.trans (hdecided.trans (.remasking _ .block .children))
  have hforked : Lives (blocked m command) [.call ⟨.fork, .number 0⟩] [] (forked m command) := by
    have htrace : (forked m command).trace =
        ⟨.call ⟨.fork, .number (blocked m command).state.kernel.nextPid⟩,
          (forked m command).state⟩ :: (blocked m command).trace := rfl
    rw [(isForking_blocked hm command).next] at htrace
    exact .of_moment htrace rfl rfl
  have hall := hblocked.trans hforked
  rwa [List.append_assoc] at hall

/-- What stands in the way of the child is what the line left of the script. -/
theorem hindrances_of_forked (h : m'.script.failures = (forked m command).script.failures)
    (start : Option Errno) : m'.hindrances 0 start = m.hindrances 1 start := by
  have hforked : ∀ kind n, m'.failureAt kind n =
      ((m.deciding .changeMask).deciding .fork).failureAt kind n := fun kind n ↦ by
    unfold Machine.failureAt
    rw [h]
    rfl
  -- The line itself took the first answer for changes of the mask when it blocked the signal.
  have hmask : m'.failureAt .changeMask 0 = m.failureAt .changeMask 1 := by
    rw [hforked, Machine.failureAt_deciding_of_ne _ (by decide), Machine.failureAt_deciding_self]
  have hother : ∀ kind n, kind ≠ .changeMask → kind ≠ .fork →
      m'.failureAt kind n = m.failureAt kind n := fun kind n hne hne' ↦ by
    rw [hforked, Machine.failureAt_deciding_of_ne _ hne', Machine.failureAt_deciding_of_ne _ hne]
  have hreset := fun n ↦ hother .resetHandler n (by decide) (by decide)
  unfold Machine.hindrances
  rw [hmask, hother .setProcessGroup 0 (by decide) (by decide), hreset, hreset, hreset, hreset]

/-- How the process that is told 0 ends is how the line ends. -/
theorem executeLine_of_afterFork {status : Nat} (hm : IsForking obstacle? m₁)
    (hdrain : drain m = (.done (), m₁)) (hparse : Command.parse line = .ok command)
    (hprogram : command.program? = some program) (hgets : GetsToFork m₁ command)
    (hfork : m₁.failure? .fork = none)
    (h : Kernel.afterFork (child program command.argv m₁.state.kernel.mask) 0
      (forked m₁ command) = (.exited status, m')) :
    executeLine line m = (.exited status, m') := by
  have hblocks : (echoing m₁ command).failure? .changeMask = none := hgets.blocks
  have hquit : (echoing m₁ command).state.kernel.pending.contains .quit = false := hm.quit
  have hforks : (blocked m₁ command).failure? .fork = none := hfork
  have hforked : Kernel.fork (child program command.argv m₁.state.kernel.mask)
      (blocked m₁ command) = (.exited status, m') := by
    rw [Kernel.fork_of_none hforks, (isForking_blocked hm command).next]
    exact h
  have hadopted : forkAndAdopt command program m₁.state.kernel.mask (blocked m₁ command) =
      (.exited status, m') := bind_of_exited hforked
  have hlaunch : launch command (echoing m₁ command) = (.exited status, m') := by
    rw [launch_eq_withBlocked hgets.whole hprogram, withBlocked_of_none hblocks hquit]
    exact bind_of_exited (attempt_apply hadopted)
  have hrun : run command m₁ = (.exited status, m') :=
    (run_of_namesProgram hgets.named).trans (bind_of_exited hlaunch)
  rw [executeLine_of_drain hdrain]
  exact bind_of_exited (attempt_apply ((runParsed_of_ok hparse).trans hrun))

/-- **A line in the child.** At every reachable point of a session, whatever the script, a line that
forks goes on in the new process as a child, whose calls can be told from what stands in its way. It
leaves the shell's group, puts back the mask from before the launch, resets the handlers, and starts
the program with the line's arguments, but nothing after a failure to leave the group or to reset a
handler. So it starts the program once if it is ready for it, and otherwise none, and does not come
back to the line: it ends in the program, or says why there is none and leaves with the status for
that. A quit key that comes with the fork, when the shell's handlers are still installed, ends it
before its first call. -/
theorem line_ends_in_child {session : Session} {h : Hindrances} (hreaches : session.Reaches m)
    (hdrain : drain (m.asChild obstacle?) = (.done (), m₁))
    (hparse : Command.parse line = .ok command) (hprogram : command.program? = some program)
    (hgets : GetsToFork m₁ command) (hfork : m₁.failure? .fork = none)
    (hhindrances : m₁.hindrances 1 (obstacle? program) = h) :
    (.raised .quit ∉ m₁.script.atFork.headD [] → ∃ status texts farewell m',
      executeLine line (m.asChild obstacle?) = (.exited status, m') ∧
      h.Fate program status texts farewell ∧
      (∀ event ∈ h.life m₁.state.kernel.mask command.argv texts farewell,
        event.isJobControl = false) ∧
      Lives m₁ (upToFork m₁.state.settings command ++
          h.life m₁.state.kernel.mask command.argv texts farewell)
        (h.starts m₁.state.kernel.mask (m₁.state.kernel.mask.union .children) program
          command.argv) m') ∧
    (.raised .quit ∈ m₁.script.atFork.headD [] → ∃ m',
      executeLine line (m.asChild obstacle?) = (.exited 1, m') ∧
      Lives m₁ (upToFork m₁.state.settings command ++
        [.out (Kernel.quitNotice ++ "\n"), .call ⟨.leave 1, .never⟩]) [] m') := by
  have hsound := hreaches.path.sound session.sound_of_begins
  have hm : IsForking obstacle? m₁ := by
    have hstart : IsForking obstacle? (m.asChild obstacle?) :=
      ⟨hsound.plays, rfl, rfl, hsound.state.heeds, hsound.state.quit⟩
    have hpost := triple_drain_forking obstacle? _ hstart
    rw [hdrain] at hpost
    exact hpost
  have hblocked := isForking_blocked hm command
  have hplays : (forked m₁ command).playsChildren = false := hblocked.plays
  have hforked : Lives m₁ (upToFork m₁.state.settings command) []
      (Kernel.pastFork (forked m₁ command)) := by
    have hpast : Lives (forked m₁ command) [] [] (Kernel.pastFork (forked m₁ command)) :=
      .silent rfl rfl rfl
    have hboth := (lives_forked hm command).trans hpast
    rwa [List.append_nil] at hboth
  -- Between the fork and the child's first call there is only what the script lets happen.
  obtain ⟨hdone, hends⟩ := Kernel.exists_happenAll (m₁.script.atFork.headD [])
    (Kernel.pastFork (forked m₁ command)) hblocked.heeds hblocked.quit
  refine ⟨fun hnot ↦ ?_, fun hmem ↦ ?_⟩
  · obtain ⟨m₂, hhappens, houtlasts⟩ := hdone hnot
    have hbefore := hforked.trans houtlasts.toLives
    rw [List.append_nil] at hbefore
    have hobstacle : m₂.obstacle? = obstacle? := houtlasts.obstacle.trans hblocked.obstacle
    have hscript : m₂.script.failures = (forked m₁ command).script.failures := by
      rw [houtlasts.script]
      rfl
    have hfile : command.argv.headD "" = program := by
      rw [List.headD_eq_head?_getD, show command.argv.head? = some program from hprogram]
      rfl
    have hstands : m₂.hindrances 0 (m₂.obstacle? program) = h := by
      rw [hobstacle, hindrances_of_forked hscript, hhindrances]
    have hmask : m₂.state.kernel.mask = m₁.state.kernel.mask.union .children :=
      houtlasts.mask.trans (mask_forked m₁ command)
    obtain ⟨status, texts, farewell, m', hchild, hfate, hlives⟩ :=
      exists_child_life hstands hfile houtlasts.quit m₁.state.kernel.mask
    rw [hmask] at hlives
    refine ⟨status, texts, farewell, m', ?_, hfate, hfate.isJobControl, hbefore.trans hlives⟩
    exact executeLine_of_afterFork hm hdrain hparse hprogram hgets hfork
      (Kernel.afterFork_of_child_exited hplays hhappens hchild)
  · obtain ⟨m', hhappens, hlives⟩ := hends hmem
    refine ⟨m', ?_, hforked.trans hlives⟩
    exact executeLine_of_afterFork hm hdrain hparse hprogram hgets hfork
      (Kernel.afterFork_of_happenAll_exited hplays hhappens)

/-- A session of a quiet shell whose first fork goes on as the child. -/
def branching : Session where
  settings := ⟨false, false⟩
  firstPid := 0
  steps := []

/-- The shell at the beginning of a step in which a mask cannot be put back. -/
def unrestorable : Machine :=
  branching.start.machine.beginStep
    { failures := fun | .changeMask => [none, some .einval] | _ => [] }

/-- The child asks for its program with the signal for children blocked, and is not permitted to
start it. -/
theorem line_ends_in_child_of_branching : branching.Reaches unrestorable ∧
    ∃ m', executeLine "nap 1" (unrestorable.asChild fun _ ↦ some .eacces) =
        (.exited 126, m') ∧
      m'.trace.starts = [⟨"nap", ["nap", "1"], .children⟩] := by
  have hreaches : branching.Reaches unrestorable := .begin _ (.start (by decide +kernel))
  have hdrained : (drain (unrestorable.asChild fun _ ↦ some .eacces)).1 = .done () := by
    decide +kernel
  have hexited : (executeLine "nap 1" (unrestorable.asChild fun _ ↦ some .eacces)).1 =
      .exited 126 := by decide +kernel
  obtain ⟨m₁, hdrain, hblocks, hfork, hquit, hready, hkept, hmask, hnew⟩ : ∃ m₁,
      drain (unrestorable.asChild fun _ ↦ some .eacces) = (.done (), m₁) ∧
      m₁.failure? .changeMask = none ∧ m₁.failure? .fork = none ∧
      .raised .quit ∉ m₁.script.atFork.headD [] ∧
      (m₁.hindrances 1 (some .eacces)).LeaveReady ∧
      (m₁.hindrances 1 (some .eacces)).mask ≠ none ∧
      m₁.state.kernel.mask = .empty ∧ m₁.trace.starts = [] :=
    ⟨_, by rw [← hdrained], by decide +kernel, by decide +kernel, by decide +kernel,
      by decide +kernel, by decide +kernel, by decide +kernel, by decide +kernel⟩
  have hparse : Command.parse "nap 1" = .ok ⟨"nap 1", ["nap", "1"], false⟩ := by decide +kernel
  have hgets : GetsToFork m₁ ⟨"nap 1", ["nap", "1"], false⟩ :=
    ⟨⟨"nap", rfl, by decide⟩, by decide +kernel, hblocks⟩
  obtain ⟨hlives, -⟩ := line_ends_in_child hreaches hdrain hparse rfl hgets hfork rfl
  obtain ⟨status, texts, farewell, m', hline, -, -, hlives⟩ := hlives hquit
  have hstarts := hlives.starts
  rw [hnew, hmask, Hindrances.starts_of_ready hready, if_neg hkept] at hstarts
  obtain rfl : status = 126 := by
    rw [hline] at hexited
    exact Outcome.exited.inj hexited
  exact ⟨hreaches, m', hline, hstarts⟩

end

end Shell

end JobShell
