import JobShell.Proofs.Path.Line

/-!
# Sessions follow paths

The machine that a step of a session leaves is on a path from the session's first machine, in the
phase that belongs to the step's ending, as long as every failure before it was one after which new
work may begin. So an invariant of all moves holds at every moment of every session.
-/

namespace JobShell

open Routine

variable {again : Phase → Prop} {start : Machine → Prop}

/-- The phases in which some work is over, so that new work may begin. -/
def Phase.IsOver : Phase → Prop
  | reached .settled | reached (.failed _) => True
  | _ => False

/-- Where a step leaves the machine, by its ending. No step stalls. -/
def Ending.Leaves (again : Phase → Prop) (start : Machine → Prop) : Ending → Machine → Prop
  | replied (.failed error) => Path again start (.reached (.failed error))
  | replied _ => Path again start (.reached .settled)
  | exited _ => OnPath again start
  | stalled => fun _ ↦ False

/-- What an instruction has to achieve so that its step leaves the machine on a path. -/
def Post.stepping (again : Phase → Prop) (start : Machine → Prop) : Post Reply where
  done reply := (Ending.replied reply).Leaves again start
  failed error := Path again start (.reached (.failed error))
  exited := OnPath again start

/-- A settled piece of work is answered by any reply but a failure. -/
theorem leaves_of_settled {reply : Reply} {m : Machine}
    (h : Path again start (.reached .settled) m) (hreply : ∀ error, reply ≠ .failed error) :
    (Ending.replied reply).Leaves again start m := by
  cases reply with
  | failed error => exact absurd rfl (hreply error)
  | _ => exact h

theorem Ending.Leaves.onPath {ending : Ending} {m : Machine} (h : ending.Leaves again start m) :
    OnPath again start m := by
  cases ending with
  | replied reply => cases reply <;> exact Path.onPath h
  | exited status => exact h
  | stalled => exact h.elim

theorem Ending.Leaves.ne_stalled {ending : Ending} {m : Machine}
    (h : ending.Leaves again start m) : ending ≠ .stalled := by
  rintro rfl
  exact h

/-- A step that was answered is over. -/
theorem Ending.Leaves.exists_reached {ending : Ending} {m : Machine}
    (h : ending.Leaves again start m) (hgoes : ending.goesOn = true) :
    ∃ upshot, Path again start (.reached upshot) m := by
  cases ending with
  | replied reply => cases reply <;> exact ⟨_, h⟩
  | _ => cases hgoes

namespace Instruction

theorem path_withSpec {text : String} {routine : JobSpec → Routine Reply}
    (h : ∀ spec, Triple (Path again start .ready) (routine spec) (.stepping again start)) :
    Triple (Path again start .ready) (withSpec text routine) (.stepping again start) := by
  unfold withSpec
  split
  · exact triple_pure fun m hm ↦ hm.move (.turn .settle)
  · next spec _ => exact h spec

/-- Work followed by an answer. -/
theorem path_answer {α : Type} {routine : Routine α} {answer : α → Reply}
    (h : Triple (Path again start .ready) routine (.working again start))
    (hanswer : ∀ value error, answer value ≠ .failed error) :
    Triple (Path again start .ready) (do return answer (← routine)) (.stepping again start) := by
  refine Triple.bind (fun _ ↦ Path again start (.reached .settled)) h fun value ↦ ?_
  exact triple_pure fun m hm ↦ leaves_of_settled hm (hanswer value)

theorem path_perform (hstart : ∀ m, start m → Sound .ready m)
    (hagain : again (.reached .settled)) (instruction : Instruction) :
    Triple (Path again start .ready) instruction.perform (.stepping again start) := by
  cases instruction with
  | line text =>
    exact path_answer (Shell.path_reporting (Shell.path_execute hstart text)) nofun
  | input bytes => exact path_answer (Shell.path_executeLines hstart hagain _) nofun
  | foreground spec =>
    exact path_withSpec fun spec ↦ path_answer (Shell.path_foreground hstart spec) nofun
  | background spec => exact path_withSpec fun spec ↦ path_answer (Shell.path_background spec) nofun
  | occur what =>
    have hopen : Undisturbed (Path again start .ready) := Path.undisturbed trivial
    refine path_answer ((Kernel.triple_happen hopen what).imp ?_ ?_) nofun
    · exact fun _ m hm ↦ hm.move (.turn .settle)
    · rintro _ ⟨m, hm, rfl⟩
      exact (hopen.quitting hm).onPath
  | inspect =>
    refine triple_state fun s ↦ triple_pure fun m hm ↦ ?_
    exact hm.1.move (.turn .settle)
  | leave code => exact (Shell.path_leave _).of_exited

end Instruction

/-! ### Steps -/

/-- A step begins where the work before it is over. -/
theorem Path.beginStep {m : Machine} (h : Path again start .ready m) (script : Script) :
    Path again start .ready (m.beginStep script) :=
  h.move (.same rfl rfl rfl)

theorem Machine.leaves_perform {m : Machine} {script : Script} {routine : Routine Reply}
    (h : Path again start .ready m)
    (hroutine : Triple (Path again start .ready) routine (.stepping again start)) :
    (m.perform script routine).ending.Leaves again start (m.perform script routine).machine := by
  have hpost := hroutine (m.beginStep script) (h.beginStep script)
  show (Ending.ofOutcome (routine (m.beginStep script)).1).Leaves again start
    (routine (m.beginStep script)).2
  generalize routine (m.beginStep script) = result at hpost ⊢
  obtain ⟨reply | error | status | _, m'⟩ := result
  · exact hpost
  · exact hpost
  · exact hpost
  · exact hpost

/-- The shell may go on after a report: the step is settled or failed in a way that `again`
permits. -/
def Report.Survives (again : Phase → Prop) (report : Report) : Prop :=
  ∀ error, report.ending = .replied (.failed error) → again (.reached (.failed error))

theorem path_of_goesOn {report : Report} (hagain : again (.reached .settled))
    (h : report.ending.Leaves again start report.machine) (hgoes : report.ending.goesOn = true)
    (hsurvives : report.Survives again) : Path again start .ready report.machine := by
  unfold Report.Survives at hsurvives
  cases hending : report.ending with
  | replied reply =>
    rw [hending] at h
    cases reply with
    | failed error => exact Path.again h (hsurvives error hending)
    | _ => exact Path.again h hagain
  | exited status =>
    rw [hending] at hgoes
    cases hgoes
  | stalled =>
    rw [hending] at hgoes
    cases hgoes

theorem leaves_of_reports (hstart : ∀ m, start m → Sound .ready m)
    (hagain : again (.reached .settled)) {steps : List Step} {m : Machine}
    {earlier later : List Report} {report : Report} (h : Path again start .ready m)
    (hsplit : reports steps m = earlier ++ report :: later)
    (hsurvive : ∀ before ∈ earlier, before.Survives again) :
    report.ending.Leaves again start report.machine := by
  induction steps generalizing m earlier with
  | nil => exact absurd hsplit.symm (by simp [reports])
  | cons step steps ih =>
    have hfirst : (step.perform m).ending.Leaves again start (step.perform m).machine :=
      Machine.leaves_perform h (Instruction.path_perform hstart hagain step.instruction)
    rw [reports] at hsplit
    cases earlier with
    | nil =>
      obtain ⟨rfl, -⟩ := List.cons.inj hsplit
      exact hfirst
    | cons before earlier =>
      obtain ⟨rfl, hrest⟩ := List.cons.inj hsplit
      split at hrest
      · next hgoes =>
        refine ih (path_of_goesOn hagain hfirst hgoes ?_) hrest fun other hmem ↦ ?_
        · exact hsurvive _ List.mem_cons_self
        · exact hsurvive other (List.mem_cons_of_mem _ hmem)
      · exact absurd hrest.symm (by simp)

/-- Histories only grow from step to step. -/
theorem pairwise_reports (steps : List Step) {m : Machine} (hsound : Sound .ready m) :
    (∀ report ∈ reports steps m, m.history ⊆ report.machine.history) ∧
      (reports steps m).Pairwise fun before after ↦
        before.machine.history ⊆ after.machine.history := by
  induction steps generalizing m with
  | nil => exact ⟨fun report hmem ↦ absurd hmem List.not_mem_nil, List.Pairwise.nil⟩
  | cons step steps ih =>
    -- Each step is a path of its own here, which starts at the machine before it.
    have hstart : ∀ m', m' = m → Sound .ready m' := by
      rintro m' rfl
      exact hsound
    have hbegin : Path Phase.IsOver (fun m' ↦ m' = m) .ready m := .start rfl
    obtain ⟨p, hpath⟩ : OnPath Phase.IsOver (fun m' ↦ m' = m) (step.perform m).machine :=
      (Machine.leaves_perform hbegin
        (Instruction.path_perform hstart trivial step.instruction)).onPath
    have hgrows : m.history ⊆ (step.perform m).machine.history := by
      refine hpath.subset_history ?_
      rintro m' rfl
      exact List.Subset.refl _
    have hsound' : Sound .ready (step.perform m).machine :=
      (hpath.sound hstart).ready
    obtain ⟨hall, hpairwise⟩ := ih hsound'
    rw [reports]
    split
    · refine ⟨fun report hmem ↦ ?_, List.pairwise_cons.2 ⟨hall, hpairwise⟩⟩
      rcases List.mem_cons.1 hmem with rfl | hrest
      · exact hgrows
      · exact List.Subset.trans hgrows (hall report hrest)
    · refine ⟨fun report hmem ↦ ?_, List.pairwise_singleton _ _⟩
      rw [List.mem_singleton.1 hmem]
      exact hgrows

namespace Session

variable (session : Session)

/-- The machines in which a session begins. -/
def Begins (m : Machine) : Prop := m = session.initial

theorem sound_of_begins (m : Machine) (h : session.Begins m) : Sound .ready m := by
  rw [show m = session.initial from h]
  exact Sound.initial session

theorem history_of_begins (m : Machine) (h : session.Begins m) : m.history = [] := by
  rw [show m = session.initial from h]
  rfl

theorem leaves_start (again : Phase → Prop) :
    session.start.ending.Leaves again session.Begins session.start.machine := by
  refine Machine.leaves_perform (.start rfl) ?_
  refine Triple.bind (fun _ ↦ Path again session.Begins .ready) Shell.path_start.of_failed ?_
  intro _
  exact triple_pure fun m hm ↦ hm.move (.turn .settle)

/-- The first report is that of the start, and the steps are done only if the shell was started. -/
theorem run_eq : ∃ rest, session.run = session.start :: rest ∧
    (rest = [] ∨ session.start.ending.goesOn = true ∧
      rest = reports session.steps session.start.machine) := by
  refine ⟨_, rfl, ?_⟩
  split
  · next hok => exact Or.inr ⟨by rw [hok]; rfl, rfl⟩
  · exact Or.inl rfl

/-- The steps are done if the shell was started. -/
theorem run_eq_ite : session.run = session.start ::
    if session.start.ending = .replied .ok then reports session.steps session.start.machine
    else [] := by
  unfold run
  split
  · next hok => rw [if_pos hok]
  · next hok => rw [if_neg hok]

/-- Every report of a session leaves its machine on a path, as long as those before it were ones
after which the shell may go on. -/
theorem leaves_of_run (hagain : again (.reached .settled)) {earlier later : List Report}
    {report : Report} (hsplit : session.run = earlier ++ report :: later)
    (hsurvive : ∀ before ∈ earlier, before.Survives again) :
    report.ending.Leaves again session.Begins report.machine := by
  have hfirst := session.leaves_start again
  obtain ⟨rest, hrun, hrest⟩ := session.run_eq
  rw [hrun] at hsplit
  cases earlier with
  | nil =>
    obtain ⟨rfl, -⟩ := List.cons.inj hsplit
    exact hfirst
  | cons before earlier =>
    obtain ⟨rfl, rfl⟩ := List.cons.inj hsplit
    rcases hrest with hnil | ⟨hgoes, hreports⟩
    · exact absurd hnil (by simp)
    · have hready := path_of_goesOn hagain hfirst hgoes (hsurvive _ List.mem_cons_self)
      refine leaves_of_reports session.sound_of_begins hagain hready hreports.symm ?_
      exact fun other hmem ↦ hsurvive other (List.mem_cons_of_mem _ hmem)

/-! ### The history of a session -/

/-- A session reports at least its start. -/
theorem run_ne_nil : session.run ≠ [] := List.cons_ne_nil _ _

/-- The last report of a session. -/
def last : Report := session.run.getLast session.run_ne_nil

/-- Everything that happened in a session, newest first. -/
def history : Trace := session.last.machine.history

/-- If new work may begin after any failure, then the whole session is a path. -/
theorem leaves_last :
    session.last.ending.Leaves Phase.IsOver session.Begins session.last.machine := by
  have hsplit : session.run = session.run.dropLast ++ session.last :: [] :=
    (List.dropLast_append_getLast session.run_ne_nil).symm
  exact session.leaves_of_run trivial hsplit fun _ _ _ _ ↦ trivial

theorem onPath_last : OnPath Phase.IsOver session.Begins session.last.machine :=
  session.leaves_last.onPath

/-- A session whose last step was answered could go on. -/
theorem path_last (h : session.last.ending.goesOn = true) :
    Path Phase.IsOver session.Begins .ready session.last.machine :=
  path_of_goesOn trivial session.leaves_last h fun _ _ ↦ trivial

/-- Process ids are handed out from the session's first one on. -/
theorem firstPid_le_of_path {p : Phase} {m : Machine} (h : Path again session.Begins p m) :
    session.firstPid ≤ m.state.kernel.nextPid ∧
      ∀ pid ∈ m.state.kernel.forked, session.firstPid ≤ pid := by
  induction h with
  | start h =>
    rw [show _ = session.initial from h]
    exact ⟨Int.le_refl _, nofun⟩
  | @move _ m _ _ _ hmove ih =>
    rcases hmove.forked_cases with ⟨hforked, hnext⟩ | ⟨-, rfl⟩
    · rw [hforked, hnext]
      exact ih
    · refine ⟨Int.le_add_one ih.1, fun pid hpid ↦ ?_⟩
      rcases List.mem_append.1 hpid with hold | hnew
      · exact ih.2 pid hold
      · rw [List.mem_singleton.1 hnew]
        exact ih.1
  | again _ _ ih => exact ih

/-- What happened before a report is part of the history of the session. -/
theorem history_subset_of_run {report : Report} (h : report ∈ session.run) :
    report.machine.history ⊆ session.history := by
  obtain ⟨p, hpath⟩ := (session.leaves_start Phase.IsOver).onPath
  have hsound : Sound .ready session.start.machine :=
    (hpath.sound session.sound_of_begins).ready
  have hgrows : session.run.Pairwise fun before after ↦
      before.machine.history ⊆ after.machine.history := by
    obtain ⟨rest, hrun, hrest⟩ := session.run_eq
    rw [hrun, List.pairwise_cons]
    rcases hrest with rfl | ⟨-, rfl⟩
    · exact ⟨fun report hmem ↦ absurd hmem List.not_mem_nil, List.Pairwise.nil⟩
    · exact pairwise_reports session.steps hsound
  rw [← List.dropLast_append_getLast session.run_ne_nil] at h hgrows
  rcases List.mem_append.1 h with hbefore | hlast
  · exact (List.pairwise_append.1 hgrows).2.2 report hbefore _ (List.mem_singleton.2 rfl)
  · rw [List.mem_singleton.1 hlast]
    exact List.Subset.refl _

/-! ### The machines of a session -/

/-- The machines that a session comes by while nothing is under way, whatever errors came before:
after its start, at the end of a step and at the beginning of the next, after a drain, and between
the lines of an input. A builtin command is done or a job launched from one of them, as what a line
does before that is a drain and then quiet. -/
inductive Reaches : Machine → Prop
  | start (h : session.start.ending = .replied .ok) : Reaches session.start.machine
  | step {m} (step : Step) (h : Reaches m) (hgoes : (step.perform m).ending.goesOn = true) :
    Reaches (step.perform m).machine
  | begin {m} (script : Script) (h : Reaches m) : Reaches (m.beginStep script)
  | drain {m m'} (h : Reaches m) (hdrain : Shell.drain m = (.done (), m')) : Reaches m'
  | line {m m'} (bytes : List UInt8) (h : Reaches m)
    (hline : Shell.reporting (Shell.executeBytes bytes) m = (.done (), m')) : Reaches m'
  | quiet {m} {event : Event} (h : Reaches m) (hquiet : event.isQuiet = true) :
    Reaches (m.recording event)

theorem Reaches.path {session : Session} {m : Machine} (h : session.Reaches m) :
    Path Phase.IsOver session.Begins .ready m := by
  have hsound := session.sound_of_begins
  induction h with
  | start h =>
    refine path_of_goesOn trivial (session.leaves_start _) (by rw [h]; rfl) ?_
    exact fun _ _ ↦ trivial
  | step step _ hgoes ih =>
    refine path_of_goesOn trivial ?_ hgoes fun _ _ ↦ trivial
    exact Machine.leaves_perform ih (Instruction.path_perform hsound trivial step.instruction)
  | begin script _ ih => exact ih.beginStep script
  | @drain m m' _ hdrain ih =>
    have hpost := Shell.path_drain .prompt m ih
    rw [hdrain] at hpost
    exact hpost
  | @line m m' bytes _ hline ih =>
    have hpost := Shell.path_reporting (Shell.path_executeBytes hsound bytes) m ih
    rw [hline] at hpost
    exact Path.again hpost trivial
  | quiet _ hquiet ih => exact ih.move (.record (.quiet hquiet))

end Session

/-- A session in which a launch cannot put the mask back, so that the signal for children stays
blocked when the next program ends before the shell waits for it. -/
def napping : Session where
  steps := [⟨.line "rest &", { failures := fun | .changeMask => [none, some .einval] | _ => [] }⟩,
    ⟨.line "nap", { atFork := [[.child 1002 (.exited 0)]], batches := [[]] }⟩]

/-- A session in which two programs end before the fork of the second one returns, with one signal
for both. -/
def racing : Session where
  steps := [⟨.line "rest &", {}⟩,
    ⟨.line "nap", { atFork := [[.child 1001 (.exited 0), .child 1002 (.exited 0)]] }⟩]

end JobShell
