import JobShell.Proofs.Orderly.Routines

/-!
# The signal mask is put back

The shell blocks only the signals that leave a note and nothing else. It puts the mask back at the
end of whatever it blocked them for, so a step leaves the mask as it found it unless the kernel
refuses to put it back or the shell ends in it. So the quit key is never held back, and nothing
comes after it.
-/

namespace JobShell

open Routine

namespace SignalSet

/-- Every signal of the first set is in the second. -/
instance : HasSubset SignalSet := ⟨fun a b ↦ ∀ s, a.contains s = true → b.contains s = true⟩

/-- The only handled signal that leaves more than a note is the quit key's. -/
theorem subset_noted_iff {mask : SignalSet} : mask ⊆ noted ↔ mask.contains .quit = false := by
  refine ⟨fun h ↦ ?_, fun h s hs ↦ ?_⟩
  · cases hquit : mask.contains .quit with
    | false => rfl
    | true => exact absurd (h .quit hquit) (by decide)
  · cases s with
    | quit =>
      rw [h] at hs
      cases hs
    | _ => rfl

end SignalSet

/-! ### Steps -/

/-- All that happened left the quit key unblocked, and it was not typed. -/
def Trace.IsHeedful (trace : Trace) : Prop :=
  ∀ moment ∈ trace, moment.state.kernel.mask ⊆ SignalSet.noted ∧
    moment.event ≠ .happened (.raised .quit)

/-- The shell goes on as it should, or the quit key has just ended it. -/
def Report.IsHeedful (report : Report) : Prop :=
  (report.machine.Fit False ∧ report.machine.history.IsHeedful) ∨
    report.ending = .exited 1 ∧
      ∃ m : Machine, report.machine = m.quitting ∧ m.Fit False ∧ m.history.IsHeedful

variable {m m' : Machine} {script : Script} {news : Trace}

/-- What orderly work adds is heedful, so the whole history stays so. -/
theorem Adds.isHeedful (h : Adds False (m.beginStep script) news m')
    (hm : m.history.IsHeedful) : m'.history.IsHeedful := by
  have hhistory : m'.history = news ++ m.history := by
    rw [Machine.history, h.trace, h.past, List.append_assoc]
    rfl
  rw [hhistory]
  intro moment hmem
  rcases List.mem_append.1 hmem with hnew | hold
  · exact ⟨SignalSet.subset_noted_iff.2 (h.heeds moment hnew), h.quit moment hnew⟩
  · exact hm moment hold

theorem fit_beginStep (h : m.Fit False) : (m.beginStep script).Fit False :=
  ⟨h.plays, h.heeds, h.quit, False.elim⟩

/-- How a step of orderly work ends. -/
theorem ends_perform {routine : Routine Reply} (h : Orderly False routine) (hm : m.Fit False)
    (script : Script) : ∃ outcome, (m.perform script routine).ending = .ofOutcome outcome ∧
      Ends False (m.beginStep script) outcome (m.perform script routine).machine :=
  ⟨_, rfl, h _ (fit_beginStep hm)⟩

/-- A step of orderly work is heedful to its end, which may be that the quit key was typed. -/
theorem isHeedful_perform {routine : Routine Reply} (h : Orderly False routine)
    (hm : m.Fit False) (hhistory : m.history.IsHeedful) (script : Script) :
    (m.perform script routine).IsHeedful := by
  obtain ⟨outcome, hending, hends⟩ := ends_perform h hm script
  unfold Report.IsHeedful
  generalize m.perform script routine = report at hending hends ⊢
  obtain ⟨ending, m'⟩ := report
  cases hends with
  | done h => exact Or.inl ⟨h.fit, h.toAdds.isHeedful hhistory⟩
  | failed h => exact Or.inl ⟨h.fit, h.toAdds.isHeedful hhistory⟩
  | exited h => exact Or.inl ⟨h.fit, h.isHeedful hhistory⟩
  | stalled h => exact Or.inl ⟨h.fit, h.isHeedful hhistory⟩
  | quit h => exact Or.inr ⟨hending, _, rfl, h.fit, h.isHeedful hhistory⟩

/-- A step begins where the one before has left off without the quit key. -/
theorem isHeedful_of_mem_reports (steps : List Step) (hm : m.Fit False)
    (hhistory : m.history.IsHeedful) : ∀ report ∈ reports steps m, report.IsHeedful := by
  induction steps generalizing m with
  | nil => exact fun report hmem ↦ absurd hmem List.not_mem_nil
  | cons step steps ih =>
    have hfirst : (step.perform m).IsHeedful :=
      isHeedful_perform (Instruction.orderly_perform not_false _) hm hhistory step.script
    intro report hmem
    rw [reports] at hmem
    rcases List.mem_cons.1 hmem with rfl | hrest
    · exact hfirst
    · split at hrest
      · next hgoes =>
        rcases hfirst with ⟨hfit, hheedful⟩ | ⟨hending, -⟩
        · exact ih hfit hheedful report hrest
        · rw [hending] at hgoes
          cases hgoes
      · exact absurd hrest List.not_mem_nil

/-- Orderly work that is answered leaves the mask as it found it, if it lost none. -/
theorem mask_of_orderly {routine : Routine Reply} (h : Orderly False routine) (hm : m.Fit False)
    (hgoes : (m.perform script routine).ending.goesOn = true)
    (hkept : ¬ (m.perform script routine).trace.LosesMask) :
    (m.perform script routine).state.kernel.mask = m.state.kernel.mask := by
  obtain ⟨outcome, hending, hends⟩ := ends_perform h hm script
  generalize m.perform script routine = report at hending hends hgoes hkept ⊢
  obtain ⟨ending, m'⟩ := report
  obtain rfl : ending = .ofOutcome outcome := hending
  have hnews {news : Trace} (htrace : m'.trace = news ++ (m.beginStep script).trace) :
      ¬ news.LosesMask := by
    replace htrace : m'.trace = news ++ [] := htrace
    rw [List.append_nil] at htrace
    rwa [← htrace]
  cases hends with
  | done h => exact h.mask (hnews h.trace)
  | failed h => exact h.mask (hnews h.trace)
  | exited h => cases hgoes
  | stalled h => cases hgoes
  | quit h => cases hgoes

/-- Every instruction is orderly work. -/
theorem mask_perform {step : Step} (hm : m.Fit False)
    (hgoes : (step.perform m).ending.goesOn = true) (hkept : ¬ (step.perform m).trace.LosesMask) :
    (step.perform m).state.kernel.mask = m.state.kernel.mask :=
  mask_of_orderly (Instruction.orderly_perform not_false step.instruction) hm hgoes hkept

/-! ### Sessions -/

namespace Session

variable (session : Session)

theorem fit_initial : session.initial.Fit False := ⟨rfl, rfl, rfl, False.elim⟩

theorem orderly_start : Orderly False (do Shell.start; return Reply.ok) :=
  (Shell.orderly_start not_false).bind fun _ ↦ orderly_pure _

/-- A shell that was started blocks no signal, if it lost no mask. -/
theorem mask_start (h : session.start.ending.goesOn = true)
    (hkept : ¬ session.start.trace.LosesMask) : session.start.state.kernel.mask = .empty :=
  mask_of_orderly orderly_start session.fit_initial h hkept

/-- From the start on, every step is heedful. -/
theorem isHeedful_of_mem_run : ∀ report ∈ session.run, report.IsHeedful := by
  have hstart : session.start.IsHeedful := by
    refine isHeedful_perform orderly_start session.fit_initial ?_ session.startScript
    exact fun moment hmem ↦ absurd hmem List.not_mem_nil
  obtain ⟨rest, hrun, hrest⟩ := session.run_eq
  rw [hrun]
  intro report hmem
  rcases List.mem_cons.1 hmem with rfl | hmem
  · exact hstart
  · rcases hrest with rfl | ⟨hgoes, rfl⟩
    · exact absurd hmem List.not_mem_nil
    · rcases hstart with ⟨hfit, hhistory⟩ | ⟨hending, -⟩
      · exact isHeedful_of_mem_reports session.steps hfit hhistory report hmem
      · rw [hending] at hgoes
        cases hgoes

end Session

/-- What the quit key leaves behind when it has ended the shell. -/
theorem history_quitting (h : m.state.kernel.mask.contains .quit = false) :
    m.quitting.state = m.state ∧ m.quitting.history =
      [⟨.call ⟨.leave 1, .never⟩, m.state⟩, ⟨.out (Kernel.quitNotice ++ "\n"), m.state⟩,
        ⟨.happened (.raised .quit), m.state⟩] ++ m.history := by
  rw [Machine.quitting, Kernel.after_quit h]
  exact ⟨rfl, rfl⟩

namespace Report

variable {report : Report}

/-- Not to mask the quit key is to mask no signal but those that are noted. -/
theorem IsHeedful.mask (h : report.IsHeedful) :
    report.state.kernel.mask ⊆ SignalSet.noted ∧
      ∀ moment ∈ report.machine.history, moment.state.kernel.mask ⊆ SignalSet.noted := by
  rcases h with ⟨hfit, hhistory⟩ | ⟨-, n, hmachine, hfit, hhistory⟩
  · exact ⟨SignalSet.subset_noted_iff.2 hfit.heeds, fun moment hmem ↦ (hhistory moment hmem).1⟩
  · obtain ⟨hstate, heq⟩ := history_quitting hfit.heeds
    have hmask : n.state.kernel.mask ⊆ SignalSet.noted := SignalSet.subset_noted_iff.2 hfit.heeds
    rw [Report.state, hmachine, hstate, heq]
    refine ⟨hmask, fun moment hmem ↦ ?_⟩
    rcases List.mem_append.1 hmem with hlast | hold
    · simp only [List.mem_cons, List.not_mem_nil, or_false] at hlast
      rcases hlast with rfl | rfl | rfl <;> exact hmask
    · exact (hhistory moment hold).1

/-- After the quit key was typed, the shell only says so and leaves. -/
theorem IsHeedful.events_later (h : report.IsHeedful) {later earlier : Trace} {moment : Moment}
    (hsplit : report.machine.history = later ++ moment :: earlier)
    (hevent : moment.event = .happened (.raised .quit)) :
    Trace.events later = [.out (Kernel.quitNotice ++ "\n"), .call ⟨.leave 1, .never⟩] ∧
      report.ending = .exited 1 := by
  rcases h with ⟨-, hhistory⟩ | ⟨hending, n, hmachine, hfit, hhistory⟩
  · exact absurd hevent (hhistory moment (by rw [hsplit]; simp)).2
  · rw [hmachine, (history_quitting hfit.heeds).2] at hsplit
    -- The key is the third moment from the end: the later two are no occurrences, and in what was
    -- before the key was not typed.
    rcases later with _ | ⟨first, _ | ⟨second, _ | ⟨third, later⟩⟩⟩
    · obtain ⟨rfl, -⟩ := List.cons.inj hsplit
      cases hevent
    · obtain ⟨rfl, -⟩ := List.cons.inj (List.cons.inj hsplit).2
      cases hevent
    · obtain ⟨rfl, hrest⟩ := List.cons.inj hsplit
      obtain ⟨rfl, -⟩ := List.cons.inj hrest
      exact ⟨rfl, hending⟩
    · have hold : n.history = later ++ moment :: earlier :=
        (List.cons.inj (List.cons.inj (List.cons.inj hsplit).2).2).2
      exact absurd hevent (hhistory moment (by rw [hold]; simp)).2

end Report

/-- **The signal mask is put back, and the quit key is never held back.** In every session the shell
blocks no signal but the three that leave a note, at no moment. Whatever happens and whatever fails,
a step that does not end the process leaves the mask as it found it, unless the kernel refused to
put a mask back. When the quit key is typed, the shell says so, leaves with status 1, and does
nothing else. -/
theorem mask_discipline (session : Session) :
    (∀ report ∈ session.run, report.state.kernel.mask ⊆ SignalSet.noted ∧
      ∀ moment ∈ report.machine.history, moment.state.kernel.mask ⊆ SignalSet.noted) ∧
    (∀ m, session.Reaches m → ∀ step : Step, (step.perform m).ending.goesOn = true →
      ¬ (step.perform m).trace.LosesMask →
        (step.perform m).state.kernel.mask = m.state.kernel.mask) ∧
    ∀ later moment earlier, session.history = later ++ moment :: earlier →
      moment.event = .happened (.raised .quit) →
        Trace.events later =
            [.out (Kernel.quitNotice ++ "\n"), .call ⟨.leave 1, .never⟩] ∧
          session.last.ending = .exited 1 := by
  refine ⟨fun report hmem ↦ (session.isHeedful_of_mem_run report hmem).mask, ?_, ?_⟩
  · exact fun m hreach step hgoes hkept ↦
      mask_perform (fit_of_reaches hreach False.elim) hgoes hkept
  · intro later moment earlier hsplit hevent
    have hlast := session.isHeedful_of_mem_run session.last (List.getLast_mem session.run_ne_nil)
    exact hlast.events_later hsplit hevent

-- The quit key is typed while the shell sleeps for its job, and ends it there.
example : (Session.last { steps := [⟨.line "nap", { batches := [[.raised .quit]] }⟩] }).ending =
    .exited 1 := by decide +kernel

end JobShell
