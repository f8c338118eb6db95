import JobShell.Proofs.Orderly.Routines

/-!
# Which failures are fatal

A line fails the shell exactly when a call failed that the shell cannot do without: blocking
signals, forking, or waiting while there are children. The error is then never one that the user can
act on, and nothing was said about it. All other failures of a line are the user's and are reported
in one line, or do not matter and are logged at most.
-/

namespace JobShell

theorem Outcome.ofResult_injective {α : Type} {result result' : Except Error α}
    (h : ofResult result = ofResult result') : result = result' := by
  cases result <;> cases result' <;> cases h <;> rfl

namespace Shell

open Routine

variable {session : Session} {m m₁ m' : Machine} {line : String}

/-! ### Reporting -/

theorem reporting_of_done {routine : Routine Unit} (h : routine m = (.done (), m')) :
    reporting routine m = (.done (), m') := bind_of_done (attempt_apply h)

/-- What reporting an error adds to the trace: a warning in the log, and one text. -/
def reportMoments (error : Error) (s : State) : Trace :=
  [⟨.err (error.report ++ "\n"), s⟩, ⟨.log ⟨.warn, .shell, error.text⟩, s⟩]

theorem reporting_of_recoverable {routine : Routine Unit} {error : Error}
    (h : routine m = (.failed error, m')) (hrecoverable : error.recoverable = true) :
    reporting routine m =
      (.done (), { m' with trace := reportMoments error m'.state ++ m'.trace }) := by
  have hcaught : reporting routine m = _ := bind_of_done (attempt_apply h)
  rw [hcaught]
  dsimp only
  rw [if_pos hrecoverable]
  rfl

/-- A report is no trouble. -/
theorem troubled_report_iff (error : Error) (s : State) (news : Trace) :
    Trace.Troubled (reportMoments error s ++ news) ↔ news.Troubled := by
  refine Trace.troubled_append_iff_right ?_
  rintro (⟨moment, hmem, hfatal⟩ | hne)
  · rcases List.mem_pair.1 hmem with rfl | rfl
    · cases hfatal
    · cases hfatal
  · exact hne rfl

/-- A report is one text. -/
theorem complaints_report (error : Error) (s : State) (news : Trace) :
    Trace.complaints (reportMoments error s ++ news) =
      news.complaints ++ [error.report ++ "\n"] :=
  Trace.filterMap_events_append Event.err? (reportMoments error s) news

theorem reporting_of_irrecoverable {routine : Routine Unit} {error : Error}
    (h : routine m = (.failed error, m')) (hrecoverable : error.recoverable = false) :
    reporting routine m = (.failed error, m') := by
  have hcaught : reporting routine m = _ := bind_of_done (attempt_apply h)
  rw [hcaught]
  dsimp only
  rw [if_neg (by rw [hrecoverable]; decide)]
  rfl

/-- What reporting makes of a routine, if it comes to an end: an error that the user can act on is
reported, and nothing else is changed. -/
theorem reporting_cases {routine : Routine Unit} {outcome : Outcome Unit}
    {result : Except Error Unit} (hroutine : routine m = (outcome, m₁))
    (hreporting : reporting routine m = (.ofResult result, m')) :
    (outcome = .done () ∧ result = .ok () ∧ m' = m₁) ∨
      ∃ error, outcome = .failed error ∧
        (error.recoverable = true ∧ result = .ok () ∧
            m' = { m₁ with trace := reportMoments error m₁.state ++ m₁.trace } ∨
          error.recoverable = false ∧ result = .error error ∧ m' = m₁) := by
  have hends {r : Except Error Unit} {n : Machine} (h : reporting routine m = (.ofResult r, n)) :
      result = r ∧ m' = n := by
    obtain ⟨hresult, rfl⟩ := Prod.mk.inj (hreporting.symm.trans h)
    exact ⟨Outcome.ofResult_injective hresult, rfl⟩
  cases outcome with
  | done value => exact Or.inl ⟨rfl, hends (r := .ok ()) (reporting_of_done hroutine)⟩
  | failed error =>
    refine Or.inr ⟨error, rfl, ?_⟩
    cases hrecoverable : error.recoverable with
    | true =>
      have hreport := reporting_of_recoverable hroutine hrecoverable
      exact Or.inl ⟨rfl, hends (r := .ok ()) hreport⟩
    | false =>
      have hreport := reporting_of_irrecoverable hroutine hrecoverable
      exact Or.inr ⟨rfl, hends (r := .error error) hreport⟩
  | exited status =>
    have hexited : reporting routine m = (.exited status, m₁) :=
      bind_of_exited (attempt_apply hroutine)
    exact absurd (hreporting.symm.trans hexited) (by cases result <;> nofun)
  | stalled =>
    have hstalled : reporting routine m = (.stalled, m₁) :=
      bind_of_stalled (attempt_apply hroutine)
    exact absurd (hreporting.symm.trans hstalled) (by cases result <;> nofun)

/-! ### Lines -/

/-- **Exactly the calls that the shell relies on are fatal.** A line that comes to an end, whatever
happens and whatever calls fail meanwhile, fails exactly if blocking signals failed, a fork failed,
or a wait failed for another reason than that there is no child, as it also does if the status it
took cannot be read. The error is then not one that the user can act on, and nothing was written to
the standard error. Otherwise the command was done and nothing was written there, or the command
failed with an error that the user can act on, of which one report was written. -/
theorem line_fails_iff_troubled (hfirst : 1 ≤ session.firstPid) (hreach : session.Reaches m)
    {result : Except Error Unit} (hline : executeLine line m = (.ofResult result, m')) :
    ∃ news, m'.trace = news ++ m.trace ∧
      ((∃ error, result = .error error) ↔ news.Troubled) ∧
      (∀ error, result = .error error → error.recoverable = false ∧ news.complaints = []) ∧
      (result = .ok () → ((execute line m).1 = .done () ∧ news.complaints = []) ∨
        ∃ error, (execute line m).1 = .failed error ∧ error.recoverable = true ∧
          news.complaints = [error.report ++ "\n"]) := by
  have hends := orderly_execute line m (fit_of_reaches hreach fun _ : True ↦ hfirst)
  rcases hr : execute line m with ⟨outcome, m₁⟩
  rw [hr] at hends
  rcases reporting_cases hr hline with
    ⟨rfl, rfl, rfl⟩ | ⟨error, rfl, ⟨hrecoverable, rfl, rfl⟩ | ⟨hrecoverable, rfl, rfl⟩⟩
  · cases hends with
    | @done _ news _ h =>
      refine ⟨news, h.trace, ?_, nofun, fun _ ↦ Or.inl ⟨rfl, h.silent trivial⟩⟩
      exact iff_of_false nofun (h.trouble trivial).1
  · cases hends with
    | @failed _ news _ h =>
      refine ⟨reportMoments error m₁.state ++ news, ?_, ?_, nofun, fun _ ↦ Or.inr ?_⟩
      · rw [List.append_assoc, ← h.trace]
      · rw [troubled_report_iff, h.trouble trivial, hrecoverable]
        exact iff_of_false nofun Bool.noConfusion
      · refine ⟨error, rfl, hrecoverable, ?_⟩
        rw [complaints_report, h.silent trivial, List.nil_append]
  · cases hends with
    | @failed _ news _ h =>
      refine ⟨news, h.trace, iff_of_true ⟨_, rfl⟩ ((h.trouble trivial).2 hrecoverable), ?_, nofun⟩
      intro error' heq
      obtain rfl := Except.error.inj heq
      exact ⟨hrecoverable, h.silent trivial⟩

/-- A session that starts one program, on a system that has no room for a second one. -/
def crowded : Session where
  steps := [⟨.line "rest &", {}⟩]

/-- The shell at the beginning of the step in which the second program is refused. -/
def refused : Machine :=
  (Step.perform ⟨.line "rest &", {}⟩ crowded.start.machine).machine.beginStep
    { failures := fun | .fork => [some .eagain] | _ => [] }

/-- A fork that fails is fatal. -/
theorem fails_of_refused : 1 ≤ crowded.firstPid ∧ crowded.Reaches refused ∧ ∃ m' news,
    executeLine "nap" refused = (.failed (.ofCall .forking .eagain), m') ∧
      m'.trace = news ++ refused.trace ∧ news.Troubled ∧ news.complaints = [] := by
  have hreach : crowded.Reaches refused :=
    .begin _ (.step _ (.start (by decide +kernel)) (by decide +kernel))
  have houtcome : (executeLine "nap" refused).1 = .failed (.ofCall .forking .eagain) := by
    decide +kernel
  have hline : executeLine "nap" refused =
      (.ofResult (.error (.ofCall .forking .eagain)), (executeLine "nap" refused).2) := by
    rw [Outcome.ofResult, ← houtcome]
  obtain ⟨news, htrace, htroubled, hfailed, -⟩ :=
    line_fails_iff_troubled (by decide) hreach hline
  exact ⟨by decide, hreach, _, news, hline, htrace, htroubled.1 ⟨_, rfl⟩, (hfailed _ rfl).2⟩

end Shell

end JobShell
