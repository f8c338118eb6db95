import JobShell.Proofs.Continuing
import JobShell.Proofs.LineLaunches

/-!
# Foreground discipline

At most one job is in the foreground, and none when the shell is done with what it was asked for.
What was put there is named by what was asked: the new job of a program that does not run in the
background, and the job that `fg` is told. Such work is done only when that job was removed or
stopped.
-/

namespace JobShell

open Routine

/-- The process has no job any more, or one that is stopped. -/
def JobTable.IsGoneOrStopped (table : JobTable) (pid : Pid) : Prop :=
  ∀ job ∈ table.jobs, job.pid = pid → job.state = .stopped

namespace Shell

variable {m m' m₁ : Machine} {command : Command} {job : Job} {spec : JobSpec}

/-! ### What a line does in the foreground -/

/-- An echo is something quiet. -/
theorem of_echoing {pre : Machine → Prop} (h : Steady pre) (hm : pre m) (command : Command) :
    pre (echoing m command) := by
  have hlogged : pre (m.recording (.log ⟨.debug, .shell, command.inspect⟩)) := h.quiet _ _ rfl hm
  unfold echoing echoes
  cases m.state.settings.verbose with
  | false => exact hlogged
  | true =>
    cases command.background with
    | false => exact h.quiet _ _ rfl hlogged
    | true => exact h.quiet _ _ rfl (h.quiet _ _ rfl hlogged)

/-- `fg` is done when the job it was told is. -/
theorem foreground_of_runBuiltin_done {arguments : List String}
    (h : runBuiltin .fg arguments m = (.done (), m')) :
    ∃ text rest spec, arguments = text :: rest ∧ JobSpec.parse? text = some spec ∧
      foreground spec m = (.done (), m') := by
  unfold runBuiltin at h
  obtain ⟨result, m₁, hattempt, h⟩ := exists_of_bind_done h
  have hperform := eq_of_attempt_done hattempt
  cases result with
  | error error => cases h
  | ok _ =>
    cases h
    obtain ⟨spec, m₂, hargument, hforeground⟩ := exists_of_bind_done hperform
    obtain ⟨rfl, text, rest, harguments, hspec⟩ := exists_of_jobArgument hargument
    exact ⟨text, rest, spec, harguments, hspec, hforeground⟩

/-- The new job of a launch is among what happened in it. -/
theorem exists_added_of_launch (hplays : m.playsChildren = false) (hnamed : command.NamesProgram)
    (h : launch command m = (.done job, m')) :
    ∃ news, m'.history = news ++ m.history ∧
      ∃ moment ∈ news, moment.event = .jobs (.added job) := by
  obtain ⟨-, hdid⟩ := did_of_launch hplays hnamed h
  have hemits : Emits (fun _ ↦ True) (launch command) :=
    emits_launch ⟨fun _ _ ↦ trivial⟩ (fun _ _ ↦ trivial)
      ⟨⟨fun _ _ _ _ ↦ trivial, fun _ _ _ ↦ trivial⟩, fun _ _ ↦ trivial⟩
  obtain ⟨-, hpast, -, -, news, htrace, -⟩ := (hemits m).emitted hplays h
  refine ⟨news, by rw [Machine.history, Machine.history, hpast, htrace, List.append_assoc], ?_⟩
  have hdeeds := hdid.deeds
  rw [htrace, Trace.deeds, Trace.filterMap_events_append] at hdeeds
  have hmem : .jobs (.added job) ∈ (Trace.events news).filterMap Event.deed? := by
    rw [List.append_cancel_left hdeeds]
    simp
  obtain ⟨event, hevent, hdeed⟩ := List.mem_filterMap.1 hmem
  obtain ⟨moment, hmoment, rfl⟩ := List.mem_map.1 (List.mem_reverse.1 hevent)
  refine ⟨moment, hmoment, ?_⟩
  unfold Event.deed? at hdeed
  split at hdeed
  · cases hdeed
  · exact Option.some.inj hdeed

/-! ### What becomes of the job -/

/-- From `m` to `m'` a process was launched as the job that the command asks for, which was put into
a free slot, in the foreground. That job is gone now or stopped. -/
def LaunchesInFront (m : Machine) (command : Command) (m' : Machine) : Prop :=
  ∃ job m₂ i, launch command (echoing m command) = (.done job, m₂) ∧
    job.state = .foreground ∧ job.commandLine = command.input ∧
      m.state.jobs.Rewrites m₂.state.jobs i none (some job) ∧
        m'.state.jobs.IsGoneOrStopped job.pid

/-- The specification named a job of the table of `m`, which in `m'` is gone or stopped. -/
def ContinuesInFront (m : Machine) (spec : JobSpec) (m' : Machine) : Prop :=
  ∃ job ∈ m.state.jobs.jobs, m.state.jobs.resolve spec = .ok job ∧ spec.Names job ∧
    m'.state.jobs.IsGoneOrStopped job.pid

section

variable {session : Session} (h : Path Phase.IsFine session.Begins .ready m)
include h

/-- A job that is continued in the foreground is waited for. -/
theorem continuesInFront (hdone : foreground spec m = (.done (), m')) :
    ContinuesInFront m spec m' := by
  cases hresolve : m.state.jobs.resolve spec with
  | error error => cases (foreground_of_resolve_eq_error hresolve).symm.trans hdone
  | ok job =>
    have hmem := JobTable.mem_jobs_of_resolve hresolve
    refine ⟨job, hmem, hresolve, JobTable.names_of_resolve hresolve, ?_⟩
    cases hsend : m.failure? .send with
    | some errno => cases (foreground_of_errno hresolve hsend).symm.trans hdone
    | none => exact stopped_of_continuesBeforeWait h (continuesBeforeWait h hresolve hsend) hdone

/-- A job that is launched in the foreground is waited for. -/
theorem launchesInFront (hnamed : command.NamesProgram) (hbackground : command.background = false)
    (hdone : run command m = (.done (), m')) : LaunchesInFront m command m' := by
  have hechoed : Path Phase.IsFine session.Begins .ready (echoing m command) :=
    of_echoing Path.steady h command
  have hplays := (hechoed.sound session.sound_of_begins).plays
  rw [run_of_namesProgram hnamed] at hdone
  obtain ⟨job, m₂, hlaunch, hrest⟩ := exists_of_bind_done hdone
  simp only [hbackground, Bool.false_eq_true, if_false] at hrest
  obtain ⟨hadd, hdid⟩ := did_of_launch hplays hnamed hlaunch
  obtain ⟨-, hjob, -⟩ := JobTable.exists_of_add hadd
  obtain ⟨i, hrewrites, -⟩ := JobTable.rewrites_of_add hadd
  have hstate : job.state = .foreground := by
    rw [hjob]
    exact if_neg (by rw [hbackground]; exact Bool.false_ne_true)
  refine ⟨job, m₂, i, hlaunch, hstate, by rw [hjob], hrewrites, ?_⟩
  -- The new job is among those that were put in the foreground since the echo.
  have hprogram : command.program? ≠ none := by
    obtain ⟨program, hprogram, -⟩ := hnamed
    rw [hprogram]
    exact Option.some_ne_none program
  obtain ⟨news, hnews, hstopped⟩ :=
    stopped_of_fronted hechoed (fun _ hstart ↦ path_runProgram hstart hprogram) hdone
  obtain ⟨launched, hlaunched, moment, hmem, hadded⟩ :=
    exists_added_of_launch hplays hnamed hlaunch
  obtain ⟨waited, hwaited, -⟩ := exists_news_of_waitFor hdid.plays job.pid
  rw [hrest, hlaunched, ← List.append_assoc, hnews] at hwaited
  refine hstopped moment ?_ job ?_
  · rw [List.append_cancel_right hwaited]
    exact List.mem_append_right _ hmem
  · rw [hadded]
    exact if_pos hstate

end

/-- What a line that is done has put in the foreground since its drain, which has led to `m`. -/
structure LineInFront (m : Machine) (command : Command) (m' : Machine) : Prop where
  /-- A program that does not run in the background. -/
  launches : command.NamesProgram → command.background = false → LaunchesInFront m command m'
  /-- The job that `fg` was told, which it must have been. -/
  continues : ∀ arguments, command.argv = "fg" :: arguments → ∃ text rest spec,
    arguments = text :: rest ∧ JobSpec.parse? text = some spec ∧ ContinuesInFront m spec m'

theorem exists_lineInFront {session : Session} (h : Path Phase.IsFine session.Begins .ready m)
    {line : String} (hparse : Command.parse line = .ok command)
    (hdone : execute line m = (.done (), m')) :
    ∃ m₁, drain m = (.done (), m₁) ∧ LineInFront m₁ command m' := by
  obtain ⟨_, m₁, hdrain, hrest⟩ := exists_of_bind_done hdone
  have hdrained : Path Phase.IsFine session.Begins .ready m₁ := by
    have hpost := path_drain .prompt m h
    rw [hdrain] at hpost
    exact hpost
  have hrun : run command m₁ = (.done (), m') := (runParsed_of_ok hparse).symm.trans hrest
  refine ⟨m₁, hdrain, fun hnamed hbackground ↦ launchesInFront hdrained hnamed hbackground hrun, ?_⟩
  intro arguments hargv
  have hprogram : command.program? = some "fg" := by
    rw [Command.program?, hargv]
    rfl
  have hbuiltin : runBuiltin .fg command.args (echoing m₁ command) = (.done (), m') :=
    (run_of_program? hprogram).symm.trans hrun
  obtain ⟨text, rest, spec, harguments, hspec, hforeground⟩ :=
    foreground_of_runBuiltin_done hbuiltin
  rw [Command.args, hargv] at harguments
  have hcontinues : ContinuesInFront (echoing m₁ command) spec m' :=
    continuesInFront (of_echoing Path.steady hdrained command) hforeground
  exact ⟨text, rest, spec, harguments, hspec, hcontinues⟩

end Shell

/-- **Foreground discipline.** Up to and including the first fatal error of a session, at most one
job is in the foreground at every moment, and none is when a step ends in any other way. Whenever
running a line or continuing a job in the foreground is done, each job that it has put in the
foreground was removed or is stopped. Such a job is the one that was to be continued, and, of a
line, the new job of its program or the job that its `fg` names. -/
theorem foreground_discipline (session : Session) :
    (∀ earlier report later, session.run = earlier ++ report :: later →
      (∀ before ∈ earlier, before.ending.isFatal = false) →
        (∀ moment ∈ report.machine.history, moment.state.jobs.foregroundJobs.length ≤ 1) ∧
          report.state.jobs.foregroundJobs.length ≤ 1 ∧
          (report.ending.goesOn = true → report.ending.isFatal = false →
            report.state.jobs.foregroundJobs = [])) ∧
      (∀ m m', session.Idles m →
        ((∃ line, Shell.execute line m = (.done (), m')) ∨
          ∃ spec, Shell.foreground spec m = (.done (), m')) →
        ∃ news, m'.history = news ++ m.history ∧ ∀ moment ∈ news, ∀ job,
          moment.event.fronted? = some job →
            ∀ other ∈ m'.state.jobs.jobs, other.pid = job.pid → other.state = .stopped) ∧
      (∀ m m' spec, session.Idles m → Shell.foreground spec m = (.done (), m') →
        Shell.ContinuesInFront m spec m') ∧
      ∀ m m' line command, session.Idles m → Command.parse line = .ok command →
        Shell.execute line m = (.done (), m') →
          ∃ m₁, Shell.drain m = (.done (), m₁) ∧ Shell.LineInFront m₁ command m' := by
  have hsound := session.sound_of_begins
  refine ⟨?_, ?_, ?_, ?_⟩
  · intro earlier report later hsplit hearlier
    have hleaves : report.ending.Leaves Phase.IsFine session.Begins report.machine :=
      session.leaves_of_run trivial hsplit fun before hmem ↦
        survives_of_isFatal (hearlier before hmem)
    obtain ⟨p, hpath⟩ := hleaves.onPath
    have hdisciplined := hpath.disciplined (fun _ ↦ id) hsound disciplined_of_begins
    refine ⟨?_, ?_, fun hgoes hfatal ↦ ?_⟩
    · exact hpath.length_foregroundJobs_le (fun _ ↦ id) hsound
        fun m hm ↦ ⟨disciplined_of_begins m hm, session.history_of_begins m hm⟩
    · exact hdisciplined.length_foregroundJobs_le (hpath.sound hsound).state.nodup
    · have hready := path_of_goesOn trivial hleaves hgoes (survives_of_isFatal hfatal)
      have hnone := hready.disciplined (fun _ ↦ id) hsound disciplined_of_begins
      exact hnone.foregroundJobs_eq_nil fun _ hfront ↦ hfront
  · rintro m m' hidles (⟨line, hdone⟩ | ⟨spec, hdone⟩)
    · exact stopped_of_fronted hidles.path (fun _ hstart ↦ Shell.path_execute hstart line) hdone
    · exact stopped_of_fronted hidles.path (fun _ hstart ↦ Shell.path_foreground hstart spec) hdone
  · exact fun m m' spec hidles hdone ↦ Shell.continuesInFront hidles.path hdone
  · exact fun m m' line command hidles hparse hdone ↦
      Shell.exists_lineInFront hidles.path hparse hdone

/-- The shell of `rested` in a step in which, once the shell sleeps, its program is stopped. -/
def interrupted : Machine := Shell.rested.beginStep { batches := [[.child 1001 (.stopped 20)]] }

/-- Continued in the foreground, the program is stopped there. A second program that is waited for
instead is gone in the end. -/
theorem discipline_of_interrupted : Shell.resting.Idles interrupted ∧
    interrupted.state.jobs.jobs = [⟨1, 1001, .background, "rest &"⟩] ∧
    (∃ m', Shell.foreground (.job 1) interrupted = (.done (), m') ∧
      Shell.ContinuesInFront interrupted (.job 1) m' ∧
      m'.state.jobs.jobs = [⟨1, 1001, .stopped, "rest &"⟩]) ∧
    ∃ m₁ m', Shell.execute "nap" interrupted = (.done (), m') ∧
      Shell.LaunchesInFront m₁ ⟨"nap", ["nap"], false⟩ m' ∧ m'.state.jobs.jobs = [] := by
  have hidles : Shell.resting.Idles interrupted := by
    refine .begin _ (.step _ (.start ?_) ?_ ?_)
    · decide +kernel
    · decide +kernel
    · decide +kernel
  obtain ⟨-, -, hforeground, hline⟩ := foreground_discipline Shell.resting
  refine ⟨hidles, by decide +kernel, ?_, ?_⟩
  · have hdone : (Shell.foreground (.job 1) interrupted).1 = .done () := by decide +kernel
    have hjobs : (Shell.foreground (.job 1) interrupted).2.state.jobs.jobs =
        [⟨1, 1001, .stopped, "rest &"⟩] := by decide +kernel
    obtain ⟨m', hm', hjobs'⟩ : ∃ m', Shell.foreground (.job 1) interrupted = (.done (), m') ∧
        m'.state.jobs.jobs = [⟨1, 1001, .stopped, "rest &"⟩] := ⟨_, by rw [← hdone], hjobs⟩
    exact ⟨m', hm', hforeground _ _ _ hidles hm', hjobs'⟩
  · have hdone : (Shell.execute "nap" interrupted).1 = .done () := by decide +kernel
    have hjobs : (Shell.execute "nap" interrupted).2.state.jobs.jobs = [] := by decide +kernel
    obtain ⟨m', hm', hjobs'⟩ : ∃ m', Shell.execute "nap" interrupted = (.done (), m') ∧
        m'.state.jobs.jobs = [] := ⟨_, by rw [← hdone], hjobs⟩
    have hparse : Command.parse "nap" = .ok ⟨"nap", ["nap"], false⟩ := by decide +kernel
    obtain ⟨m₁, -, hfront⟩ := hline _ _ _ _ hidles hparse hm'
    exact ⟨m₁, m', hm', hfront.launches ⟨"nap", rfl, by decide⟩ rfl, hjobs'⟩

-- The bound is attained: the nap is in the foreground for a while.
example : ∃ moment ∈ napping.history, moment.state.jobs.foregroundJobs.length = 1 := by
  decide +kernel

end JobShell
