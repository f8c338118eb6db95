import Mathlib.Data.List.Flatten
import Mathlib.Data.List.Forall2
import JobShell.Proofs.Paired.Routines
import JobShell.Proofs.Path.Session

/-!
# What the settings change

The settings ask for a prompt and for echoes of arguments and new jobs. All of that is said on the
standard output, and nothing else depends on it. So a shell that is asked for none of it says less
than any other shell and otherwise does the same: its run is compared with the other one step by
step, where the other may put in a word at any time (`Machine.SaysLess`). Two shells of which
neither is silent are compared by way of a third one that is.
-/

namespace JobShell

open Routine

/-- Neither a prompt nor an echo is asked for. -/
def Settings.silent : Settings := ⟨false, false⟩

/-- The event writes to the standard output. -/
def Event.isOut : Event → Bool
  | out _ => true
  | _ => false

/-! ### Traces in which more is said -/

/-- The second trace holds, apart from log records, the events of the first in order, and besides
them only words on the standard output. -/
structure Trace.SaysLess (trace trace' : Trace) : Prop where
  sublist : trace.unlogged.Sublist trace'.unlogged
  wordless : trace'.unlogged.filter (fun event ↦ !event.isOut) =
    trace.unlogged.filter fun event ↦ !event.isOut

namespace Trace.SaysLess

variable {trace trace' : Trace}

theorem nil : SaysLess [] [] := ⟨List.Sublist.slnil, rfl⟩

/-- The same event may be added to both traces. -/
theorem cons (h : trace.SaysLess trace') (event : Event) (s s' : State) :
    SaysLess (⟨event, s⟩ :: trace) (⟨event, s'⟩ :: trace') := by
  cases hlog : event.log?.isNone with
  | false =>
    have hskip : ∀ (s : State) (trace : Trace),
        Trace.unlogged (⟨event, s⟩ :: trace) = trace.unlogged :=
      fun _ _ ↦ List.filter_cons_of_neg (by simp [hlog])
    exact ⟨by rw [hskip, hskip]; exact h.sublist, by rw [hskip, hskip]; exact h.wordless⟩
  | true =>
    have hshown : ∀ (s : State) (trace : Trace),
        Trace.unlogged (⟨event, s⟩ :: trace) = event :: trace.unlogged :=
      fun _ _ ↦ List.filter_cons_of_pos hlog
    refine ⟨?_, ?_⟩
    · rw [hshown, hshown]
      exact h.sublist.cons_cons event
    · rw [hshown, hshown, List.filter_cons, List.filter_cons, h.wordless]

/-- Something may be said in the second trace alone. -/
theorem out_right (h : trace.SaysLess trace') (text : String) (s : State) :
    SaysLess trace (⟨.out text, s⟩ :: trace') :=
  ⟨h.sublist.cons _, h.wordless⟩

/-- A log record may be left out of either trace. -/
theorem log_left (h : trace.SaysLess trace') (record : LogRecord) (s : State) :
    SaysLess (⟨.log record, s⟩ :: trace) trace' := ⟨h.sublist, h.wordless⟩

theorem log_right (h : trace.SaysLess trace') (record : LogRecord) (s : State) :
    SaysLess trace (⟨.log record, s⟩ :: trace') := ⟨h.sublist, h.wordless⟩

/-- In the order of time too, the traces are the same without what goes to the user. -/
theorem wordless_reverse (h : trace.SaysLess trace') :
    trace'.unlogged.reverse.filter (fun event ↦ !event.isOut) =
      trace.unlogged.reverse.filter fun event ↦ !event.isOut := by
  rw [List.filter_reverse, List.filter_reverse, h.wordless]

/-- Saying less makes no system call differ. -/
theorem calls_eq (h : trace.SaysLess trace') : trace'.calls = trace.calls := by
  have hcalls : ∀ event : Event, (!event.isOut) = false → event.call? = none := by
    intro event hout
    cases event <;> first | rfl | cases hout
  rw [Trace.calls_eq_unlogged, ← Event.filterMap_filter hcalls, h.wordless_reverse,
    Event.filterMap_filter hcalls, ← Trace.calls_eq_unlogged]

/-- Errors are said in full. -/
theorem err_eq (h : trace.SaysLess trace') : trace'.err = trace.err := by
  have herr : ∀ event : Event, (!event.isOut) = false → event.errText = "" := by
    intro event hout
    cases event <;> first | rfl | cases hout
  rw [Trace.err, Trace.join_eq_unlogged _ fun _ ↦ rfl, ← Event.join_map_filter herr,
    h.wordless_reverse, Event.join_map_filter herr, ← Trace.join_eq_unlogged _ fun _ ↦ rfl]
  rfl

/-- Characters may be left out of the output, and none is put in. -/
theorem out_sublist (h : trace.SaysLess trace') :
    trace.out.toList.Sublist trace'.out.toList := by
  rw [Trace.out, Trace.out, Trace.join_eq_unlogged _ fun _ ↦ rfl,
    Trace.join_eq_unlogged _ fun _ ↦ rfl, String.toList_join, String.toList_join]
  exact (h.sublist.reverse.map Event.outText).flatMap String.toList

end Trace.SaysLess

/-! ### Machines of which one says less -/

/-- The first machine is silent, and the second differs from it in the settings, in what they make
it say and in the log, as far as the present step is concerned. -/
structure Machine.SaysLess (m m' : Machine) : Prop extends m.Concurs m' where
  silent : m.state.settings = .silent
  unplayed : m.playsChildren = false
  noted : m'.state.noted = m.state.noted
  trace : m.trace.SaysLess m'.trace

namespace Machine.SaysLess

variable {m m' : Machine}

theorem recording (h : m.SaysLess m') (event : Event) :
    (m.recording event).SaysLess (m'.recording event) :=
  { h with trace := h.trace.cons event _ _ }

/-- What the settings ask for is not said by the first machine, and perhaps by the second. -/
theorem aside (h : m.SaysLess m') {wanted : Settings → Bool}
    (hwanted : wanted = Settings.verbose ∨ wanted = Settings.prompt) (text : String) :
    (m.aside wanted text).SaysLess (m'.aside wanted text) := by
  have hfirst : m.aside wanted text = m := by
    unfold Machine.aside
    rw [h.silent]
    rcases hwanted with rfl | rfl <;> rfl
  rw [hfirst]
  unfold Machine.aside
  split
  · exact { h with trace := h.trace.out_right text _ }
  · exact h

instance : Thorough Machine.SaysLess where
  concurs h := h.toConcurs
  recording event h := h.recording event
  log_left record h := { h with trace := h.trace.log_left record _ }
  log_right record h := { h with trace := h.trace.log_right record _ }
  aside _ text hwanted h := h.aside hwanted text
  withKernel f h := { h with kernel := congrArg f h.kernel }
  withJobs _ h := { h with jobs := rfl }
  noting signal h := { h with noted := congrArg (·.noting signal) h.noted }
  withScript _ h := { h with script := rfl }
  exhausting h := { h with exhausted := rfl }
  playing h hplays := Bool.noConfusion (h.unplayed.symm.trans hplays)
  noted h := h.noted
  takingNoted h := { h with noted := rfl }

/-- Both machines forget what the step before said. -/
theorem beginStep (h : m.SaysLess m') (script : Script) :
    (m.beginStep script).SaysLess (m'.beginStep script) :=
  { h with script := rfl, exhausted := rfl, trace := .nil }

end Machine.SaysLess

/-! ### Steps and sessions -/

/-- The reports end alike and leave machines of which the first says less. -/
structure Report.SaysLess (report report' : Report) : Prop where
  ending : report'.ending = report.ending
  machine : report.machine.SaysLess report'.machine

theorem Machine.SaysLess.perform {m m' : Machine} (h : m.SaysLess m') {routine : Routine Reply}
    (hroutine : Paired Machine.SaysLess routine routine) (script : Script) :
    (m.perform script routine).SaysLess (m'.perform script routine) := by
  obtain ⟨houtcome, hmachine⟩ := hroutine _ _ (h.beginStep script)
  exact ⟨congrArg Ending.ofOutcome houtcome.symm, hmachine⟩

/-- By induction over the steps, none of which asks for the settings. -/
theorem saysLess_reports {steps : List Step} (h : ∀ step ∈ steps, step.instruction ≠ .inspect)
    {m m' : Machine} (hm : m.SaysLess m') :
    List.Forall₂ Report.SaysLess (reports steps m) (reports steps m') := by
  induction steps generalizing m m' with
  | nil => exact .nil
  | cons step steps ih =>
    obtain ⟨hstep, hsteps⟩ := List.forall_mem_cons.1 h
    have hreport : (step.perform m).SaysLess (step.perform m') :=
      hm.perform (Instruction.paired_perform hstep) step.script
    rw [reports, reports]
    refine .cons hreport ?_
    rw [hreport.ending]
    split
    · exact ih hsteps hreport.machine
    · exact .nil

namespace Session

/-- The session with other settings. -/
def under (session : Session) (settings : Settings) : Session := { session with settings }

/-- A silent session says less than the session with any settings. -/
theorem saysLess_run {session : Session}
    (h : ∀ step ∈ session.steps, step.instruction ≠ .inspect) (settings : Settings) :
    List.Forall₂ Report.SaysLess (session.under .silent).run (session.under settings).run := by
  have hinitial : (session.under .silent).initial.SaysLess (session.under settings).initial :=
    ⟨⟨rfl, rfl, rfl, rfl, rfl, rfl⟩, rfl, rfl, rfl, .nil⟩
  have hstart : (session.under .silent).start.SaysLess (session.under settings).start :=
    hinitial.perform (Shell.paired_start.bind fun _ ↦ paired_pure _) session.startScript
  rw [run_eq_ite, run_eq_ite, hstart.ending]
  refine .cons hstart ?_
  split
  · exact saysLess_reports h hstart.machine
  · exact .nil

end Session

/-- What a step of a shell comes to, apart from the standard output: how it ended, the calls made in
it, what was written to the standard error, and the job table it left. -/
structure Behaviour where
  ending : Ending
  calls : List Call
  err : String
  jobs : JobTable
  deriving DecidableEq

/-- What the step that is reported came to. -/
def Report.behaviour (report : Report) : Behaviour :=
  ⟨report.ending, report.trace.calls, report.trace.err, report.state.jobs⟩

/-- What is left of a report without the output does not depend on the settings. -/
theorem Report.SaysLess.behaviour_eq {report report' : Report} (h : report.SaysLess report') :
    report'.behaviour = report.behaviour := by
  unfold Report.behaviour
  rw [h.ending, show report'.state.jobs = report.state.jobs from h.machine.jobs,
    show report'.trace.calls = report.trace.calls from h.machine.trace.calls_eq,
    show report'.trace.err = report.trace.err from h.machine.trace.err_eq]

/-- **The settings change only what is said.** Take a session in which the shell is not asked to
show itself. Under any two settings its steps come to the same one by one: each ends alike, with the
same reply or exit status, makes the same calls, writes the same to the standard error and leaves
the same job table. And what each step writes to the standard output if nothing is asked for is,
letter by letter, part of what it writes under any other settings. -/
theorem settings_change_only_what_is_said (session : Session)
    (h : ∀ step ∈ session.steps, step.instruction ≠ .inspect) :
    (∀ settings settings', (session.under settings).run.map Report.behaviour =
        (session.under settings').run.map Report.behaviour) ∧
      ∀ settings, List.Forall₂
        (fun silent report ↦ silent.trace.out.toList.Sublist report.trace.out.toList)
        (session.under .silent).run (session.under settings).run := by
  have hbehaviour : ∀ settings, (session.under settings).run.map Report.behaviour =
      (session.under .silent).run.map Report.behaviour := by
    intro settings
    rw [← List.forall₂_eq_eq_eq, List.forall₂_map_left_iff, List.forall₂_map_right_iff]
    exact (Session.saysLess_run h settings).flip.imp fun report silent hless ↦
      hless.behaviour_eq
  refine ⟨fun settings settings' ↦ ?_, fun settings ↦ ?_⟩
  · rw [hbehaviour settings, hbehaviour settings']
  · exact (Session.saysLess_run h settings).imp fun silent report hless ↦
      hless.machine.trace.out_sublist

/-- A session in which one job is stopped and another one killed while the shell waits for the
first. -/
def chatting : Session where
  steps := [
    ⟨.input "nap &\necho \x27a\nlate \x27a b\x27".toUTF8.toList,
      { batches := [[.child 1002 (.stopped 20)]] }⟩,
    ⟨.line "fg %2", { batches := [[.child 1001 (.signaled 9 false), .raised .interrupt]] }⟩,
    ⟨.line "quit", {}⟩]

/-- The loudest shell says more in each step of the session and does what the silent one does. -/
theorem chatting_changes_only_what_is_said :
    (∀ step ∈ chatting.steps, step.instruction ≠ .inspect) ∧
    (chatting.under .silent).run.map (·.trace.out) =
      ["", "[1] (1001) nap &\nJob [2] (1002) stopped by signal 20\n",
        "Job [1] (1001) terminated by signal 9\n", ""] ∧
    (chatting.under ⟨true, true⟩).run.map (·.trace.out) =
      ["", "tsh> background job requested\nargv[0]=nap\nAdded job [1] 1001 nap &\n" ++
          "[1] (1001) nap &\ntsh> tsh> argv[0]=late, argv[1]=a b\n" ++
          "Added job [2] 1002 late \x27a b\x27\nJob [2] (1002) stopped by signal 20\ntsh> ",
        "argv[0]=fg, argv[1]=%2\nJob [1] (1001) terminated by signal 9\n", "argv[0]=quit\n"] ∧
    (∀ settings settings', (chatting.under settings).run.map Report.behaviour =
        (chatting.under settings').run.map Report.behaviour) ∧
      ∀ settings, List.Forall₂
        (fun silent report ↦ silent.trace.out.toList.Sublist report.trace.out.toList)
        (chatting.under .silent).run (chatting.under settings).run := by
  have hsteps : ∀ step ∈ chatting.steps, step.instruction ≠ .inspect := by decide +kernel
  exact ⟨hsteps, by decide +kernel, by decide +kernel,
    settings_change_only_what_is_said chatting hsteps⟩

-- A shell that is asked to show itself shows its settings.
example : (Session.last { steps := [⟨.inspect, {}⟩] }).ending ≠
    (Session.last { settings := ⟨false, false⟩, steps := [⟨.inspect, {}⟩] }).ending := by
  decide +kernel

end JobShell
