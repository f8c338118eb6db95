import JobShell.Proofs.ForegroundJobs
import JobShell.Proofs.InputByLines
import JobShell.Proofs.MaskDiscipline

/-!
# Keys typed at an idle prompt

A key that is typed while the shell is idle is noted, and the next drain would pass it on to the job
in the foreground. But then no job is in the foreground: a line and an input drain before they do
anything else, and what else is asked of an idle shell puts no job there. So two sessions that
differ in such keys are step by step the same, apart from what the log tells.
-/

namespace JobShell

open Routine

/-! ### Machines that differ in keys -/

/-- The machines differ in nothing but the log, what happened in earlier steps and the keys that are
noted. If `keys` is set, the same keys are noted too. -/
structure Machine.Resembles (keys : Bool) (m m' : Machine) : Prop extends m.Concurs m' where
  settings : m'.state.settings = m.state.settings
  childStatus : m'.state.noted.childStatus = m.state.noted.childStatus
  noted : keys = true → m'.state.noted = m.state.noted
  unlogged : m'.trace.unlogged = m.trace.unlogged

namespace Machine.Resembles

variable {keys : Bool} {m m' : Machine}

theorem weaken (h : m.Resembles true m') : m.Resembles keys m' :=
  { h with noted := fun _ ↦ h.noted rfl }

theorem recording (h : m.Resembles keys m') (event : Event) :
    (m.recording event).Resembles keys (m'.recording event) := by
  refine { h with unlogged := ?_ }
  have hunlogged := h.unlogged
  unfold Trace.unlogged at hunlogged ⊢
  show List.filter _ (event :: _) = List.filter _ (event :: _)
  rw [List.filter_cons, List.filter_cons, hunlogged]

instance : Comparison (Machine.Resembles keys) where
  concurs h := h.toConcurs
  recording event h := h.recording event
  log_left _ h := { h with }
  log_right _ h := { h with }
  aside wanted text _ h := by
    unfold Machine.aside
    rw [h.settings]
    split
    · exact h.recording _
    · exact h
  withKernel f h := { h with kernel := congrArg f h.kernel }
  withJobs _ h := { h with jobs := rfl }
  noting signal h := by
    refine { h with
      childStatus := ?_
      noted := fun hkeys ↦ congrArg (·.noting signal) (h.noted hkeys) }
    cases signal with
    | childStatus => rfl
    | _ => exact h.childStatus
  withScript _ h := { h with script := rfl }
  exhausting h := { h with exhausted := rfl }
  playing h _ := by
    refine ⟨{ h with unlogged := rfl }, fun n n' hlast ↦ ?_⟩
    rw [← Trace.filter_unlogged, hlast.unlogged, Trace.filter_unlogged]

instance : Thorough (Machine.Resembles true) where
  noted h := h.noted rfl
  takingNoted h := { h with childStatus := rfl, noted := fun _ ↦ rfl }

end Machine.Resembles

/-- The first machine is idle in the session, and the second resembles it but for keys. -/
def Session.IdlesAlike (session : Session) (m m' : Machine) : Prop :=
  session.Idles m ∧ m.Resembles false m'

namespace Shell

/-! ### Drains -/

variable {m : Machine}

theorem relay_apply (h : m.state.jobs.foregroundPid? = none) (signal : Signal) :
    relay signal m = log .debug .jobControl s!"no foreground job, ignoring {signal.name}" m := by
  unfold relay
  rw [bind_of_done (show state m = (.done m.state, m) from rfl), h]

/-- With no job in the foreground, a key that was noted leaves two log records and nothing else. -/
theorem onEvent_relay_apply (h : m.state.jobs.foregroundPid? = none) (was : Bool) (name : String)
    (signal : Signal) : onEvent was name (relay signal) m = given was (do
      log .trace .jobControl s!"handling {name}"
      log .debug .jobControl s!"no foreground job, ignoring {signal.name}") m := by
  cases was with
  | false => rfl
  | true => exact relay_apply (m := m.recording _) h signal

variable {R : Machine → Machine → Prop} [Comparison R]

theorem paired_onEvent_relay (was was' : Bool) (name : String) (signal : Signal) :
    PairedFrom (fun m m' ↦ m.state.jobs.foregroundPid? = none ∧ R m m') R
      (onEvent was name (relay signal)) (onEvent was' name (relay signal)) := by
  rintro m m' ⟨hnone, hm⟩
  have hnone' : m'.state.jobs.foregroundPid? = none := by rwa [(Comparison.concurs hm).jobs]
  rw [onEvent_relay_apply hnone, onEvent_relay_apply hnone']
  have hright : R m (given was' (do
      log .trace .jobControl s!"handling {name}"
      log .debug .jobControl s!"no foreground job, ignoring {signal.name}") m').2 := by
    cases was' with
    | false => exact hm
    | true => exact Comparison.log_right _ (Comparison.log_right _ hm)
  cases was with
  | false => cases was' <;> exact ⟨rfl, hright⟩
  | true => cases was' <;> exact ⟨rfl, Comparison.log_left _ (Comparison.log_left _ hright)⟩

/-- The rest of a drain that took `noted` and has reaped. -/
def relayKeys (noted : EventSet) : Routine Unit := do
  onEvent noted.interrupt "Interrupt" (relay .int)
  onEvent noted.suspend "Suspend" (relay .tstp)
  record .drained

/-- The keys that were noted make no difference if no job is in the foreground. -/
theorem paired_relayKeys (noted noted' : EventSet) :
    PairedFrom (fun m m' ↦ m.state.jobs.foregroundPid? = none ∧ R m m') R
      (relayKeys noted) (relayKeys noted') := by
  refine (paired_onEvent_relay _ _ _ _).bind_knowing ?_ fun _ ↦
    (paired_onEvent_relay _ _ _ _).bind fun _ ↦ paired_record _
  rintro m m' value n ⟨hnone, -⟩ hdone
  rw [onEvent_relay_apply hnone] at hdone
  obtain rfl : _ = n := congrArg Prod.snd hdone
  cases noted.interrupt <;> exact hnone

variable {session : Session}

/-- A shell that was idle has no job in the foreground when it has reaped. -/
theorem foregroundPid?_eq_none_of_reap {n : Machine} (h : session.Idles m)
    (hreap : onEvent m.state.noted.childStatus "ChildStatus" reap m.takingNoted = (.done (), n)) :
    n.state.jobs.foregroundPid? = none := by
  have hpost := path_onEvent_reap .prompt m.state.noted.childStatus m.takingNoted
    (h.path.move (.takeNoted .prompt))
  rw [hreap] at hpost
  have hdisciplined : Disciplined (.relaying .prompt) n.state.jobs :=
    Path.disciplined hpost (fun _ ↦ id) session.sound_of_begins disciplined_of_begins
  exact hdisciplined.foregroundPid?_eq_none fun _ hfront ↦ hfront

/-- A drain of an idle shell does the same whichever keys were noted, and they are forgotten. -/
theorem paired_drain_idle :
    PairedFrom session.IdlesAlike (Machine.Resembles true) drain drain := by
  rintro m m' ⟨hidles, hm⟩
  have htaken : m.takingNoted.Resembles true m'.takingNoted :=
    { hm with childStatus := rfl, noted := fun _ ↦ rfl }
  -- Both take their notes first. These tell both to reap or neither, and differ in keys at most.
  have hrest : PairedFrom (fun n n' ↦ n = m.takingNoted ∧ n.Resembles true n')
      (Machine.Resembles true)
      (do onEvent m.state.noted.childStatus "ChildStatus" reap; relayKeys m.state.noted)
      (do onEvent m'.state.noted.childStatus "ChildStatus" reap; relayKeys m'.state.noted) := by
    rw [hm.childStatus]
    refine PairedFrom.bind_knowing (fun n n' hn ↦ paired_onEvent paired_reap _ _ n n' hn.2) ?_
      fun _ ↦ paired_relayKeys _ _
    rintro n n' value last ⟨rfl, -⟩ hdone
    exact foregroundPid?_eq_none_of_reap hidles hdone
  exact hrest _ _ ⟨rfl, htaken⟩

/-! ### Lines and inputs -/

theorem paired_executeLine_idle (line : String) :
    PairedFrom session.IdlesAlike (Machine.Resembles true) (executeLine line)
      (executeLine line) := by
  rw [show executeLine line = reporting (drain >>= fun _ ↦ ofExcept (Command.parse line) >>= run)
    from rfl, reporting_bind (opening_false ▸ triple_opening false)]
  exact paired_drain_idle.bind fun _ ↦ paired_reporting ((paired_ofExcept _).bind paired_run)

theorem paired_executeLines_idle (pieces : List (List UInt8)) :
    PairedFrom session.IdlesAlike (Machine.Resembles true) (executeLines pieces)
      (executeLines pieces) := by
  have hbefore : PairedFrom session.IdlesAlike (Machine.Resembles true) beforeLine beforeLine :=
    paired_drain_idle.bind fun _ ↦ paired_aside (.inr rfl) _
  cases pieces with
  | nil => exact hbefore.bind fun _ ↦ paired_log
  | cons piece pieces =>
    exact hbefore.bind fun _ ↦ (paired_reporting (paired_executeBytes piece)).bind fun _ ↦
      paired_executeLines pieces

/-- The notes are not shown. -/
theorem inspect_eq {keys : Bool} {m' : Machine} (h : m.Resembles keys m') :
    inspect m'.state = inspect m.state := by
  unfold inspect inspectJobs
  rw [h.settings, h.jobs]

end Shell

/-! ### Steps -/

/-- The instruction continues a job in the foreground without a drain before. -/
def Instruction.isForeground : Instruction → Bool
  | foreground _ => true
  | _ => false

theorem Instruction.paired_perform_idle {session : Session} {instruction : Instruction}
    (h : instruction.isForeground = false) :
    PairedFrom session.IdlesAlike (Machine.Resembles false) instruction.perform
      instruction.perform := by
  have hanswer {routine : Routine Unit}
      (hroutine : PairedFrom session.IdlesAlike (Machine.Resembles true) routine routine) :
      PairedFrom session.IdlesAlike (Machine.Resembles false) (do routine; return Reply.ok)
        (do routine; return Reply.ok) := by
    intro m m' hm
    obtain ⟨houtcome, hresembles⟩ := (hroutine.bind fun _ ↦ paired_pure Reply.ok) m m' hm
    exact ⟨houtcome, hresembles.weaken⟩
  cases instruction with
  | line text => exact hanswer (Shell.paired_executeLine_idle text)
  | input bytes => exact hanswer (Shell.paired_executeLines_idle _)
  | foreground spec => cases h
  | background spec =>
    rintro m m' ⟨-, hm⟩
    refine paired_withSpec (fun spec ↦ ?_) spec m m' hm
    exact (Shell.paired_background spec).bind fun job ↦ paired_pure _
  | occur what =>
    rintro m m' ⟨-, hm⟩
    exact ((Kernel.paired_happen what).bind fun _ ↦ paired_pure _) m m' hm
  | inspect =>
    rintro m m' ⟨-, hm⟩
    refine ⟨?_, hm⟩
    show Outcome.done (Reply.text (Shell.inspect m.state)) = .done (.text (Shell.inspect m'.state))
    rw [Shell.inspect_eq hm]
  | leave code =>
    rintro m m' ⟨-, hm⟩
    exact Shell.paired_leave _ m m' hm

/-- The reports tell the same, apart from the log. -/
structure Report.TellsSame (report report' : Report) : Prop where
  ending : report'.ending = report.ending
  unlogged : report'.trace.unlogged = report.trace.unlogged
  calls : report'.trace.calls = report.trace.calls
  out : report'.trace.out = report.trace.out
  err : report'.trace.err = report.trace.err
  merged : report'.trace.merged = report.trace.merged
  jobs : report'.state.jobs = report.state.jobs

theorem Machine.Resembles.tellsSame {keys : Bool} {report report' : Report}
    (h : report.machine.Resembles keys report'.machine) (hending : report'.ending = report.ending) :
    report.TellsSame report' := by
  have hunlogged : report'.trace.unlogged = report.trace.unlogged := h.unlogged
  have htexts {text : Event → String} (htext : ∀ record, text (.log record) = "") :
      String.join ((Trace.events report'.trace).map text) =
        String.join ((Trace.events report.trace).map text) := by
    rw [Trace.join_eq_unlogged _ htext, hunlogged, Trace.join_eq_unlogged _ htext]
  refine ⟨hending, hunlogged, ?_, htexts fun _ ↦ rfl, htexts fun _ ↦ rfl, htexts fun _ ↦ rfl,
    h.jobs⟩
  rw [Trace.calls_eq_unlogged, hunlogged, Trace.calls_eq_unlogged]

/-- The next step of two shells resembles but for keys, whatever happens meanwhile. -/
def Machine.RestsAlike (m m' : Machine) : Prop :=
  ∀ script, (m.beginStep script).Resembles false (m'.beginStep script)

theorem Machine.RestsAlike.refl (m : Machine) : m.RestsAlike m :=
  fun _ ↦ ⟨⟨rfl, rfl, rfl, rfl, rfl, rfl⟩, rfl, rfl, nofun, rfl⟩

theorem Machine.Resembles.restsAlike {keys : Bool} {m m' : Machine} (h : m.Resembles keys m') :
    m.RestsAlike m' := fun _ ↦
  { h with noted := nofun, script := rfl, exhausted := rfl, unlogged := rfl }

theorem Step.resembles_perform {session : Session} {step : Step} {m m' : Machine}
    (hidles : session.Idles m) (hm : m.RestsAlike m') (h : step.instruction.isForeground = false) :
    (step.perform m').ending = (step.perform m).ending ∧
      (step.perform m).machine.Resembles false (step.perform m').machine := by
  have hpaired := Instruction.paired_perform_idle h _ _ ⟨hidles.begin step.script, hm step.script⟩
  exact ⟨congrArg Ending.ofOutcome hpaired.1.symm, hpaired.2⟩

/-! ### Keys -/

/-- A key that is noted until the next drain. -/
inductive Key
  | interrupt | suspend
  deriving DecidableEq

/-- The signal that the key raises. -/
def Key.signal : Key → Handled
  | interrupt => .interrupt
  | suspend => .suspend

/-- Something done with an idle shell: a step is asked of it, or a key is typed. -/
inductive Entry
  | asked (step : Step)
  | typed (key : Key) (script : Script)

namespace Entry

/-- The entry as a step. -/
def step : Entry → Step
  | asked step => step
  | typed key script => ⟨.occur (.raised key.signal), script⟩

/-- The step that is asked for, if one is. -/
def asked? : Entry → Option Step
  | asked step => some step
  | typed _ _ => none

end Entry

/-- A key is raised at the shell, and nothing else is done. -/
theorem perform_typed (key : Key) (script : Script) (m : Machine) :
    (Entry.typed key script).step.perform m =
      ⟨.replied .ok, (m.beginStep script).after (.raised key.signal)⟩ := by
  rcases Kernel.happen_apply (.raised key.signal) (m.beginStep script) with hhappen | ⟨hquit, -⟩
  · have hdone : (Entry.typed key script).step.instruction.perform (m.beginStep script) =
        (.done .ok, (m.beginStep script).after (.raised key.signal)) := bind_of_done hhappen
    unfold Step.perform Machine.perform
    rw [show (Entry.typed key script).step.script = script from rfl, hdone]
    rfl
  · cases key <;> cases hquit

/-- While no signal is blocked, a key leaves nothing but a note. -/
theorem Machine.RestsAlike.typed {m m' : Machine} (h : m.RestsAlike m')
    (hmask : m.state.kernel.mask = .empty) (key : Key) (script : Script) :
    m.RestsAlike ((m'.beginStep script).after (.raised key.signal)) := by
  have hopen : m'.state.kernel.mask.contains key.signal = false := by
    rw [show m'.state.kernel = m.state.kernel from (h script).kernel, hmask]
    cases key <;> rfl
  have hstate : ((m'.beginStep script).after (.raised key.signal)).state =
      { m'.state with noted := m'.state.noted.noting key.signal } := by
    show m'.state.raising key.signal = _
    rw [State.raising, hopen]
    rfl
  intro next
  have hnext := h next
  refine { hnext with jobs := ?_, kernel := ?_, settings := ?_, childStatus := ?_, noted := nofun }
  · exact (congrArg State.jobs hstate).trans hnext.jobs
  · exact (congrArg State.kernel hstate).trans hnext.kernel
  · exact (congrArg State.settings hstate).trans hnext.settings
  · refine (congrArg (·.noted.childStatus) hstate).trans (Eq.trans ?_ hnext.childStatus)
    cases key <;> rfl

/-! ### Sessions -/

/-- Reports of a shell beside those of one in which keys were typed, entry by entry: each step is
reported the same, and of a key only that it was typed. -/
inductive KeysIgnored : List Entry → List Report → List Report → Prop
  /-- The shells are not asked any more, or both have ended. -/
  | over (entries : List Entry) : KeysIgnored entries [] []
  | asked {entries reports reports'} {report report' : Report} (step : Step)
    (hsame : report.TellsSame report') (hrest : KeysIgnored entries reports reports') :
    KeysIgnored (.asked step :: entries) (report :: reports) (report' :: reports')
  | typed {entries reports reports'} {report' : Report} (key : Key) (script : Script)
    (hending : report'.ending = .replied .ok)
    (hevents : report'.trace.events = [.happened (.raised key.signal)])
    (hrest : KeysIgnored entries reports reports') :
    KeysIgnored (.typed key script :: entries) reports (report' :: reports')

theorem keysIgnored_reports {session : Session} (entries : List Entry) {m m' : Machine}
    (hidles : session.Idles m) (hreaches : session.Reaches m)
    (hmask : m.state.kernel.mask = .empty) (hm : m.RestsAlike m')
    (hforeground : ∀ step ∈ entries.filterMap Entry.asked?, step.instruction.isForeground = false)
    (hfatal : ∀ report ∈ reports (entries.filterMap Entry.asked?) m,
      report.ending.isFatal = false)
    (hkept : ∀ report ∈ reports (entries.filterMap Entry.asked?) m, ¬ report.trace.LosesMask) :
    KeysIgnored entries (reports (entries.filterMap Entry.asked?) m)
      (reports (entries.map Entry.step) m') := by
  induction entries generalizing m m' with
  | nil => exact .over []
  | cons entry entries ih =>
    cases entry with
    | typed key script =>
      rw [List.map_cons, reports, perform_typed]
      exact .typed key script rfl rfl
        (ih hidles hreaches hmask (hm.typed hmask key script) hforeground hfatal hkept)
    | asked step =>
      have hlist : (Entry.asked step :: entries).filterMap Entry.asked? =
          step :: entries.filterMap Entry.asked? := rfl
      rw [hlist] at hforeground hfatal hkept ⊢
      rw [reports, List.forall_mem_cons] at hfatal hkept
      rw [List.forall_mem_cons] at hforeground
      obtain ⟨hending, hresembles⟩ := Step.resembles_perform hidles hm hforeground.1
      rw [List.map_cons, reports, reports, show (Entry.asked step).step = step from rfl, hending]
      refine .asked step (hresembles.tellsSame hending) ?_
      cases hgoes : (step.perform m).ending.goesOn with
      | false => exact .over entries
      | true =>
        rw [hgoes] at hfatal hkept
        have hmask' : (step.perform m).state.kernel.mask = .empty :=
          (mask_perform (fit_of_reaches hreaches False.elim) hgoes hkept.1).trans hmask
        exact ih (hidles.step step hgoes hfatal.1) (hreaches.step step hgoes) hmask'
          hresembles.restsAlike hforeground.2 hfatal.2 hkept.2

/-- The session in which the entries are done. -/
def Session.typing (session : Session) (entries : List Entry) : Session :=
  { session with steps := entries.map Entry.step }

/-- **Keys typed at an idle prompt reach no job.** Take a session in which no job is continued in
the foreground but by a line, no step fails with a fatal error and every mask can be put back. If
the interrupt and the suspend key are typed in addition, any number of times and anywhere between
the steps, then each step is reported the same: it ends alike, makes the same calls, writes the same
and leaves the same job table. So no key that was typed before a job is launched or brought to the
foreground is ever passed on to it. -/
theorem idle_keys_ignored (session : Session) (entries : List Entry)
    (hsteps : session.steps = entries.filterMap Entry.asked?)
    (hforeground : ∀ step ∈ session.steps, step.instruction.isForeground = false)
    (hfatal : ∀ report ∈ session.run.tail, report.ending.isFatal = false)
    (hkept : ∀ report ∈ session.run, ¬ report.trace.LosesMask) :
    ∃ reports reports', session.run = session.start :: reports ∧
      (session.typing entries).run = session.start :: reports' ∧
      KeysIgnored entries reports reports' := by
  refine ⟨_, _, session.run_eq_ite, (session.typing entries).run_eq_ite, ?_⟩
  -- The start comes before all entries, so it is the same in both.
  rw [show (session.typing entries).start = session.start from rfl]
  rw [session.run_eq_ite] at hfatal
  rw [session.run_eq_ite, List.forall_mem_cons] at hkept
  split
  · next hstart =>
    rw [List.tail_cons, if_pos hstart, hsteps] at hfatal
    rw [if_pos hstart, hsteps] at hkept
    rw [hsteps] at hforeground ⊢
    have hmask := session.mask_start (by rw [hstart]; rfl) hkept.1
    exact keysIgnored_reports entries (.start hstart) (.start hstart) hmask (.refl _) hforeground
      hfatal hkept.2
  · exact .over entries

/-- A session in which a job is launched in the background and brought to the foreground, where it
ends. -/
def fetching : Session where
  steps := [⟨.line "nap &", {}⟩, ⟨.line "fg %1", { batches := [[.child 1001 (.exited 0)]] }⟩]

/-- What is done in the session if keys are typed before each step. -/
def fetchingWithKeys : List Entry :=
  [.typed .interrupt {}, .asked ⟨.line "nap &", {}⟩, .typed .suspend {}, .typed .interrupt {},
    .asked ⟨.line "fg %1", { batches := [[.child 1001 (.exited 0)]] }⟩]

/-- None of the three keys reaches the job. -/
theorem fetching_keys_ignored :
    (∀ report ∈ fetching.run.tail, report.ending.isFatal = false) ∧
    (∀ report ∈ fetching.run, ¬ report.trace.LosesMask) ∧
    fetching.run.length = 3 ∧ (fetching.typing fetchingWithKeys).run.length = 6 ∧
    ∃ reports reports', fetching.run = fetching.start :: reports ∧
      (fetching.typing fetchingWithKeys).run = fetching.start :: reports' ∧
      KeysIgnored fetchingWithKeys reports reports' := by
  have hfatal : ∀ report ∈ fetching.run.tail, report.ending.isFatal = false := by decide +kernel
  have hkept : ∀ report ∈ fetching.run, ¬ report.trace.LosesMask := by decide +kernel
  have hforeground : ∀ step ∈ fetching.steps, step.instruction.isForeground = false := by decide
  exact ⟨hfatal, hkept, by decide +kernel, by decide +kernel,
    idle_keys_ignored fetching fetchingWithKeys rfl hforeground hfatal hkept⟩

-- A job that is continued in the foreground by no line, and so without a drain, gets the key.
example : ⟨.send (-1001) .int, .number 0⟩ ∈ (Session.last { steps :=
    [⟨.line "nap &", {}⟩, ⟨.occur (.raised .interrupt), {}⟩,
      ⟨.foreground "%1", { batches := [[.child 1001 (.exited 0)]] }⟩] }).trace.calls := by
  decide +kernel

end JobShell
