import JobShell.Proofs.FatalFailures
import JobShell.Proofs.Forks
import JobShell.Proofs.LaunchedChildren
import JobShell.Proofs.Path.Tables
import JobShell.Proofs.ReapOrder

/-!
# What a line may launch

A line is stopped on its way to a fork by the parser, by having no arguments, by naming a builtin
command, by an argument that cannot be handed to a program, or by a mask that cannot be changed.
Nothing else stops it, and no line forks twice. Of a launch in the background it is known to the
last event what it does, up to the minor ones that almost all routines bring about.
-/

namespace JobShell

open Routine

/-- The event, if it is not one that almost every routine brings about. -/
def Event.deed? (event : Event) : Option Event := if event.isMinor then none else some event

/-- What happened apart from minor events, in order: output, changes of the job table, forks,
signals that were sent, and sleeps. -/
def Trace.deeds (trace : Trace) : List Event := (events trace).filterMap Event.deed?

/-- The machine once the shell has printed some texts. -/
def Machine.saying (m : Machine) (texts : List String) : Machine :=
  { m with trace := (texts.map fun text ↦ ⟨.out text, m.state⟩).reverse ++ m.trace }

theorem Trace.filterMap_events_saying {α : Type} (f : Event → Option α) (m : Machine)
    (texts : List String) : (events (m.saying texts).trace).filterMap f =
      (events m.trace).filterMap f ++ (texts.map Event.out).filterMap f := by
  have hsaid : events (texts.map fun text ↦ (⟨.out text, m.state⟩ : Moment)).reverse =
      texts.map Event.out := by
    rw [events, List.map_reverse, List.reverse_reverse, List.map_map]
    rfl
  rw [Machine.saying, filterMap_events_append, hsaid]

/-- Texts that a view of events shows as they are. -/
theorem Event.filterMap_map_out {f : Event → Option Event}
    (h : ∀ text, f (.out text) = some (.out text)) (texts : List String) :
    (texts.map Event.out).filterMap f = texts.map Event.out := by
  rw [List.filterMap_map, ← List.filterMap_eq_map]
  exact List.filterMap_congr fun text _ ↦ h text

namespace Shell

variable {α : Type} {m m₁ : Machine} {command : Command} {line : String}

/-! ### Lines -/

/-- What the settings ask to be echoed of a command. -/
def echoes (settings : Settings) (command : Command) : List String :=
  if settings.verbose then
    (if command.background then ["background job requested\n"] else []) ++ [command.echo ++ "\n"]
  else []

/-- What a line does once its drain is done. -/
def runParsed (line : String) : Routine Unit := do run (← ofExcept (Command.parse line))

/-- After its drain a line is what `runParsed` does, with its failure reported. -/
theorem executeLine_of_drain (h : drain m = (.done (), m₁)) (line : String) :
    executeLine line m = reporting (runParsed line) m₁ := by
  have hexecute : execute line m = runParsed line m₁ := bind_of_done h
  exact bind_apply_congr (by unfold attempt; rw [hexecute]) _

theorem runParsed_of_ok (hparse : Command.parse line = .ok command) :
    runParsed line m = run command m := by
  unfold runParsed
  rw [hparse]
  rfl

theorem runParsed_of_error {error : Error} (hparse : Command.parse line = .error error) :
    runParsed line m = (.failed error, m) := by
  unfold runParsed
  rw [hparse]
  rfl

/-- The machine once a command was logged and, if the settings ask for it, echoed. -/
def echoing (m : Machine) (command : Command) : Machine :=
  (m.recording (.log ⟨.debug, .shell, command.inspect⟩)).saying (echoes m.state.settings command)

/-- Where log records do not show, an echo is what it prints. -/
theorem filterMap_events_echoing {f : Event → Option α} (hlog : ∀ record, f (.log record) = none)
    (m : Machine) (command : Command) : (Trace.events (echoing m command).trace).filterMap f =
      (Trace.events m.trace).filterMap f ++
        ((echoes m.state.settings command).map Event.out).filterMap f := by
  rw [echoing, Trace.filterMap_events_saying]
  show (Trace.events (_ :: m.trace)).filterMap f ++ _ = _
  rw [Trace.filterMap_events_cons, hlog, Option.toList_none, List.append_nil]

/-- An echo is seen as nothing but output. -/
theorem filterMap_events_echoing_of_out {f : Event → Option α}
    (hlog : ∀ record, f (.log record) = none) (hout : ∀ text, f (.out text) = none) (m : Machine)
    (command : Command) : (Trace.events (echoing m command).trace).filterMap f =
      (Trace.events m.trace).filterMap f := by
  have hnothing : ((echoes m.state.settings command).map Event.out).filterMap f = [] := by
    rw [List.filterMap_map]
    exact List.filterMap_eq_nil_iff.2 fun text _ ↦ hout text
  rw [filterMap_events_echoing hlog, hnothing, List.append_nil]

/-- A line without a word does nothing after its drain. -/
theorem run_of_argv_eq_nil (h : command.argv = []) : run command m = (.done (), m) := by
  have hnone : command.program? = none := by
    rw [Command.program?, h]
    rfl
  unfold run
  rw [hnone]
  rfl

/-- A command is echoed, and then runs in the shell or as a program. -/
theorem run_of_program? {program : String} (h : command.program? = some program) :
    run command m = (Builtin.ofName? program).elim (runProgram command)
      (fun builtin ↦ runBuiltin builtin command.args) (echoing m command) := by
  have hrun : run command m = (given m.state.settings.verbose (echo command) >>= fun _ ↦
      (Builtin.ofName? program).elim (runProgram command) fun builtin ↦
        runBuiltin builtin command.args)
      (m.recording (.log ⟨.debug, .shell, command.inspect⟩)) := by
    unfold run
    rw [h]
    cases hname : Builtin.ofName? program <;> simp only [hname] <;> rfl
  have hecho : given m.state.settings.verbose (echo command)
      (m.recording (.log ⟨.debug, .shell, command.inspect⟩)) = (.done (), echoing m command) := by
    unfold echoing echoes
    cases m.state.settings.verbose with
    | false => rfl
    | true =>
      unfold echo
      cases command.background <;> rfl
  rw [hrun, bind_of_done hecho]

/-- A line that names a program announces itself and launches. -/
theorem run_of_namesProgram (h : command.NamesProgram) :
    run command m = runProgram command (echoing m command) := by
  obtain ⟨program, hprogram, hname⟩ := h
  rw [run_of_program? hprogram, Builtin.ofName?_eq_none_iff.2 hname, Option.elim_none]

/-! ### How often a line forks -/

/-- A command gets as far as a fork: it names a program and no builtin command, its arguments can be
handed to the program, and the signal for children can be blocked. -/
structure GetsToFork (m : Machine) (command : Command) : Prop where
  named : command.NamesProgram
  whole : ∀ argument ∈ command.argv, holdsNul argument = false
  blocks : m.failure? .changeMask = none

/-- Running a program forks once if it gets to the fork, and never otherwise. -/
theorem forksOnceIf_runProgram (hplays : m.playsChildren = false)
    (hquit : m.state.kernel.pending.contains .quit = false) (hnamed : command.NamesProgram) :
    ForksOnceIf (GetsToFork m command) (runProgram command) m := by
  refine ForksOnceIf.of_forksAt ?_ fun answers ↦ forksAt_runProgram
  by_cases hnul : ∃ argument ∈ command.argv, holdsNul argument = true
  · refine ForksAt.never (.of_apply (launch_of_holdsNul hnul) ⟨hplays, ?_⟩) fun hgets ↦ ?_
    · exact (List.append_nil _).symm
    · obtain ⟨argument, hmem, hheld⟩ := hnul
      exact absurd ((hgets.whole argument hmem).symm.trans hheld) Bool.false_ne_true
  · have hwhole : ∀ argument ∈ command.argv, holdsNul argument = false := by simpa using hnul
    obtain ⟨program, hprogram, hname⟩ := hnamed
    refine (forksOnceIf_launch hplays hquit hprogram hwhole).of_iff ⟨fun hblocks ↦ ?_, ?_⟩
    · exact ⟨⟨program, hprogram, hname⟩, hwhole, hblocks⟩
    · exact GetsToFork.blocks

/-- A command forks once if it gets as far, and otherwise not at all. -/
theorem forksOnceIf_run (hplays : m.playsChildren = false)
    (hquit : m.state.kernel.pending.contains .quit = false) (command : Command) :
    ForksOnceIf (GetsToFork m command) (run command) m := by
  by_cases hnamed : command.NamesProgram
  · have hprogram := forksOnceIf_runProgram (m := echoing m command) hplays hquit hnamed
    have hechoed : (echoing m command).trace.forks = m.trace.forks :=
      filterMap_events_echoing_of_out (fun _ ↦ rfl) (fun _ ↦ rfl) m command
    refine (hprogram.of_forksAt fun answers hforks ↦ ?_).of_iff ?_
    · exact hforks.of_eq (run_of_namesProgram hnamed) hechoed
    · exact ⟨fun h ↦ ⟨h.named, h.whole, h.blocks⟩, fun h ↦ ⟨h.named, h.whole, h.blocks⟩⟩
  · have hrun : EmitsAt Forkless (run command) m :=
      emits_run permitsWait_forkless (permitsCommand_forkless hnamed) m
    exact (forksAt_of_emits hrun hplays).never fun h ↦ hnamed h.named

/-- A line forks once if its command gets as far, and otherwise not at all. -/
theorem forksOnceIf_runParsed (hplays : m.playsChildren = false)
    (hquit : m.state.kernel.pending.contains .quit = false) (line : String) :
    ForksOnceIf (∃ command, Command.parse line = .ok command ∧ GetsToFork m command)
      (runParsed line) m := by
  cases hparse : Command.parse line with
  | error error =>
    have hforks := (forksAt_of_emits (emits_fail error m) hplays).of_eq
      (runParsed_of_error hparse) rfl
    refine hforks.never ?_
    rintro ⟨command, hok, -⟩
    cases hok
  | ok command =>
    have hforks := (forksOnceIf_run hplays hquit command).of_forksAt fun answers hforks ↦
      hforks.of_eq (runParsed_of_ok hparse) rfl
    refine hforks.of_iff ⟨fun h ↦ ⟨command, rfl, h⟩, ?_⟩
    rintro ⟨command', hok, h⟩
    rw [Except.ok.inj hok]
    exact h

/-! ### Lines that are refused -/

/-- From `m` to `m'` the shell printed `texts`, complained of one line, and did nothing else that is
to be seen. -/
structure Refuses (m : Machine) (texts : List String) (line : String) (m' : Machine) : Prop where
  state : m'.state = m.state
  script : m'.script = m.script
  calls : m'.trace.calls = m.trace.calls
  printed : m'.trace.printed = m.trace.printed ++ texts
  complaints : m'.trace.complaints =
    m.trace.complaints ++ [s!"tsh: syntax error: '{Text.trimLineEnd line}'\n"]

/-- A report of a line that cannot be run. -/
theorem exists_refuses_reporting {routine : Routine Unit} {line : String}
    (h : routine m = (.failed (.of (.malformedLine (Text.trimLineEnd line))), m₁)) :
    ∃ m', reporting routine m = (.done (), m') ∧ Refuses m₁ [] line m' := by
  have hreport : (Error.of (.malformedLine (Text.trimLineEnd line))).report ++ "\n" =
      s!"tsh: syntax error: '{Text.trimLineEnd line}'\n" := by
    generalize Text.trimLineEnd line = text
    show "tsh: " ++ ("syntax error: '" ++ text ++ "'") ++ "\n" =
      "tsh: syntax error: '" ++ text ++ "'\n"
    exact String.toList_inj.1 (by simp)
  refine ⟨_, reporting_of_recoverable h rfl, rfl, rfl, ?_, ?_, ?_⟩
  · exact (Trace.calls_append _ _).trans (List.append_nil _)
  · exact Trace.printed_append _ _
  · rw [← hreport]
    exact Trace.filterMap_events_append Event.err? _ _

/-- The announcement of the line comes before what a refusal prints. -/
theorem Refuses.of_echoing {m' : Machine} (h : Refuses (echoing m command) [] line m') :
    Refuses m (echoes m.state.settings command) line m' := by
  obtain ⟨hstate, hscript, hcalls, hprinted, hcomplaints⟩ := h
  have hsaid : ((echoes m.state.settings command).map Event.out).filterMap Event.out? =
      echoes m.state.settings command := by
    rw [List.filterMap_map]
    exact List.filterMap_some
  refine ⟨hstate, hscript, hcalls.trans ?_, hprinted.trans ?_, hcomplaints.trans ?_⟩
  · exact filterMap_events_echoing_of_out (fun _ ↦ rfl) (fun _ ↦ rfl) m command
  · rw [List.append_nil]
    exact (filterMap_events_echoing (fun _ ↦ rfl) m command).trans (by rw [hsaid]; rfl)
  · refine congrArg (· ++ _) ?_
    exact filterMap_events_echoing_of_out (fun _ ↦ rfl) (fun _ ↦ rfl) m command

end Shell

/-! ### What is done beside minor things -/

namespace Routine

variable {α β : Type} {routine : Routine α} {m m' : Machine}

/-- If a sequence came to its end, so did its first part, and the rest went on from there. -/
theorem exists_of_bind_done {next : α → Routine β} {result : β}
    (h : (routine >>= next) m = (.done result, m')) :
    ∃ value m₁, routine m = (.done value, m₁) ∧ next value m₁ = (.done result, m') := by
  rcases hr : routine m with ⟨outcome, m₁⟩
  cases outcome with
  | done value => exact ⟨value, m₁, rfl, (bind_of_done hr).symm.trans h⟩
  | failed error => cases (bind_of_failed hr).symm.trans h
  | exited status => cases (bind_of_exited hr).symm.trans h
  | stalled => cases (bind_of_stalled hr).symm.trans h

theorem eq_of_attempt_done {result : Except Error α} (h : attempt routine m = (.done result, m')) :
    routine m = (.ofResult result, m') := by
  rcases hr : routine m with ⟨outcome, m₁⟩
  have hcaught := (attempt_apply hr).symm.trans h
  cases outcome <;> cases hcaught <;> rfl

end Routine

/-- From `m` to `m'` the shell did `deeds`, and beside them nothing but minor things. -/
structure Did (m : Machine) (deeds : List Event) (m' : Machine) : Prop where
  plays : m'.playsChildren = false
  settings : m'.state.settings = m.state.settings
  jobs : (∀ change, .jobs change ∉ deeds) → m'.state.jobs = m.state.jobs
  deeds : m'.trace.deeds = m.trace.deeds ++ deeds

/-- The moment is a minor one. -/
def IsMinor (moment : Moment) : Prop := moment.event.isMinor = true

theorem permitsMinor_isMinor : PermitsMinor IsMinor := ⟨fun _ ↦ id⟩

namespace Did

variable {α : Type} {m m' m'' : Machine} {deeds deeds' : List Event}

/-- Deeds of one run and of the next are listed one after the other. -/
theorem trans (h : Did m deeds m') (h' : Did m' deeds' m'') : Did m (deeds ++ deeds') m'' where
  plays := h'.plays
  settings := h'.settings.trans h.settings
  jobs hnone := by
    rw [h'.jobs fun change hmem ↦ hnone change (List.mem_append_right _ hmem)]
    exact h.jobs fun change hmem ↦ hnone change (List.mem_append_left _ hmem)
  deeds := by rw [h'.deeds, h.deeds, List.append_assoc]

/-- Work of which only minor things are told does no deeds. -/
theorem of_emitted (h : Emitted IsMinor m m') : Did m [] m' where
  plays := h.plays
  settings := h.settings
  jobs _ := h.jobs fun moment hminor change hevent ↦ by
    rw [IsMinor, hevent] at hminor
    cases hminor
  deeds := by
    rw [List.append_nil]
    exact h.filterMap_events fun moment hminor ↦ if_pos hminor

theorem of_emits {routine : Routine α} {value : α} (h : Emits IsMinor routine)
    (hplays : m.playsChildren = false) (hdone : routine m = (.done value, m')) : Did m [] m' :=
  of_emitted ((h m).emitted hplays hdone)

theorem minor (hplays : m.playsChildren = false) (event : Event) (hminor : event.isMinor = true) :
    Did m [] (m.recording event) := of_emitted (.recording hplays hminor)

theorem recording (hplays : m.playsChildren = false) (event : Event)
    (hdeed : event.isMinor = false) : Did m [event] (m.recording event) := by
  refine ⟨hplays, rfl, fun _ ↦ rfl, (Trace.filterMap_events_cons _ _ _).trans ?_⟩
  have hshown : event.deed? = some event := if_neg (by rw [hdeed]; exact Bool.false_ne_true)
  rw [hshown]
  rfl

theorem saying (hplays : m.playsChildren = false) (texts : List String) :
    Did m (texts.map .out) (m.saying texts) where
  plays := hplays
  settings := rfl
  jobs _ := rfl
  deeds := by
    have hshown := Event.filterMap_map_out (f := Event.deed?) (fun _ ↦ rfl) texts
    exact (Trace.filterMap_events_saying Event.deed? m texts).trans (congrArg _ hshown)

theorem changingJobs (hplays : m.playsChildren = false) (change : JobChange) (table : JobTable) :
    Did m [.jobs change] (m.changingJobs change table) where
  plays := hplays
  settings := rfl
  jobs hnone := absurd (List.mem_singleton.2 rfl) (hnone change)
  deeds := Trace.filterMap_events_cons _ _ _

end Did

namespace Kernel

variable {m m' : Machine} {child : Routine Empty} {pid : Pid}

/-- Only the process that is told its child's id comes back from a fork. -/
theorem eq_of_afterFork {pid' : Pid} (h : afterFork child pid m = (.done (.ok pid'), m')) :
    pid' = pid := by
  unfold afterFork at h
  obtain ⟨_, m₁, -, h⟩ := exists_of_bind_done h
  obtain ⟨_, m₂, -, h⟩ := exists_of_bind_done h
  obtain ⟨_, m₃, -, h⟩ := exists_of_bind_done h
  obtain ⟨_, m₄, -, h⟩ := exists_of_bind_done h
  split at h
  · obtain ⟨never, -⟩ := exists_of_bind_done h
    exact never.elim
  · cases h
    rfl

/-- A fork that comes back is the one thing done until then. -/
theorem did_of_fork (hchild : Emits IsMinor child) (hplays : m.playsChildren = false)
    (h : fork child m = (.done (.ok pid), m')) : Did m [.call ⟨.fork, .number pid⟩] m' := by
  cases hfork : m.failure? .fork with
  | some errno =>
    rw [fork_of_some hfork] at h
    cases h
  | none =>
    rw [fork_of_none hfork] at h
    obtain rfl := eq_of_afterFork h
    have hspawned : Did m [.call ⟨.fork, .number m.state.kernel.nextPid⟩]
        (m.deciding .fork).spawning :=
      ⟨hplays, rfl, fun _ ↦ rfl, Trace.filterMap_events_cons Event.deed? _ m.trace⟩
    exact hspawned.trans (Did.of_emits (emits_afterFork permitsMinor_isMinor hchild _) hplays h)

end Kernel

namespace Shell

variable {m m' : Machine} {command : Command} {job : Job} {pid : Pid} {newState : JobState}
  {commandLine line : String}

/-- What the verbose setting tells of a new job. -/
def additions (settings : Settings) (job : Job) : List String :=
  if settings.verbose then [s!"Added job [{job.id}] {job.pid} {job.commandLine}" ++ "\n"]
  else []

/-- A table with room takes the job, and the addition is logged and perhaps printed. -/
theorem exists_register_of_ok {table : JobTable}
    (h : m.state.jobs.add pid newState commandLine = .ok (job, table)) :
    ∃ record, register pid newState commandLine m = (.done job,
      ((m.changingJobs (.added job) table).recording (.log record)).saying
        (additions m.state.settings job)) := by
  obtain ⟨-, hjob, -⟩ := JobTable.exists_of_add h
  obtain ⟨rfl, rfl⟩ : job.pid = pid ∧ job.commandLine = commandLine := by
    rw [hjob]
    exact ⟨rfl, rfl⟩
  refine ⟨⟨.debug, .jobControl,
    s!"created job {job.names} {newState.name}: {job.commandLine}"⟩, ?_⟩
  show (ofExcept (m.state.jobs.add job.pid newState job.commandLine) >>= _) m = _
  rw [h, additions]
  show (given m.state.settings.verbose _ >>= _) _ = _
  cases m.state.settings.verbose <;> rfl

/-- To register a process is to add a job and, if the settings ask for it, to tell so. -/
theorem did_of_register (hplays : m.playsChildren = false)
    (h : register pid newState commandLine m = (.done job, m')) :
    m.state.jobs.add pid newState commandLine = .ok (job, m'.state.jobs) ∧
      Did m (.jobs (.added job) :: (additions m.state.settings job).map .out) m' := by
  cases hadd : m.state.jobs.add pid newState commandLine with
  | error error =>
    have hfailed : register pid newState commandLine m = (.failed error, m) := by
      show (ofExcept (m.state.jobs.add pid newState commandLine) >>= _) m = _
      rw [hadd]
      rfl
    cases hfailed.symm.trans h
  | ok added =>
    obtain ⟨record, hregister⟩ := exists_register_of_ok hadd
    obtain ⟨hjob, rfl⟩ := Prod.mk.inj (hregister.symm.trans h)
    obtain ⟨job', table⟩ := added
    obtain rfl : job' = job := Outcome.done.inj hjob
    have hchanged := Did.changingJobs hplays (.added job') table
    have hlogged := hchanged.trans (.minor hchanged.plays (.log record) rfl)
    exact ⟨rfl, hlogged.trans (.saying hlogged.plays _)⟩

/-- A job that was adopted has been added to the table and announced, and nothing else was done. -/
theorem did_of_adopt (hplays : m.playsChildren = false)
    (h : adopt pid newState commandLine m = (.done job, m')) :
    m.state.jobs.add pid newState commandLine = .ok (job, m'.state.jobs) ∧
      Did m (.jobs (.added job) :: (additions m.state.settings job).map .out) m' := by
  unfold adopt at h
  obtain ⟨failure, m₁, hgroup, h⟩ := exists_of_bind_done h
  obtain ⟨_, m₂, hlogged, h⟩ := exists_of_bind_done h
  obtain ⟨result, m₃, hregister, h⟩ := exists_of_bind_done h
  have hgrouped : Did m [] m₁ :=
    .of_emits (Kernel.emits_minorCall permitsMinor_isMinor fun _ ↦ rfl) hplays hgroup
  have hbefore : Did m [] m₂ := hgrouped.trans
    (.of_emits (emits_logFailure permitsMinor_isMinor _ _ _) hgrouped.plays hlogged)
  have hregistered := eq_of_attempt_done hregister
  cases result with
  | error error =>
    obtain ⟨_, m₄, -, h⟩ := exists_of_bind_done h
    obtain ⟨_, m₅, -, h⟩ := exists_of_bind_done h
    cases h
  | ok registered =>
    obtain ⟨rfl, rfl⟩ : registered = job ∧ m₃ = m' := by
      cases h
      exact ⟨rfl, rfl⟩
    obtain ⟨hadd, hdid⟩ := did_of_register hbefore.plays hregistered
    rw [hbefore.jobs fun change ↦ List.not_mem_nil] at hadd
    rw [hbefore.settings] at hdid
    exact ⟨hadd, hbefore.trans hdid⟩

/-- To block signals and to put the mask back are minor things. -/
theorem exists_of_withBlocked_done {α : Type} {signals : SignalSet} {body : SignalSet → Routine α}
    {value : α} (hplays : m.playsChildren = false)
    (h : withBlocked signals body m = (.done value, m')) :
    ∃ previous m₁ m₂, Did m [] m₁ ∧ body previous m₁ = (.done value, m₂) ∧
      (m₂.playsChildren = false → Did m₂ [] m') := by
  unfold withBlocked at h
  obtain ⟨blocked, m₁, hblock, h⟩ := exists_of_bind_done h
  cases blocked with
  | error errno => cases h
  | ok previous =>
    obtain ⟨result, m₂, hbody, h⟩ := exists_of_bind_done h
    obtain ⟨_, m₃, hrestore, h⟩ := exists_of_bind_done h
    cases result with
    | error error => cases h
    | ok found =>
      cases h
      refine ⟨previous, m₁, m₂, ?_, eq_of_attempt_done hbody, fun hplays₂ ↦ ?_⟩
      · exact .of_emits (Kernel.emits_changeMask permitsMinor_isMinor _ _) hplays hblock
      · exact .of_emits (emits_restoreMask permitsMinor_isMinor _) hplays₂ hrestore

/-- A launch that ends with a job has forked its process and adopted it. -/
theorem did_of_forkAndAdopt {program : String} {previous : SignalSet}
    (hplays : m.playsChildren = false)
    (h : forkAndAdopt command program previous m = (.done job, m')) :
    m.state.jobs.add job.pid (initialState command) command.input = .ok (job, m'.state.jobs) ∧
      Did m (.call ⟨.fork, .number job.pid⟩ :: .jobs (.added job) ::
        (additions m.state.settings job).map .out) m' := by
  unfold forkAndAdopt at h
  obtain ⟨result, m₁, hfork, h⟩ := exists_of_bind_done h
  cases result with
  | error errno => cases h
  | ok pid =>
    have hchild : Emits IsMinor (child program command.argv previous) :=
      emits_child permitsMinor_isMinor _ _ _
    have hforked := Kernel.did_of_fork hchild hplays hfork
    obtain ⟨hadd, hdid⟩ := did_of_adopt hforked.plays h
    obtain rfl : job.pid = pid := by
      obtain ⟨-, hjob, -⟩ := JobTable.exists_of_add hadd
      rw [hjob]
    rw [hforked.jobs fun change hmem ↦ by cases List.mem_singleton.1 hmem] at hadd
    rw [hforked.settings] at hdid
    exact ⟨hadd, hforked.trans hdid⟩

/-- The blocked signal around a launch adds no deed. -/
theorem did_of_launch (hplays : m.playsChildren = false) (hnamed : command.NamesProgram)
    (h : launch command m = (.done job, m')) :
    m.state.jobs.add job.pid (initialState command) command.input = .ok (job, m'.state.jobs) ∧
      Did m (.call ⟨.fork, .number job.pid⟩ :: .jobs (.added job) ::
        (additions m.state.settings job).map .out) m' := by
  by_cases hnul : ∃ argument ∈ command.argv, holdsNul argument = true
  · cases (launch_of_holdsNul hnul).symm.trans h
  obtain ⟨program, hprogram, -⟩ := hnamed
  rw [launch_eq_withBlocked (by simpa using hnul) hprogram] at h
  obtain ⟨previous, m₁, m₂, hblocked, hbody, hrestored⟩ := exists_of_withBlocked_done hplays h
  obtain ⟨hadd, hdid⟩ := did_of_forkAndAdopt hblocked.plays hbody
  have hrestored := hrestored hdid.plays
  rw [hblocked.jobs fun change ↦ List.not_mem_nil] at hadd
  rw [hblocked.settings] at hdid
  rw [hrestored.jobs fun change ↦ List.not_mem_nil]
  refine ⟨hadd, ?_⟩
  have hall := hblocked.trans (hdid.trans hrestored)
  rwa [List.append_nil] at hall

/-- From `m` to `m'` the shell echoed a command as its settings ask, started a process, made it a
job, and announced the job, and did nothing else but minor things. -/
structure LaunchesBeside (m : Machine) (command : Command) (job : Job) (m' : Machine) : Prop where
  added : m.state.jobs.add job.pid .background command.input = .ok (job, m'.state.jobs)
  commandLine : job.commandLine = command.input
  /-- The announced id is that of the new job and of no other. -/
  only : ∀ other ∈ m'.state.jobs.jobs, other.id = job.id ↔ other = job
  deeds : m'.trace.deeds = m.trace.deeds ++ (echoes m.state.settings command).map .out ++
    [.call ⟨.fork, .number job.pid⟩, .jobs (.added job)] ++
    (additions m.state.settings job).map .out ++ [.out (job.announcement ++ "\n")]

/-- A line in the background that ends well has launched one job beside the rest. -/
theorem exists_launchesBeside (hplays : m.playsChildren = false)
    (hwellFormed : m.state.jobs.WellFormed) (hnamed : command.NamesProgram)
    (hbackground : command.background = true) (h : run command m = (.done (), m')) :
    ∃ job, LaunchesBeside m command job m' := by
  have hlogged := Did.minor hplays (.log ⟨.debug, .shell, command.inspect⟩) rfl
  have hechoed : Did m ((echoes m.state.settings command).map .out) (echoing m command) :=
    hlogged.trans (.saying hlogged.plays _)
  rw [run_of_namesProgram hnamed] at h
  obtain ⟨job, m₁, hlaunch, h⟩ := exists_of_bind_done h
  obtain ⟨hadd, hdid⟩ := did_of_launch hechoed.plays hnamed hlaunch
  have hstate : initialState command = .background := if_pos hbackground
  rw [hechoed.jobs fun change hmem ↦ by simp at hmem, hstate] at hadd
  rw [hechoed.settings] at hdid
  -- The lookup by id finds the new job, as no other job has its id.
  have hwellFormed₁ : m₁.state.jobs.WellFormed := hwellFormed.follows (.add hadd)
  have hmem : job ∈ m₁.state.jobs.jobs := (JobTable.mem_jobs_add_iff hadd).2 (Or.inl rfl)
  simp only [hbackground, if_true] at h
  obtain ⟨s, m₂, hs, h⟩ := exists_of_bind_done h
  cases hs
  rw [hwellFormed₁.byId?_of_mem hmem] at h
  cases h
  have hannounced := (hechoed.trans hdid).trans (.recording hdid.plays
    (.out (job.announcement ++ "\n")) rfl)
  refine ⟨job, hadd, ?_, fun other hother ↦ ⟨fun heq ↦ ?_, congrArg Job.id⟩, ?_⟩
  · obtain ⟨-, hjob, -⟩ := JobTable.exists_of_add hadd
    rw [hjob]
  · exact List.inj_on_of_nodup_map hwellFormed₁.nodup_ids hother hmem heq
  · exact hannounced.deeds.trans (by simp [List.append_assoc])

/-! ### The whole of a line -/

/-- A session of a shell that echoes, before anything is asked of it. -/
def echoed : Session where
  settings := { verbose := true }
  steps := []

end Shell

end JobShell
