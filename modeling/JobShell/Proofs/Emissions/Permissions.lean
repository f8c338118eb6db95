import JobShell.Proofs.Rules.Drain
import JobShell.Session

/-!
# What may be added to the trace

Most of what a shell does is the same whatever it is asked: it masks signals, waits, logs, drains.
A few kinds of events tell what it is about: output, changes of the job table, forks, signals that
are sent, and sleeps. A predicate on moments permits such events or forbids them, and a routine that
needs only what is permitted adds nothing else to the trace. That some work never does a thing
follows with a predicate that forbids this thing and permits the rest.
-/

namespace JobShell

open Routine

variable {α β : Type} {p q : Moment → Prop} {m m' m'' : Machine}

/-- The event is of a kind that almost every routine brings about. -/
def Event.isMinor : Event → Bool
  | out _ | jobs _ | call ⟨.fork, _⟩ | call ⟨.send _ _, _⟩ | call ⟨.suspend _, _⟩ => false
  | _ => true

/-- Work led from `m` to `m'`, and what it added to the trace is as `p` says. Children are up to
the script, before and after. -/
structure Emitted (p : Moment → Prop) (m m' : Machine) : Prop where
  plays : m'.playsChildren = false
  past : m'.past = m.past
  settings : m'.state.settings = m.state.settings
  /-- A table that may not be changed is not. -/
  jobs : (∀ moment, p moment → ∀ change, moment.event ≠ .jobs change) →
    m'.state.jobs = m.state.jobs
  news : ∃ news, m'.trace = news ++ m.trace ∧ ∀ moment ∈ news, p moment

/-- What may be added by work with an outcome: if it ended the process, then the quit key's handler
may have said so. -/
def Outcome.Permits (p : Moment → Prop) : Outcome α → Moment → Prop
  | .exited _, moment => p moment ∨ moment.event = .out (Kernel.quitNotice ++ "\n")
  | _, moment => p moment

/-- However work ends, it may have added what is permitted. -/
theorem Outcome.permits_of {outcome : Outcome α} {moment : Moment} (h : p moment) :
    outcome.Permits p moment := by
  cases outcome with
  | exited status => exact Or.inl h
  | _ => exact h

/-- Where anything may be said, the quit key's handler is no exception. -/
theorem Outcome.Permits.of_said {outcome : Outcome α} {moment : Moment}
    (h : outcome.Permits p moment) (hsaid : ∀ text s, p ⟨.out text, s⟩) : p moment := by
  cases outcome with
  | exited status =>
    obtain ⟨event, s⟩ := moment
    rcases h with hp | hout
    · exact hp
    · obtain rfl : event = _ := hout
      exact hsaid _ s
  | _ => exact h

namespace Emitted

/-- Nothing was added. -/
theorem refl (h : m.playsChildren = false) : Emitted p m m :=
  ⟨h, rfl, rfl, fun _ ↦ rfl, [], rfl, by simp⟩

/-- What is permitted may be more. -/
theorem imp (h : Emitted p m m') (hq : ∀ moment, p moment → q moment) : Emitted q m m' := by
  obtain ⟨hplays, hpast, hsettings, hjobs, news, htrace, hnews⟩ := h
  refine ⟨hplays, hpast, hsettings, fun hnone ↦ hjobs fun moment hp ↦ ?_, news, htrace, ?_⟩
  · exact hnone moment (hq moment hp)
  · exact fun moment hmem ↦ hq moment (hnews moment hmem)

/-- What one piece of work adds is followed by what the next one adds. -/
theorem trans (h : Emitted p m m') (h' : Emitted p m' m'') : Emitted p m m'' := by
  obtain ⟨-, hpast, hsettings, hjobs, news, htrace, hnews⟩ := h
  obtain ⟨hplays, hpast', hsettings', hjobs', news', htrace', hnews'⟩ := h'
  refine ⟨hplays, hpast'.trans hpast, hsettings'.trans hsettings,
    fun hnone ↦ (hjobs' hnone).trans (hjobs hnone), news' ++ news, ?_, ?_⟩
  · rw [htrace', htrace, List.append_assoc]
  · exact fun moment hmem ↦ (List.mem_append.1 hmem).elim (hnews' moment) (hnews moment)

/-- A single event may be added if it is permitted at this state. -/
theorem recording (h : m.playsChildren = false) {event : Event} (hp : p ⟨event, m.state⟩) :
    Emitted p m (m.recording event) :=
  ⟨h, rfl, rfl, fun _ ↦ rfl, [_], rfl, fun _ hmem ↦ List.mem_singleton.1 hmem ▸ hp⟩

/-- A change of the table is seen at the table that it leads to. -/
theorem changingJobs (h : m.playsChildren = false) {change : JobChange} {table : JobTable}
    (hp : p ⟨.jobs change, { m.state with jobs := table }⟩) :
    Emitted p m (m.changingJobs change table) :=
  ⟨h, rfl, rfl, fun hnone ↦ absurd rfl (hnone _ hp change), [_], rfl,
    fun _ hmem ↦ List.mem_singleton.1 hmem ▸ hp⟩

/-- A change of the machine that nothing tells of. -/
theorem ofState (h : m.playsChildren = false) (hplays : m'.playsChildren = m.playsChildren)
    (htrace : m'.trace = m.trace) (hpast : m'.past = m.past)
    (hsettings : m'.state.settings = m.state.settings) (hjobs : m'.state.jobs = m.state.jobs) :
    Emitted p m m' :=
  ⟨hplays.trans h, hpast, hsettings, fun _ ↦ hjobs, [], htrace, by simp⟩

end Emitted

namespace Routine

/-- What the routine adds to the trace, if it begins with `m`, is as `p` says. -/
def EmitsAt (p : Moment → Prop) (routine : Routine α) (m : Machine) : Prop :=
  m.playsChildren = false → Emitted ((routine m).1.Permits p) m (routine m).2

/-- What the routine adds to the trace is as `p` says. -/
def Emits (p : Moment → Prop) (routine : Routine α) : Prop := ∀ m, EmitsAt p routine m

variable {routine : Routine α} {next : α → Routine β}

/-! ### Control -/

/-- It is enough to know how the routine ends and where it leads. -/
theorem EmitsAt.of_eq {outcome : Outcome α} (h : routine m = (outcome, m'))
    (hemitted : m.playsChildren = false → Emitted p m m') : EmitsAt p routine m := by
  intro hplays
  rw [h]
  exact (hemitted hplays).imp fun _ ↦ Outcome.permits_of

/-- What was added by work with a result. -/
theorem EmitsAt.emitted (h : EmitsAt p routine m) (hplays : m.playsChildren = false) {value : α}
    (hdone : routine m = (.done value, m')) : Emitted p m m' := by
  have hemitted := h hplays
  rw [hdone] at hemitted
  exact hemitted

theorem emits_pure (value : α) : Emits p (Pure.pure value : Routine α) :=
  fun _ ↦ .of_eq rfl Emitted.refl

theorem emits_fail (error : Error) : Emits p (fail error : Routine α) :=
  fun _ ↦ .of_eq rfl Emitted.refl

theorem emits_finish (status : Nat) : Emits p (finish status : Routine α) :=
  fun _ ↦ .of_eq rfl Emitted.refl

theorem emits_stall : Emits p (stall : Routine α) := fun _ ↦ .of_eq rfl Emitted.refl

/-- The second routine only has to add what it may if it begins where the first is done. -/
theorem EmitsAt.bind (h : EmitsAt p routine m)
    (hnext : ∀ value m', routine m = (.done value, m') → EmitsAt p (next value) m') :
    EmitsAt p (routine >>= next) m := by
  intro hplays
  have hfirst := h hplays
  rcases hr : routine m with ⟨outcome, m'⟩
  rw [hr] at hfirst
  cases outcome with
  | done value =>
    rw [bind_of_done hr]
    exact (hfirst.imp fun _ ↦ Outcome.permits_of).trans (hnext value m' hr hfirst.plays)
  | failed error =>
    rw [bind_of_failed hr]
    exact hfirst
  | exited status =>
    rw [bind_of_exited hr]
    exact hfirst
  | stalled =>
    rw [bind_of_stalled hr]
    exact hfirst

/-- One routine after another. -/
theorem Emits.bind (h : Emits p routine) (hnext : ∀ value, Emits p (next value)) :
    Emits p (routine >>= next) := fun m ↦ (h m).bind fun value m' _ ↦ hnext value m'

/-- A failure that is caught has added what it added before. -/
theorem Emits.attempt (h : Emits p routine) : Emits p (attempt routine) := by
  intro m hplays
  have hroutine := h m hplays
  unfold Routine.attempt
  rcases hr : routine m with ⟨outcome, m'⟩
  rw [hr] at hroutine
  cases outcome <;> exact hroutine

theorem emits_ofExcept (result : Except Error α) : Emits p (ofExcept result) := by
  cases result with
  | ok value => exact emits_pure value
  | error error => exact emits_fail error

/-- What follows a result may use that it is the value of the result. -/
theorem emits_ofExcept_bind {result : Except Error α}
    (h : ∀ value, result = .ok value → Emits p (next value)) :
    Emits p (ofExcept result >>= next) := by
  cases result with
  | ok value => exact h value rfl
  | error error => exact emits_fail error

/-- What is done only on a condition. -/
theorem Emits.given {routine : Routine Unit} (h : Emits p routine) (condition : Bool) :
    Emits p (given condition routine) := by
  cases condition with
  | true => exact h
  | false => exact emits_pure ()

/-- What is done for each element of a list. -/
theorem emits_forM {ι : Type} {f : ι → Routine Unit} (h : ∀ x, Emits p (f x)) :
    ∀ xs : List ι, Emits p (xs.forM f)
  | [] => emits_pure ()
  | x :: xs => (h x).bind fun _ ↦ emits_forM h xs

/-! ### The machine -/

/-- To look at the state adds nothing. -/
theorem emits_state {next : State → Routine β} (h : ∀ s, Emits p (next s)) :
    Emits p (state >>= next) := fun m ↦ h m.state m

/-- To look at the machine adds nothing, and children are not played. -/
theorem emits_machine {next : Machine → Routine β}
    (h : ∀ m, m.playsChildren = false → Emits p (next m)) : Emits p (machine >>= next) :=
  fun m hplays ↦ h m hplays m hplays

/-- An event may be recorded if it is permitted at every state. -/
theorem emits_record {event : Event} (h : ∀ s, p ⟨event, s⟩) : Emits p (record event) :=
  fun m ↦ .of_eq rfl fun hplays ↦ .recording hplays (h m.state)

/-- A change of the state that no moment tells of spares the settings and the table. -/
theorem emits_modifyState {f : State → State} (h : ∀ s, (f s).settings = s.settings)
    (hjobs : ∀ s, (f s).jobs = s.jobs) : Emits p (modifyState f) :=
  fun m ↦ .of_eq rfl fun hplays ↦ .ofState hplays rfl rfl rfl (h m.state) (hjobs m.state)

theorem emits_modifyKernel (f : Kernel → Kernel) : Emits p (modifyKernel f) :=
  emits_modifyState (fun _ ↦ rfl) fun _ ↦ rfl

/-- A change of the table has to be permitted at the new table only. -/
theorem emits_changeJobs {change : JobChange} {table : JobTable}
    (h : ∀ s, s.jobs = table → p ⟨.jobs change, s⟩) : Emits p (changeJobs change table) := by
  have hchanged : ∀ m, changeJobs change table m = (.done (), m.changingJobs change table) :=
    fun _ ↦ rfl
  exact fun m ↦ .of_eq (hchanged m) fun hplays ↦ .changingJobs hplays (h _ rfl)

end Routine

/-! ### Permissions -/

/-- A predicate that says nothing of minor events. -/
structure PermitsMinor (p : Moment → Prop) : Prop where
  minor : ∀ moment, moment.event.isMinor = true → p moment

/-- A predicate that permits what a drain does: it tells of jobs that ended or were stopped, changes
the table by what it learns, and passes on the two keys. -/
structure PermitsDrain (p : Moment → Prop) : Prop extends PermitsMinor p where
  said : ∀ text s, p ⟨.out text, s⟩
  learned : ∀ (table table' : JobTable) status change s,
    table.learn? status = some (change, table') → p ⟨.jobs change, s⟩
  relayed : ∀ pid signal answer s, signal = .int ∨ signal = .tstp →
    p ⟨.call ⟨.send (-pid) signal, answer⟩, s⟩

/-- A predicate that permits also to sleep. -/
structure PermitsWait (p : Moment → Prop) : Prop extends PermitsDrain p where
  suspended : ∀ mask answer s, p ⟨.call ⟨.suspend mask, answer⟩, s⟩

/-- A predicate that permits to continue the job that `spec` names and to give it a new state. -/
structure PermitsResume (p : Moment → Prop) (spec : JobSpec) (newState : JobState) : Prop where
  continued : ∀ (s : State) job answer, s.jobs.resolve spec = .ok job →
    p ⟨.call ⟨.send (-job.pid) .cont, answer⟩, s⟩
  restated : ∀ (table : JobTable) job changed s, table.resolve spec = .ok job →
    table.setState job.pid newState = some (changed, s.jobs) → p ⟨.jobs (.restated changed), s⟩

namespace PermitsMinor

variable (h : PermitsMinor p)
include h

/-- Minor events are permitted. -/
theorem emits_record {event : Event} (hminor : event.isMinor = true) : Emits p (record event) :=
  Routine.emits_record fun _ ↦ h.minor _ hminor

theorem emits_log {level : Level} {component : Component} {text : String} :
    Emits p (log level component text) := h.emits_record rfl

end PermitsMinor

/-! ### What commands ask for -/

/-- The command names a job to be continued by a builtin command. -/
def Command.Resumes (command : Command) (spec : JobSpec) (newState : JobState) : Prop :=
  ∃ arg rest, JobSpec.parse? arg = some spec ∧
    (command.argv = "fg" :: arg :: rest ∧ newState = .foreground ∨
      command.argv = "bg" :: arg :: rest ∧ newState = .background)

/-- The command names a program and no builtin command. -/
def Command.NamesProgram (command : Command) : Prop :=
  ∃ program, command.program? = some program ∧ program ∉ ["bg", "fg", "jobs", "quit"]

/-- A word calls a builtin command unless it is none of four. -/
theorem Builtin.ofName?_eq_none_iff {name : String} :
    ofName? name = none ↔ name ∉ ["bg", "fg", "jobs", "quit"] := by
  have hnames : ["bg", "fg", "jobs", "quit"] = all.map Builtin.name := rfl
  rw [ofName?, List.find?_eq_none, hnames, List.mem_map, not_exists]
  refine forall_congr' fun builtin ↦ ?_
  rw [beq_iff_eq, not_and]

/-- A builtin command is called by its name. -/
theorem Builtin.name_of_ofName? {name : String} {builtin : Builtin}
    (h : ofName? name = some builtin) : builtin.name = name := by
  simpa using List.find?_some h

/-- The command that a piece of input is, if it can be read. -/
def Shell.commandOf? (piece : List UInt8) : Option Command :=
  (Text.Utf8.decode? piece).bind fun text ↦ (Command.parse text).toOption

/-- The commands that an instruction has the shell run. -/
def Instruction.commands : Instruction → List Command
  | line text => (Command.parse text).toOption.toList
  | input bytes => (Shell.inputLines bytes).filterMap Shell.commandOf?
  | foreground _ | background _ | occur _ | inspect | leave _ => []

/-- The instruction has the shell continue the job that `spec` names, and not by a command. -/
inductive Instruction.Resumes : Instruction → JobSpec → JobState → Prop
  | foreground {text : String} {spec : JobSpec} (h : JobSpec.parse? text = some spec) :
    Resumes (.foreground text) spec .foreground
  | background {text : String} {spec : JobSpec} (h : JobSpec.parse? text = some spec) :
    Resumes (.background text) spec .background

/-- A predicate that permits to register a new child as the command's job, or to kill it. -/
structure PermitsAdoption (p : Moment → Prop) (command : Command) : Prop where
  added : ∀ job s, job.state = Shell.initialState command → job.commandLine = command.input →
    p ⟨.jobs (.added job), s⟩
  killed : ∀ pid answer s, p ⟨.call ⟨.send (-pid) .kill, answer⟩, s⟩

/-- A predicate that permits to launch the command as a job. -/
structure PermitsLaunch (p : Moment → Prop) (command : Command) : Prop
    extends PermitsAdoption p command where
  forked : ∀ answer s, p ⟨.call ⟨.fork, answer⟩, s⟩

/-- A predicate that permits what the command asks for. -/
structure PermitsCommand (p : Moment → Prop) (command : Command) : Prop where
  resumes : ∀ spec newState, command.Resumes spec newState → PermitsResume p spec newState
  launches : command.NamesProgram → PermitsLaunch p command

/-- A predicate that permits what the instruction asks for. -/
structure PermitsInstruction (p : Moment → Prop) (instruction : Instruction) : Prop where
  commands : ∀ command ∈ instruction.commands, PermitsCommand p command
  resumes : ∀ spec newState, instruction.Resumes spec newState → PermitsResume p spec newState

end JobShell
