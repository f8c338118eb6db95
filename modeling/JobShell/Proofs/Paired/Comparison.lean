import JobShell.Proofs.Rules.Drain

/-!
# Comparing two runs

Two machines may be compared in many ways: by what an onlooker sees of them, or up to what was
noted. No routine reads the trace, none but a drain reads the notes, and the settings only decide
what is said in addition. So a relation that fixes the rest and lets the same be done to both
machines is kept by every routine: started on machines so related, it ends alike and leaves them
related. That is said here once for all such relations.
-/

namespace JobShell

/-- An event that writes to one of the streams. -/
def Event.isWritten : Event → Bool
  | out _ | err _ => true
  | _ => false

/-- What was written to either stream, newest first. -/
def Trace.written (trace : Trace) : List Event :=
  (trace.map Moment.event).filter Event.isWritten

/-! Events that do not show in a view of a trace may be left out. -/

/-- A view sees as much after the events it does not see are filtered out. -/
theorem Event.filterMap_filter {α : Type} {shown : Event → Bool} {view : Event → Option α}
    (h : ∀ event, shown event = false → view event = none) (events : List Event) :
    (events.filter shown).filterMap view = events.filterMap view := by
  rw [List.filterMap_filter]
  congr 1
  funext event
  cases hshown : shown event with
  | true => rfl
  | false => exact (h event hshown).symm

/-- Texts of events that say nothing may be left out of what is joined. -/
theorem Event.join_map_filter {shown : Event → Bool} {text : Event → String}
    (h : ∀ event, shown event = false → text event = "") (events : List Event) :
    String.join ((events.filter shown).map text) = String.join (events.map text) := by
  induction events with
  | nil => rfl
  | cons event events ih =>
    cases hshown : shown event with
    | true =>
      rw [List.filter_cons_of_pos hshown, List.map_cons, List.map_cons, String.join_cons,
        String.join_cons, ih]
    | false =>
      rw [List.filter_cons_of_neg (by simp [hshown]), List.map_cons, String.join_cons,
        h event hshown, String.empty_append, ih]

namespace Trace

/-- The events of a trace without the log records, newest first. -/
def unlogged (trace : Trace) : List Event :=
  (trace.map Moment.event).filter fun event ↦ event.log?.isNone

variable (trace : Trace)

/-- No log record is written to a stream. -/
theorem filter_unlogged : (unlogged trace).filter Event.isWritten = trace.written := by
  rw [unlogged, written, List.filter_filter]
  refine List.filter_congr fun event _ ↦ ?_
  cases event <;> rfl

theorem filter_events : (events trace).filter (fun event ↦ event.log?.isNone) =
    (unlogged trace).reverse := List.filter_reverse

/-- No log record is a call. -/
theorem calls_eq_unlogged : calls trace = (unlogged trace).reverse.filterMap Event.call? := by
  have hcalls : ∀ event : Event, event.log?.isNone = false → event.call? = none := by
    intro event hlog
    cases event <;> first | rfl | cases hlog
  rw [← filter_events, Event.filterMap_filter hcalls]
  rfl

/-- A text to which log records add nothing. -/
theorem join_eq_unlogged {text : Event → String} (h : ∀ record, text (.log record) = "") :
    String.join ((events trace).map text) = String.join ((unlogged trace).reverse.map text) := by
  have hnone : ∀ event : Event, event.log?.isNone = false → text event = "" := by
    intro event hlog
    cases event <;> first | exact h _ | cases hlog
  rw [← filter_events, Event.join_map_filter hnone]

end Trace

namespace Machine

variable (m : Machine)

/-- The machine once something was said that the settings ask for. -/
def aside (wanted : Settings → Bool) (text : String) : Machine :=
  if wanted m.state.settings then m.recording (.out text) else m

/-- What two machines have in common on which routines do the same. -/
structure Concurs (m m' : Machine) : Prop where
  jobs : m'.state.jobs = m.state.jobs
  kernel : m'.state.kernel = m.state.kernel
  plays : m'.playsChildren = m.playsChildren
  obstacle : m'.obstacle? = m.obstacle?
  script : m'.script = m.script
  exhausted : m'.exhausted = m.exhausted

/-- The states differ in settings and notes alone. -/
theorem Concurs.state_eq {m m' : Machine} (h : m.Concurs m') : m'.state =
    { m.state with settings := m'.state.settings, noted := m'.state.noted } := by
  show m'.state = ⟨m'.state.settings, m.state.jobs, m'.state.noted, m.state.kernel⟩
  rw [← h.jobs, ← h.kernel]

end Machine

/-- A relation between machines that concur, which stays when the same is done to both. Log records
do not count. -/
class Comparison (R : Machine → Machine → Prop) : Prop where
  concurs : ∀ {m m'}, R m m' → m.Concurs m'
  recording : ∀ {m m'} (event : Event), R m m' → R (m.recording event) (m'.recording event)
  log_left : ∀ {m m'} (record : LogRecord), R m m' → R (m.recording (.log record)) m'
  log_right : ∀ {m m'} (record : LogRecord), R m m' → R m (m'.recording (.log record))
  /-- What is said in addition may depend on the settings. -/
  aside : ∀ {m m'} (wanted : Settings → Bool) (text : String),
    wanted = Settings.verbose ∨ wanted = Settings.prompt → R m m' →
      R (m.aside wanted text) (m'.aside wanted text)
  withKernel : ∀ {m m'} (f : Kernel → Kernel), R m m' → R (m.withKernel f) (m'.withKernel f)
  withJobs : ∀ {m m'} (table : JobTable), R m m' →
    R (m.withState { m.state with jobs := table }) (m'.withState { m'.state with jobs := table })
  noting : ∀ {m m'} (signal : Handled), R m m' →
    R (m.withState { m.state with noted := m.state.noted.noting signal })
      (m'.withState { m'.state with noted := m'.state.noted.noting signal })
  withScript : ∀ {m m'} (script : Script), R m m' → R { m with script } { m' with script }
  exhausting : ∀ {m m'}, R m m' → R { m with exhausted := true } { m' with exhausted := true }
  /-- Children that run to their end within a fork do so on copies that are compared again, and are
  seen by what they write. -/
  playing : ∀ {m m'}, R m m' → m.playsChildren = true →
    R { m with trace := [] } { m' with trace := [] } ∧
      ∀ n n', R n n' → Trace.written n'.trace = Trace.written n.trace

/-- A comparison that takes note of the notes, which a drain reads. -/
class Thorough (R : Machine → Machine → Prop) : Prop extends Comparison R where
  noted : ∀ {m m'}, R m m' → m'.state.noted = m.state.noted
  takingNoted : ∀ {m m'}, R m m' → R m.takingNoted m'.takingNoted

namespace Routine

variable {α β : Type} {R₀ R : Machine → Machine → Prop}

/-- Started on machines that `R₀` relates, the routines end alike and leave machines that `R`
relates. -/
def PairedFrom (R₀ R : Machine → Machine → Prop) (routine routine' : Routine α) : Prop :=
  ∀ m m', R₀ m m' → (routine m).1 = (routine' m').1 ∧ R (routine m).2 (routine' m').2

/-- Started on machines that are related, the routines end alike and leave machines that are. -/
def Paired (R : Machine → Machine → Prop) : Routine α → Routine α → Prop := PairedFrom R R

variable {routine routine' routine'' : Routine α} {next next' : α → Routine β}

/-! ### Control -/

theorem paired_pure (value : α) : Paired R (Pure.pure value) (Pure.pure value) :=
  fun _ _ hm ↦ ⟨rfl, hm⟩

theorem paired_fail (error : Error) : Paired R (fail error : Routine α) (fail error) :=
  fun _ _ hm ↦ ⟨rfl, hm⟩

theorem paired_finish (status : Nat) : Paired R (finish status : Routine α) (finish status) :=
  fun _ _ hm ↦ ⟨rfl, hm⟩

theorem paired_stall : Paired R (stall : Routine α) stall := fun _ _ hm ↦ ⟨rfl, hm⟩

/-- One routine after another, where something is known of the first machine when the first routine
is done. -/
theorem PairedFrom.bind_knowing {mid : Machine → Prop}
    (h : PairedFrom R₀ R routine routine')
    (hmid : ∀ m m' value n, R₀ m m' → routine m = (.done value, n) → mid n)
    (hnext : ∀ value, PairedFrom (fun m m' ↦ mid m ∧ R m m') R (next value) (next' value)) :
    PairedFrom R₀ R (routine >>= next) (routine' >>= next') := by
  intro m m' hm
  obtain ⟨houtcome, hrelated⟩ := h m m' hm
  rcases hr : routine m with ⟨outcome, n⟩
  rcases hr' : routine' m' with ⟨outcome', n'⟩
  rw [hr, hr'] at houtcome hrelated
  obtain rfl : outcome = outcome' := houtcome
  cases outcome with
  | done value =>
    rw [bind_of_done hr, bind_of_done hr']
    exact hnext value n n' ⟨hmid m m' value n hm hr, hrelated⟩
  | failed error =>
    rw [bind_of_failed hr, bind_of_failed hr']
    exact ⟨rfl, hrelated⟩
  | exited status =>
    rw [bind_of_exited hr, bind_of_exited hr']
    exact ⟨rfl, hrelated⟩
  | stalled =>
    rw [bind_of_stalled hr, bind_of_stalled hr']
    exact ⟨rfl, hrelated⟩

/-- One routine after another. -/
theorem PairedFrom.bind (h : PairedFrom R₀ R routine routine')
    (hnext : ∀ value, Paired R (next value) (next' value)) :
    PairedFrom R₀ R (routine >>= next) (routine' >>= next') :=
  h.bind_knowing (fun _ _ _ _ _ _ ↦ trivial) fun value m m' hm ↦ hnext value m m' hm.2

/-- Parts that are paired are paired in sequence. -/
theorem Paired.bind (h : Paired R routine routine')
    (hnext : ∀ value, Paired R (next value) (next' value)) :
    Paired R (routine >>= next) (routine' >>= next') := PairedFrom.bind h hnext

/-- What is caught is the same error in both runs. -/
theorem Paired.attempt (h : Paired R routine routine') :
    Paired R (attempt routine) (attempt routine') := by
  intro m m' hm
  obtain ⟨houtcome, hrelated⟩ := h m m' hm
  unfold Routine.attempt
  rcases hr : routine m with ⟨outcome, n⟩
  rcases hr' : routine' m' with ⟨outcome', n'⟩
  rw [hr, hr'] at houtcome hrelated
  obtain rfl : outcome = outcome' := houtcome
  cases outcome <;> exact ⟨rfl, hrelated⟩

theorem paired_ofExcept (result : Except Error α) :
    Paired R (ofExcept result) (ofExcept result) := by
  cases result with
  | ok value => exact paired_pure value
  | error error => exact paired_fail error

theorem Paired.given {routine routine' : Routine Unit} (h : Paired R routine routine')
    (condition : Bool) : Paired R (given condition routine) (given condition routine') := by
  cases condition with
  | true => exact h
  | false => exact paired_pure ()

/-- Doing something for each element of a list. -/
theorem paired_forM {ι : Type} {f f' : ι → Routine Unit} (h : ∀ x, Paired R (f x) (f' x)) :
    ∀ xs : List ι, Paired R (xs.forM f) (xs.forM f')
  | [] => paired_pure ()
  | x :: xs => (h x).bind fun _ ↦ paired_forM h xs

/-! ### The machine -/

/-- Routines that look at the machine may each look at their own. -/
theorem paired_machine {next next' : Machine → Routine β}
    (h : ∀ m m', R m m' → Paired R (next m) (next' m')) :
    Paired R (machine >>= next) (machine >>= next') := fun m m' hm ↦ h m m' hm m m' hm

variable [Comparison R]

/-- Both machines give the same to work that looks neither at settings nor at notes. -/
theorem paired_state {next next' : State → Routine β}
    (hview : ∀ s settings noted, next' { s with settings, noted } = next' s)
    (h : ∀ s, Paired R (next s) (next' s)) : Paired R (state >>= next) (state >>= next') := by
  intro m m' hm
  show (next m.state m).1 = (next' m'.state m').1 ∧ R (next m.state m).2 (next' m'.state m').2
  rw [(Comparison.concurs hm).state_eq, hview]
  exact h m.state m m' hm

theorem paired_record (event : Event) : Paired R (record event) (record event) :=
  fun _ _ hm ↦ ⟨rfl, Comparison.recording event hm⟩

/-- Log records do not even have to be the same. -/
theorem paired_log {level level' : Level} {component component' : Component}
    {text text' : String} :
    Paired R (log level component text) (log level' component' text') :=
  fun _ _ hm ↦ ⟨rfl, Comparison.log_left _ (Comparison.log_right _ hm)⟩

/-- A log record may be left out. -/
theorem paired_log_pure {level : Level} {component : Component} {text : String} :
    Paired R (log level component text) (Pure.pure ()) :=
  fun _ _ hm ↦ ⟨rfl, Comparison.log_left _ hm⟩

/-- What is said if the settings ask for it. -/
theorem paired_aside {wanted : Settings → Bool}
    (hwanted : wanted = Settings.verbose ∨ wanted = Settings.prompt) (text : String) :
    Paired R (do given (wanted (← state).settings) (print text))
      (do given (wanted (← state).settings) (print text)) := by
  have happly : ∀ m, (do given (wanted (← state).settings) (print text) : Routine Unit) m =
      (.done (), m.aside wanted text) := by
    intro m
    show given (wanted m.state.settings) (print text) m = _
    unfold Machine.aside
    cases wanted m.state.settings <;> rfl
  intro m m' hm
  rw [happly, happly]
  exact ⟨rfl, Comparison.aside wanted text hwanted hm⟩

theorem paired_modifyKernel (f : Kernel → Kernel) :
    Paired R (modifyKernel f) (modifyKernel f) :=
  fun _ _ hm ↦ ⟨rfl, Comparison.withKernel f hm⟩

/-- The same change of the table keeps the machines alike. -/
theorem paired_changeJobs (change : JobChange) (table : JobTable) :
    Paired R (changeJobs change table) (changeJobs change table) :=
  fun _ _ hm ↦ ⟨rfl, Comparison.recording _ (Comparison.withJobs table hm)⟩

end Routine

end JobShell
