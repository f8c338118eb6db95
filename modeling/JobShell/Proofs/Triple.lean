import JobShell.Routine

/-!
# Triples

A triple says how a routine leaves the machine: from every machine that satisfies its precondition,
the routine ends as its postcondition says. A postcondition has a clause for each of the four ways
to end. A clause that is left out says that the routine does not end that way, so a triple about
what is done is at the same time a proof that it is done.
-/

namespace JobShell

variable {α β : Type}

/-- How a routine leaves the machine, by the way it ends. -/
structure Post (α : Type) where
  /-- It is done and has a value. -/
  done : α → Machine → Prop
  /-- It failed. -/
  failed : Error → Machine → Prop := fun _ _ ↦ False
  /-- The process ended. -/
  exited : Machine → Prop := fun _ ↦ False
  /-- A loop ran out of its bound. -/
  stalled : Machine → Prop := fun _ ↦ False

/-- The outcome that a result stands for. -/
def Outcome.ofResult : Except Error α → Outcome α
  | .ok value => .done value
  | .error error => .failed error

/-- What is to hold by the result of a routine: `ok` of its value, or `error` of its error. -/
def onResult {ε : Type} (ok : α → Machine → Prop) (error : ε → Machine → Prop) :
    Except ε α → Machine → Prop
  | .ok value => ok value
  | .error cause => error cause

namespace Post

/-- The clause for an outcome. -/
def Holds (post : Post α) : Outcome α → Machine → Prop
  | .done value, m => post.done value m
  | .failed error, m => post.failed error m
  | .exited _, m => post.exited m
  | .stalled, m => post.stalled m

/-- What the first of two routines has to achieve if both together achieve `post`: the second
starts where `mid` holds, and every other way to end is final. -/
def upTo (post : Post β) (mid : α → Machine → Prop) : Post α where
  done := mid
  failed := post.failed
  exited := post.exited
  stalled := post.stalled

/-- What a routine has to achieve so that attempting it achieves `post`. -/
def attempting (post : Post (Except Error α)) : Post α where
  done value := post.done (.ok value)
  failed error := post.done (.error error)
  exited := post.exited
  stalled := post.stalled

end Post

namespace Routine

variable {pre pre' : Machine → Prop} {routine : Routine α} {next : α → Routine β}
  {post post' : Post α}

/-- From every machine with `pre` the routine ends as `post` says. -/
def Triple (pre : Machine → Prop) (routine : Routine α) (post : Post α) : Prop :=
  ∀ m, pre m → post.Holds (routine m).1 (routine m).2

/-! ### Weaker statements -/

/-- More may be asked of the machine before. -/
theorem Triple.of_imp (h : Triple pre routine post) (hpre : ∀ m, pre' m → pre m) :
    Triple pre' routine post := fun m hm ↦ h m (hpre m hm)

/-- Less may be said of the machine after. -/
theorem Triple.weaken (h : Triple pre routine post)
    (hpost : ∀ outcome m, post.Holds outcome m → post'.Holds outcome m) :
    Triple pre routine post' := fun m hm ↦ hpost _ _ (h m hm)

/-- A routine that is done or ends the process, for weaker clauses of both kinds. -/
theorem Triple.imp {done : α → Machine → Prop} {exited : Machine → Prop}
    (h : Triple pre routine { done, exited })
    (hdone : ∀ value m, done value m → post.done value m)
    (hexited : ∀ m, exited m → post.exited m) : Triple pre routine post := by
  refine h.weaken ?_
  rintro (value | error | status | _) m hm
  · exact hdone value m hm
  · exact hm.elim
  · exact hexited m hm
  · exact hm.elim

/-- A routine that is always done can be used for any postcondition. -/
theorem Triple.of_done {mid : α → Machine → Prop} (h : Triple pre routine { done := mid })
    (hmid : ∀ value m, mid value m → post.done value m) : Triple pre routine post :=
  h.imp hmid fun _ never ↦ False.elim never

/-- A routine with no other way to end is done. -/
theorem Triple.exists_done {mid : α → Machine → Prop} (h : Triple pre routine { done := mid })
    {m : Machine} (hm : pre m) : ∃ value m', routine m = (.done value, m') ∧ mid value m' := by
  have hend := h m hm
  generalize routine m = result at hend ⊢
  obtain ⟨value | error | status | _, m'⟩ := result
  · exact ⟨value, m', rfl, hend⟩
  · exact hend.elim
  · exact hend.elim
  · exact hend.elim

/-- A routine that never runs out of a bound. -/
theorem Triple.of_ne_stalled (h : Triple pre routine post)
    (hnever : ∀ m, pre m → (routine m).1 ≠ .stalled) :
    Triple pre routine ⟨post.done, post.failed, post.exited, fun _ ↦ False⟩ := by
  intro m hm
  have hend := h m hm
  have hne := hnever m hm
  generalize routine m = result at hend hne ⊢
  obtain ⟨value | error | status | _, m'⟩ := result
  · exact hend
  · exact hend
  · exact hend
  · exact absurd rfl hne

section

variable {failed : Error → Machine → Prop} {exited stalled : Machine → Prop}

/-- A routine that is done or fails may be allowed to end in other ways. -/
theorem Triple.of_failed {done : α → Machine → Prop} (h : Triple pre routine { done, failed }) :
    Triple pre routine ⟨done, failed, exited, stalled⟩ := by
  refine h.weaken ?_
  rintro (value | error | status | _) m hm
  · exact hm
  · exact hm
  · exact hm.elim
  · exact hm.elim

/-- A routine that is done or ends the process may be allowed to end in other ways. -/
theorem Triple.of_exited {done : α → Machine → Prop} (h : Triple pre routine { done, exited }) :
    Triple pre routine ⟨done, failed, exited, stalled⟩ :=
  h.imp (fun _ _ hm ↦ hm) fun _ hm ↦ hm

end

/-! ### Control -/

theorem triple_pure {value : α} (h : ∀ m, pre m → post.done value m) :
    Triple pre (Pure.pure value) post := h

theorem triple_fail {error : Error} (h : ∀ m, pre m → post.failed error m) :
    Triple pre (fail error) post := h

theorem triple_finish {status : Nat} (h : ∀ m, pre m → post.exited m) :
    Triple pre (finish status) post := h

theorem triple_stall (h : ∀ m, pre m → post.stalled m) : Triple pre stall post := h

/-- One routine after another. -/
theorem Triple.bind {post : Post β} (mid : α → Machine → Prop)
    (h : Triple pre routine (post.upTo mid))
    (hnext : ∀ value, Triple (mid value) (next value) post) :
    Triple pre (routine >>= next) post := by
  intro m hm
  have hfirst := h m hm
  rcases hr : routine m with ⟨outcome, m'⟩
  rw [hr] at hfirst
  cases outcome with
  | done value =>
    rw [bind_of_done hr]
    exact hnext value m' hfirst
  | failed error =>
    rw [bind_of_failed hr]
    exact hfirst
  | exited status =>
    rw [bind_of_exited hr]
    exact hfirst
  | stalled =>
    rw [bind_of_stalled hr]
    exact hfirst

/-- One routine after another that is always done. -/
theorem Triple.andThen {post : Post β} (mid : α → Machine → Prop)
    (h : Triple pre routine { done := mid })
    (hnext : ∀ value, Triple (mid value) (next value) post) :
    Triple pre (routine >>= next) post :=
  Triple.bind mid (h.of_done fun _ _ hm ↦ hm) hnext

/-- A failure that is caught is a result like any other. -/
theorem Triple.attempt {post : Post (Except Error α)}
    (h : Triple pre routine post.attempting) : Triple pre (attempt routine) post := by
  intro m hm
  have hroutine := h m hm
  unfold Routine.attempt
  rcases hr : routine m with ⟨outcome, m'⟩
  rw [hr] at hroutine
  cases outcome <;> exact hroutine

theorem triple_ofExcept {result : Except Error α}
    (hok : ∀ value m, result = .ok value → pre m → post.done value m)
    (herror : ∀ error m, result = .error error → pre m → post.failed error m) :
    Triple pre (ofExcept result) post := by
  cases result with
  | ok value => exact fun m hm ↦ hok value m rfl hm
  | error error => exact fun m hm ↦ herror error m rfl hm

/-- Work under a condition is done, or nothing is. -/
theorem triple_given {condition : Bool} {routine : Routine Unit} {post : Post Unit}
    (htrue : condition = true → Triple pre routine post)
    (hfalse : condition = false → ∀ m, pre m → post.done () m) :
    Triple pre (given condition routine) post := by
  cases condition with
  | true => exact htrue rfl
  | false => exact hfalse rfl

/-- Doing something for each element of a list keeps what doing it for each element keeps. -/
theorem triple_forM {ι : Type} {xs : List ι} {f : ι → Routine Unit}
    {failed : Error → Machine → Prop} {exited stalled : Machine → Prop}
    (h : ∀ x ∈ xs, Triple pre (f x) ⟨fun _ ↦ pre, failed, exited, stalled⟩) :
    Triple pre (xs.forM f) ⟨fun _ ↦ pre, failed, exited, stalled⟩ := by
  induction xs with
  | nil => exact triple_pure fun _ hm ↦ hm
  | cons x xs ih =>
    show Triple _ (f x >>= fun _ ↦ xs.forM f) _
    refine Triple.bind (fun _ ↦ pre) ?_ ?_
    · exact h x List.mem_cons_self
    · exact fun _ ↦ ih fun y hy ↦ h y (List.mem_cons_of_mem x hy)

/-! ### The machine -/

/-- What follows a look at the state may use that the state is the one that was seen. -/
theorem triple_state {post : Post β} {next : State → Routine β}
    (h : ∀ s, Triple (fun m ↦ pre m ∧ m.state = s) (next s) post) :
    Triple pre (state >>= next) post := fun m hm ↦ h m.state m ⟨hm, rfl⟩

/-- What follows a look at the machine may use that the machine is the one that was seen. -/
theorem triple_machine {post : Post β} {next : Machine → Routine β}
    (h : ∀ m, Triple (fun m' ↦ pre m' ∧ m' = m) (next m) post) :
    Triple pre (machine >>= next) post := fun m hm ↦ h m m ⟨hm, rfl⟩

end Routine

namespace Machine

variable (m : Machine)

/-- The machine after an event was recorded. -/
def recording (event : Event) : Machine := { m with trace := ⟨event, m.state⟩ :: m.trace }

/-- The machine with another job table, after the change was recorded. -/
def changingJobs (change : JobChange) (table : JobTable) : Machine :=
  { m with state := { m.state with jobs := table } }.recording (.jobs change)

@[simp] theorem state_recording (event : Event) : (m.recording event).state = m.state := rfl

end Machine

/-- An event that comes with no change of state and answers nothing: output, a log record, or a
call whose answer the shell at most logs. -/
def Event.isQuiet : Event → Bool
  | out _ | err _ | log _ => true
  | call ⟨.installHandler _, _⟩ | call ⟨.resetHandler _, _⟩ | call ⟨.setProcessGroup _ _, _⟩
  | call ⟨.execute _, _⟩ | call ⟨.leave _, _⟩ => true
  | _ => false

/-- The predicate is about what happened and about the state. Of the script it looks at nothing but
what is to happen while the shell sleeps, and quiet events do not touch it. -/
structure Steady (pre : Machine → Prop) : Prop where
  /-- The script may go on while the shell is awake. -/
  script : ∀ (m : Machine) (script : Script), script.batches = m.script.batches → pre m →
    pre { m with script }
  /-- Quiet events may be recorded. -/
  quiet : ∀ (m : Machine) (event : Event), event.isQuiet = true → pre m → pre (m.recording event)

/-- Of two steady predicates, both together are steady. -/
theorem Steady.and {pre pre' : Machine → Prop} (h : Steady pre) (h' : Steady pre') :
    Steady fun m ↦ pre m ∧ pre' m where
  script m script hbatches hm := ⟨h.script m script hbatches hm.1, h'.script m script hbatches hm.2⟩
  quiet m event hevent hm := ⟨h.quiet m event hevent hm.1, h'.quiet m event hevent hm.2⟩

/-- What is said about the state alone is steady. -/
theorem steady_state (p : State → Prop) : Steady fun m ↦ p m.state where
  script _ _ _ hm := hm
  quiet _ _ _ hm := hm

namespace Routine

variable {pre : Machine → Prop} {post : Post Unit}

theorem triple_record {event : Event} (h : ∀ m, pre m → post.done () (m.recording event)) :
    Triple pre (record event) post := h

/-- The table changes and the event is recorded in one step. -/
theorem triple_changeJobs {change : JobChange} {table : JobTable}
    (h : ∀ m, pre m → post.done () (m.changingJobs change table)) :
    Triple pre (changeJobs change table) post := h

/-- Recording a quiet event keeps a steady predicate. -/
theorem triple_quiet (h : Steady pre) {event : Event} (hevent : event.isQuiet = true) :
    Triple pre (record event) { done := fun _ ↦ pre } :=
  triple_record fun m hm ↦ h.quiet m event hevent hm

theorem triple_log (h : Steady pre) {level : Level} {component : Component} {text : String} :
    Triple pre (log level component text) { done := fun _ ↦ pre } := triple_quiet h rfl

theorem triple_print (h : Steady pre) {text : String} :
    Triple pre (print text) { done := fun _ ↦ pre } := triple_quiet h rfl

theorem triple_printLine (h : Steady pre) {text : String} :
    Triple pre (printLine text) { done := fun _ ↦ pre } := triple_quiet h rfl

theorem triple_printError (h : Steady pre) {text : String} :
    Triple pre (printError text) { done := fun _ ↦ pre } := triple_quiet h rfl

end Routine

end JobShell
