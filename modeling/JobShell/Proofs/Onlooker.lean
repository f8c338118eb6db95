import JobShell.Proofs.Paired.Comparison

/-!
# Runs that look alike

An onlooker sees some of the events of a run and overlooks the others. Two machines look alike to
an onlooker if they differ in nothing but events that are overlooked. For an onlooker who overlooks
the log this is a comparison of runs, so routines can be compared by what the onlooker sees of them.
-/

namespace JobShell

/-- Somebody who sees some of the events of a run, and all that is written. -/
structure Onlooker where
  /-- The event is seen. -/
  sees : Event → Bool
  /-- The standard output is seen. -/
  sees_out : ∀ text, sees (.out text) = true
  /-- The standard error is seen. -/
  sees_err : ∀ text, sees (.err text) = true

namespace Onlooker

variable (o : Onlooker)

/-- What the onlooker sees of a trace. -/
def sight (trace : Trace) : Trace := trace.filter fun moment ↦ o.sees moment.event

/-- Events of a kind that is seen are the same in traces of which the same is seen. -/
theorem filter_eq_of_sight {p : Event → Bool} (hp : ∀ event, p event = true → o.sees event = true)
    {trace trace' : Trace} (h : o.sight trace' = o.sight trace) :
    (trace'.map Moment.event).filter p = (trace.map Moment.event).filter p := by
  have hall : ∀ trace : Trace, (trace.map Moment.event).filter p =
      ((o.sight trace).map Moment.event).filter p := by
    intro trace
    rw [sight, List.filter_map, List.filter_map, List.filter_filter]
    congr 1
    refine List.filter_congr fun moment _ ↦ ?_
    cases hmoment : p moment.event with
    | false => simp [hmoment]
    | true => simp [hmoment, hp _ hmoment]
  rw [hall, h, ← hall]

/-- The machines have the given settings and differ in nothing but events that the onlooker
overlooks. -/
structure Alike (settings : Settings) (m m' : Machine) : Prop where
  settings : m.state.settings = settings
  state : m'.state = m.state
  plays : m'.playsChildren = m.playsChildren
  obstacle : m'.obstacle? = m.obstacle?
  script : m'.script = m.script
  exhausted : m'.exhausted = m.exhausted
  trace : o.sight m'.trace = o.sight m.trace
  past : o.sight m'.past = o.sight m.past

/-- Somebody who sees all but log records and the ends of drains. -/
def user : Onlooker where
  sees
    | .log _ | .drained => false
    | _ => true
  sees_out _ := rfl
  sees_err _ := rfl

namespace Alike

variable {o} {settings : Settings} {m m' m'' : Machine}

theorem refl (m : Machine) : o.Alike m.state.settings m m :=
  ⟨rfl, rfl, rfl, rfl, rfl, rfl, rfl, rfl⟩

/-- What an onlooker cannot tell apart, it cannot tell apart the other way round. -/
theorem symm (h : o.Alike settings m m') : o.Alike settings m' m where
  settings := by rw [h.state, h.settings]
  state := h.state.symm
  plays := h.plays.symm
  obstacle := h.obstacle.symm
  script := h.script.symm
  exhausted := h.exhausted.symm
  trace := h.trace.symm
  past := h.past.symm

theorem trans (h : o.Alike settings m m') (h' : o.Alike settings m' m'') :
    o.Alike settings m m'' where
  settings := h.settings
  state := h'.state.trans h.state
  plays := h'.plays.trans h.plays
  obstacle := h'.obstacle.trans h.obstacle
  script := h'.script.trans h.script
  exhausted := h'.exhausted.trans h.exhausted
  trace := h'.trace.trans h.trace
  past := h'.past.trans h.past

/-- The same event is seen of both machines, or of neither. -/
theorem recording (h : o.Alike settings m m') (event : Event) :
    o.Alike settings (m.recording event) (m'.recording event) := by
  refine ⟨h.settings, h.state, h.plays, h.obstacle, h.script, h.exhausted, ?_, h.past⟩
  show o.sight (⟨event, m'.state⟩ :: m'.trace) = o.sight (⟨event, m.state⟩ :: m.trace)
  have htrace := h.trace
  unfold sight at htrace ⊢
  rw [h.state, List.filter_cons, List.filter_cons, htrace]

/-- An event that is overlooked may happen to one of the machines alone. -/
theorem overlooking (h : o.Alike settings m m') {event : Event} (hevent : o.sees event = false) :
    o.Alike settings (m.recording event) m' := by
  refine ⟨h.settings, h.state, h.plays, h.obstacle, h.script, h.exhausted, ?_, h.past⟩
  show o.sight m'.trace = o.sight (⟨event, m.state⟩ :: m.trace)
  rw [h.trace]
  exact (List.filter_cons_of_neg (by simp [hevent])).symm

/-- The same state may be given to both machines, if its settings are the ones the onlooker knows.
-/
theorem withState (h : o.Alike settings m m') {s : State} (hs : s.settings = settings) :
    o.Alike settings (m.withState s) (m'.withState s) :=
  ⟨hs, rfl, h.plays, h.obstacle, h.script, h.exhausted, h.trace, h.past⟩

theorem withScript (h : o.Alike settings m m') (script : Script) :
    o.Alike settings { m with script } { m' with script } :=
  ⟨h.settings, h.state, h.plays, h.obstacle, rfl, h.exhausted, h.trace, h.past⟩

end Alike

/-- To somebody who overlooks the log, whatever is done to both machines leaves them alike. -/
instance {settings : Settings} : Thorough (user.Alike settings) where
  concurs h := ⟨by rw [h.state], by rw [h.state], h.plays, h.obstacle, h.script, h.exhausted⟩
  recording event h := h.recording event
  log_left _ h := h.overlooking rfl
  log_right _ h := (h.symm.overlooking rfl).symm
  aside wanted text _ h := by
    unfold Machine.aside
    rw [h.state]
    split
    · exact h.recording _
    · exact h
  withKernel f h := by
    unfold Machine.withKernel
    rw [h.state]
    exact h.withState h.settings
  withJobs _ h := by
    rw [h.state]
    exact h.withState h.settings
  noting _ h := by
    rw [h.state]
    exact h.withState h.settings
  withScript script h := h.withScript script
  exhausting h :=
    ⟨h.settings, h.state, h.plays, h.obstacle, h.script, rfl, h.trace, h.past⟩
  playing h _ := by
    refine ⟨⟨h.settings, h.state, h.plays, h.obstacle, h.script, h.exhausted, rfl, h.past⟩, ?_⟩
    intro n n' hlast
    refine user.filter_eq_of_sight (fun event hevent ↦ ?_) hlast.trace
    cases event with
    | out text => exact user.sees_out text
    | err text => exact user.sees_err text
    | _ => cases hevent
  noted h := by rw [h.state]
  takingNoted h := by
    unfold Machine.takingNoted
    rw [h.state]
    exact h.withState h.settings

end Onlooker

namespace Routine

variable {α : Type} {settings : Settings} {routine routine' routine'' : Routine α}

/-- Two runs that are each like a third are alike. -/
theorem Paired.trans {o : Onlooker} (h : Paired (o.Alike settings) routine routine')
    (h' : Paired (o.Alike settings) routine' routine'') :
    Paired (o.Alike settings) routine routine'' := by
  intro m m' hm
  obtain ⟨houtcome, halike⟩ := h m m (hm.trans hm.symm)
  obtain ⟨houtcome', halike'⟩ := h' m m' hm
  exact ⟨houtcome.trans houtcome', halike.trans halike'⟩

end Routine

end JobShell
