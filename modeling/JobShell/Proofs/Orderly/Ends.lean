import JobShell.Proofs.ReapOrder

/-!
# Orderly work

A routine adds to the trace and ends. Its work is orderly if the quit key is heeded all the time and
ends the process on the spot, if the mask is what it was before unless a mask could not be put back,
and if the routine fails, with an error that is not the user's, exactly when a call failed that the
shell cannot do without. The last of these presumes that the kernel hands out proper process ids and
that nothing was reported on the way, so it is part of the account only where a `strict` one is
asked for.
-/

namespace JobShell

/-! ### What a trace tells of failures -/

namespace Event

/-- What the event writes to the standard error, if it is about that. -/
def err? : Event → Option String
  | err text => some text
  | _ => none

/-- The child that a wait answered with. -/
def answered? : Event → Option Pid
  | call ⟨.wait, .number pid⟩ => if pid = 0 then none else some pid
  | _ => none

/-- The child whose status was learned. -/
def learned? : Event → Option Pid
  | learned status => some status.pid
  | _ => none

/-- A call failed that the shell cannot do without: blocking signals, a fork, or a wait while there
are children. -/
def isFatal : Event → Bool
  | call ⟨.changeMask .block _, .errno _⟩ | call ⟨.fork, .errno _⟩ => true
  | call ⟨.wait, .errno errno⟩ => decide (errno ≠ .echild)
  | _ => false

/-- A mask could not be put back. -/
def losesMask : Event → Bool
  | call ⟨.changeMask .replace _, .errno _⟩ => true
  | _ => false

/-- The event is nothing that an account of orderly work has to mention. -/
structure IsPlain (event : Event) : Prop where
  err : event.err? = none
  answered : event.answered? = none
  learned : event.learned? = none
  fatal : event.isFatal = false
  quit : event ≠ .happened (.raised .quit)

end Event

namespace Trace

/-- The texts written to the standard error, in order. -/
def complaints (trace : Trace) : List String := (events trace).filterMap Event.err?

/-- The children that waits answered with, in order. -/
def answered (trace : Trace) : List Pid := (events trace).filterMap Event.answered?

/-- The children whose status was learned, in order. -/
def learned (trace : Trace) : List Pid := (events trace).filterMap Event.learned?

/-- A call failed that the shell cannot do without. A status that cannot be read is a failure of the
wait that took it: the wait answered with the child and nothing was learned of it. -/
def Troubled (trace : Trace) : Prop :=
  (∃ moment ∈ trace, moment.event.isFatal = true) ∨ learned trace ≠ answered trace

/-- Some mask could not be put back. -/
def LosesMask (trace : Trace) : Prop := ∃ moment ∈ trace, moment.event.losesMask = true

instance (trace : Trace) : Decidable trace.LosesMask := List.decidableBEx ..

/-- A view of a trace shows what is older first. -/
theorem filterMap_events_append {α : Type} (f : Event → Option α) (later earlier : Trace) :
    (events (later ++ earlier)).filterMap f =
      (events earlier).filterMap f ++ (events later).filterMap f := by
  simp [events, List.filterMap_append]

/-- A view may show nothing of a moment. -/
theorem filterMap_events_singleton {α : Type} {f : Event → Option α} {moment : Moment}
    (h : f moment.event = none) : (events [moment]).filterMap f = [] := by
  simp [events, h]

/-- Or it shows one thing. -/
theorem filterMap_events_some {α : Type} {f : Event → Option α} {moment : Moment} {value : α}
    (h : f moment.event = some value) : (events [moment]).filterMap f = [value] := by
  simp [events, h]

theorem not_troubled_nil : ¬ Troubled [] := by
  rintro (⟨moment, hmem, -⟩ | hne)
  · exact absurd hmem List.not_mem_nil
  · exact hne rfl

/-- Plain events are no trouble. -/
theorem not_troubled_singleton {moment : Moment} (h : moment.event.IsPlain) :
    ¬ Troubled [moment] := by
  rintro (⟨other, hmem, hfatal⟩ | hne)
  · rw [List.mem_singleton.1 hmem, h.fatal] at hfatal
    cases hfatal
  · refine hne ?_
    rw [learned, answered, filterMap_events_singleton h.learned,
      filterMap_events_singleton h.answered]

/-- A single call that the shell cannot do without is enough. -/
theorem troubled_of_fatal {moment : Moment} {trace : Trace} (hmem : moment ∈ trace)
    (h : moment.event.isFatal = true) : Troubled trace := Or.inl ⟨moment, hmem, h⟩

/-- Of two stretches, either may bring the fatal call, and they may differ in what they learned of
the children. -/
theorem troubled_append_iff {later earlier : Trace} : Troubled (later ++ earlier) ↔
    ((∃ moment ∈ later, moment.event.isFatal = true) ∨
        ∃ moment ∈ earlier, moment.event.isFatal = true) ∨
      learned earlier ++ learned later ≠ answered earlier ++ answered later := by
  unfold Troubled
  rw [learned, answered, filterMap_events_append, filterMap_events_append]
  simp only [List.mem_append, or_and_right, exists_or]
  rfl

/-- After a stretch without trouble, there is trouble if there is any later. -/
theorem troubled_append_iff_left {later earlier : Trace} (h : ¬ Troubled earlier) :
    Troubled (later ++ earlier) ↔ Troubled later := by
  obtain ⟨hfatal, hsame⟩ := not_or.1 h
  rw [troubled_append_iff, or_iff_left hfatal, not_not.1 hsame, Ne, List.append_right_inj]
  rfl

/-- Before a stretch without trouble, there is trouble if there was any earlier. -/
theorem troubled_append_iff_right {later earlier : Trace} (h : ¬ Troubled later) :
    Troubled (later ++ earlier) ↔ Troubled earlier := by
  obtain ⟨hfatal, hsame⟩ := not_or.1 h
  rw [troubled_append_iff, or_iff_right hfatal, not_not.1 hsame, Ne, List.append_left_inj]
  rfl

end Trace

/-! ### What a stretch of work adds -/

/-- A machine on which work can be orderly: children are up to the script, and the quit key is
neither blocked nor pending. A strict account also needs a proper process id for the next child. -/
structure Machine.Fit (strict : Prop) (m : Machine) : Prop where
  plays : m.playsChildren = false
  heeds : m.state.kernel.mask.contains .quit = false
  quit : m.state.kernel.pending.contains .quit = false
  positive : strict → 1 ≤ m.state.kernel.nextPid

/-- Work led from `m₀` to `m` and added `news` to the trace. The quit key was never blocked and was
not typed. -/
structure Adds (strict : Prop) (m₀ : Machine) (news : Trace) (m : Machine) : Prop where
  fit : m.Fit strict
  trace : m.trace = news ++ m₀.trace
  past : m.past = m₀.past
  heeds : ∀ moment ∈ news, moment.state.kernel.mask.contains .quit = false
  quit : ∀ moment ∈ news, moment.event ≠ .happened (.raised .quit)
  silent : strict → news.complaints = []

/-- Work that leaves the mask as it was, unless a mask was lost, and that met with trouble exactly
if `trouble` holds. -/
structure Balances (strict trouble : Prop) (m₀ : Machine) (news : Trace) (m : Machine) : Prop
    extends Adds strict m₀ news m where
  mask : ¬ news.LosesMask → m.state.kernel.mask = m₀.state.kernel.mask
  trouble : strict → (news.Troubled ↔ trouble)

variable {α β : Type} {strict trouble : Prop} {m₀ m m' m'' : Machine} {news news' : Trace}

/-- No work adds nothing. -/
theorem Adds.refl (h : m.Fit strict) : Adds strict m [] m where
  fit := h
  trace := rfl
  past := rfl
  heeds := by simp
  quit := by simp
  silent _ := rfl

/-- An event. -/
theorem Adds.recording (h : m.Fit strict) {event : Event} (herr : strict → event.err? = none)
    (hquit : event ≠ .happened (.raised .quit)) :
    Adds strict m [⟨event, m.state⟩] (m.recording event) where
  fit := ⟨h.plays, h.heeds, h.quit, h.positive⟩
  trace := rfl
  past := rfl
  heeds moment hmem := by
    rw [List.mem_singleton.1 hmem]
    exact h.heeds
  quit moment hmem := by
    rw [List.mem_singleton.1 hmem]
    exact hquit
  silent hstrict := Trace.filterMap_events_singleton (herr hstrict)

/-- What one piece of work adds is followed by what the next one adds. -/
theorem Adds.trans (h : Adds strict m₀ news m) (h' : Adds strict m news' m') :
    Adds strict m₀ (news' ++ news) m' where
  fit := h'.fit
  trace := by rw [h'.trace, h.trace, List.append_assoc]
  past := h'.past.trans h.past
  heeds moment hmem := (List.mem_append.1 hmem).elim (h'.heeds moment) (h.heeds moment)
  quit moment hmem := (List.mem_append.1 hmem).elim (h'.quit moment) (h.quit moment)
  silent hstrict := by
    rw [Trace.complaints, Trace.filterMap_events_append]
    change Trace.complaints news ++ Trace.complaints news' = []
    rw [h.silent hstrict, h'.silent hstrict]
    rfl

namespace Balances

theorem refl (h : m.Fit strict) : Balances strict False m [] m where
  toAdds := .refl h
  mask _ := rfl
  trouble _ := iff_of_false Trace.not_troubled_nil not_false

/-- Neither of two stretches of work lost a mask that together lost none. -/
private theorem mask_trans (h : ¬ news.LosesMask → m.state.kernel.mask = m₀.state.kernel.mask)
    (h' : ¬ news'.LosesMask → m'.state.kernel.mask = m.state.kernel.mask)
    (hkept : ¬ Trace.LosesMask (news' ++ news)) :
    m'.state.kernel.mask = m₀.state.kernel.mask := by
  have hearlier : ¬ news.LosesMask := fun ⟨moment, hmem, hmoment⟩ ↦
    hkept ⟨moment, List.mem_append_right _ hmem, hmoment⟩
  have hlater : ¬ news'.LosesMask := fun ⟨moment, hmem, hmoment⟩ ↦
    hkept ⟨moment, List.mem_append_left _ hmem, hmoment⟩
  rw [h' hlater, h hearlier]

/-- Trouble comes at the end of some work. -/
theorem trans (h : Balances strict False m₀ news m) (h' : Balances strict trouble m news' m') :
    Balances strict trouble m₀ (news' ++ news) m' where
  toAdds := h.toAdds.trans h'.toAdds
  mask := mask_trans h.mask h'.mask
  trouble hstrict :=
    (Trace.troubled_append_iff_left (h.trouble hstrict).1).trans (h'.trouble hstrict)

/-- What is done after some work without new trouble adds nothing to its trouble. -/
theorem followedBy (h : Balances strict trouble m₀ news m)
    (h' : Balances strict False m news' m') :
    Balances strict trouble m₀ (news' ++ news) m' where
  toAdds := h.toAdds.trans h'.toAdds
  mask := mask_trans h.mask h'.mask
  trouble hstrict :=
    (Trace.troubled_append_iff_right (h'.trouble hstrict).1).trans (h.trouble hstrict)

/-- A change of the machine that nothing tells of. -/
theorem ofState (h : m.Fit strict) (htrace : m'.trace = m.trace) (hpast : m'.past = m.past)
    (hplays : m'.playsChildren = m.playsChildren)
    (hmask : m'.state.kernel.mask = m.state.kernel.mask)
    (hquit : m'.state.kernel.pending.contains .quit = false)
    (hnext : m.state.kernel.nextPid ≤ m'.state.kernel.nextPid) :
    Balances strict False m [] m' where
  fit := ⟨hplays.trans h.plays, by rw [hmask, h.heeds], hquit,
    fun hstrict ↦ Int.le_trans (h.positive hstrict) hnext⟩
  trace := htrace
  past := hpast
  heeds := by simp
  quit := by simp
  silent _ := rfl
  mask _ := hmask
  trouble _ := iff_of_false Trace.not_troubled_nil not_false

/-- A plain event. -/
theorem recording (h : m.Fit strict) {event : Event} (hevent : event.IsPlain) :
    Balances strict False m [⟨event, m.state⟩] (m.recording event) where
  toAdds := .recording h (fun _ ↦ hevent.err) hevent.quit
  mask _ := rfl
  trouble _ := iff_of_false (Trace.not_troubled_singleton hevent) not_false

/-- A call that is trouble. -/
theorem recordingFatal (h : m.Fit strict) (ht : trouble) {call : Call}
    (hfatal : (Event.call call).isFatal = true) :
    Balances strict trouble m [⟨.call call, m.state⟩] (m.recording (.call call)) where
  toAdds := .recording h (fun _ ↦ rfl) nofun
  mask _ := rfl
  trouble _ := iff_of_true (Trace.troubled_of_fatal (List.mem_singleton.2 rfl) hfatal) ht

/-- Work between a change of the mask and the change back. -/
theorem restored {m₁ m₂ : Machine} {before after : Trace} (hbefore : Adds strict m₀ before m₁)
    (hcalm : ¬ before.Troubled) (h : Balances strict trouble m₁ news m₂)
    (hafter : Adds strict m₂ after m) (hcalm' : strict → ¬ after.Troubled)
    (hmask : ¬ after.LosesMask → m.state.kernel.mask = m₀.state.kernel.mask) :
    Balances strict trouble m₀ (after ++ (news ++ before)) m where
  toAdds := (hbefore.trans h.toAdds).trans hafter
  mask hkept := hmask fun ⟨moment, hmem, hmoment⟩ ↦
    hkept ⟨moment, List.mem_append_left _ hmem, hmoment⟩
  trouble hstrict :=
    (Trace.troubled_append_iff_right (hcalm' hstrict)).trans
      ((Trace.troubled_append_iff_left hcalm).trans (h.trouble hstrict))

end Balances

/-! ### Ends -/

/-- The outcome of an attempt at a routine that has this one. -/
def Outcome.caught : Outcome α → Outcome (Except Error α)
  | .done value => .done (.ok value)
  | .failed error => .done (.error error)
  | .exited status => .exited status
  | .stalled => .stalled

/-- How orderly work that began with `m₀` may end. -/
inductive Ends (strict : Prop) (m₀ : Machine) : Outcome α → Machine → Prop
  | done {value : α} {news : Trace} {m : Machine} (h : Balances strict False m₀ news m) :
    Ends strict m₀ (.done value) m
  | failed {error : Error} {news : Trace} {m : Machine}
    (h : Balances strict (error.recoverable = false) m₀ news m) : Ends strict m₀ (.failed error) m
  | exited {status : Nat} {news : Trace} {m : Machine} (h : Adds strict m₀ news m) :
    Ends strict m₀ (.exited status) m
  | stalled {news : Trace} {m : Machine} (h : Adds strict m₀ news m) : Ends strict m₀ .stalled m
  /-- The quit key was typed. -/
  | quit {news : Trace} {m : Machine} (h : Adds strict m₀ news m) :
    Ends strict m₀ (.exited 1) m.quitting

/-- It is enough to know how the work ends and where it leads. -/
theorem Ends.of_eq {result : Outcome α × Machine} {outcome : Outcome α}
    (h : result = (outcome, m)) (hends : Ends strict m₀ outcome m) :
    Ends strict m₀ result.1 result.2 := by
  rw [h]
  exact hends

/-- What orderly work without trouble leads to may come before other orderly work. -/
theorem Ends.after {outcome : Outcome α} (h' : Ends strict m outcome m')
    (h : Balances strict False m₀ news m) : Ends strict m₀ outcome m' := by
  cases h' with
  | done h' => exact .done (h.trans h')
  | failed h' => exact .failed (h.trans h')
  | exited h' => exact .exited (h.toAdds.trans h')
  | stalled h' => exact .stalled (h.toAdds.trans h')
  | quit h' => exact .quit (h.toAdds.trans h')

namespace Routine

/-- The routine's work is orderly. -/
def Orderly (strict : Prop) (routine : Routine α) : Prop :=
  ∀ m, m.Fit strict → Ends strict m (routine m).1 (routine m).2

/-- The routine is always done, without trouble. -/
def Harmless (strict : Prop) (routine : Routine α) : Prop :=
  ∀ m, m.Fit strict → ∃ value news m',
    routine m = (.done value, m') ∧ Balances strict False m news m'

/-- The routine hands on an error, without new trouble. -/
def HandsOn (strict : Prop) (error : Error) (routine : Routine α) : Prop :=
  ∀ m, m.Fit strict → ∃ news m',
    routine m = (.failed error, m') ∧ Balances strict False m news m'

variable {routine : Routine α} {next : α → Routine β} {error : Error} {condition : Bool}

/-! ### Control -/

/-- An attempt ends as its work does, but for a failure. -/
theorem attempt_apply {m m' : Machine} {outcome : Outcome α} (h : routine m = (outcome, m')) :
    attempt routine m = (outcome.caught, m') := by
  unfold Routine.attempt
  rw [h]
  cases outcome <;> rfl

/-- What is always done without trouble is orderly. -/
theorem Harmless.orderly (h : Harmless strict routine) : Orderly strict routine := by
  intro m hm
  obtain ⟨value, news, m', heq, hbalances⟩ := h m hm
  exact .of_eq heq (.done hbalances)

/-- Nothing is done. -/
theorem orderly_pure (value : α) : Orderly strict (Pure.pure value : Routine α) :=
  fun _ hm ↦ .done (.refl hm)

/-- Only the user's errors come without trouble. -/
theorem orderly_fail (h : strict → error.recoverable = true) :
    Orderly strict (fail error : Routine α) := by
  intro m hm
  have hrefl := Balances.refl hm
  refine .failed { toAdds := hrefl.toAdds, mask := hrefl.mask, trouble := fun hstrict ↦ ?_ }
  exact (hrefl.trouble hstrict).trans (iff_of_false not_false (by rw [h hstrict]; decide))

/-- A process may end of itself whenever it wants. -/
theorem orderly_finish (status : Nat) : Orderly strict (finish status : Routine α) :=
  fun _ hm ↦ .exited (.refl hm)

theorem orderly_stall : Orderly strict (stall : Routine α) := fun _ hm ↦ .stalled (.refl hm)

/-- One piece of work after another. Trouble ends the first, so it is not there when the second
begins. -/
theorem Orderly.bind (h : Orderly strict routine) (hnext : ∀ value, Orderly strict (next value)) :
    Orderly strict (routine >>= next) := by
  intro m hm
  have hfirst := h m hm
  rcases hr : routine m with ⟨outcome, m'⟩
  rw [hr] at hfirst
  cases hfirst with
  | @done value _ _ hfirst =>
    rw [bind_of_done hr]
    exact (hnext value m' hfirst.fit).after hfirst
  | failed hfirst => exact .of_eq (bind_of_failed hr) (.failed hfirst)
  | exited hfirst => exact .of_eq (bind_of_exited hr) (.exited hfirst)
  | stalled hfirst => exact .of_eq (bind_of_stalled hr) (.stalled hfirst)
  | quit hfirst => exact .of_eq (bind_of_exited hr) (.quit hfirst)

/-- And one that is no trouble after another. -/
theorem Harmless.bind (h : Harmless strict routine)
    (hnext : ∀ value, Harmless strict (next value)) :
    Harmless strict (routine >>= next) := by
  intro m hm
  obtain ⟨value, news, m', heq, hbalances⟩ := h m hm
  obtain ⟨value', news', m'', heq', hbalances'⟩ := hnext value m' hbalances.fit
  exact ⟨value', _, m'', by rw [bind_of_done heq, heq'], hbalances.trans hbalances'⟩

theorem handsOn_fail : HandsOn strict error (fail error : Routine α) :=
  fun m hm ↦ ⟨[], m, rfl, .refl hm⟩

/-- Before an error is handed on, something may be done that is no trouble. -/
theorem Harmless.handsOn (h : Harmless strict routine)
    (hnext : ∀ value, HandsOn strict error (next value)) :
    HandsOn strict error (routine >>= next) := by
  intro m hm
  obtain ⟨value, news, m', heq, hbalances⟩ := h m hm
  obtain ⟨news', m'', heq', hbalances'⟩ := hnext value m' hbalances.fit
  exact ⟨_, m'', by rw [bind_of_done heq, heq'], hbalances.trans hbalances'⟩

/-- A failure may be caught to be handed on. -/
theorem Orderly.attempt_bind {next : Except Error α → Routine β} (h : Orderly strict routine)
    (hok : ∀ value, Orderly strict (next (.ok value)))
    (herror : ∀ error, HandsOn strict error (next (.error error))) :
    Orderly strict (attempt routine >>= next) := by
  intro m hm
  have hfirst := h m hm
  rcases hr : routine m with ⟨outcome, m'⟩
  rw [hr] at hfirst
  have hattempt := attempt_apply hr
  cases hfirst with
  | @done value _ _ hfirst =>
    rw [bind_of_done hattempt]
    exact (hok value m' hfirst.fit).after hfirst
  | @failed error _ _ hfirst =>
    obtain ⟨news, m'', heq, hbalances⟩ := herror error m' hfirst.fit
    exact .of_eq ((bind_of_done hattempt).trans heq) (.failed (hfirst.followedBy hbalances))
  | exited hfirst => exact .of_eq (bind_of_exited hattempt) (.exited hfirst)
  | stalled hfirst => exact .of_eq (bind_of_stalled hattempt) (.stalled hfirst)
  | quit hfirst => exact .of_eq (bind_of_exited hattempt) (.quit hfirst)

/-- Without a strict account a failure may simply be caught. -/
theorem Orderly.attempt (h : Orderly strict routine) (hloose : ¬ strict) :
    Orderly strict (attempt routine) := by
  intro m hm
  have hroutine := h m hm
  rcases hr : routine m with ⟨outcome, m'⟩
  rw [hr] at hroutine
  rw [attempt_apply hr]
  cases hroutine with
  | done h => exact .done h
  | failed h =>
    refine .done { toAdds := h.toAdds, mask := h.mask, trouble := ?_ }
    exact fun hstrict ↦ absurd hstrict hloose
  | exited h => exact .exited h
  | stalled h => exact .stalled h
  | quit h => exact .quit h

/-- A result that was found before may be an error of the user's. -/
theorem orderly_ofExcept {result : Except Error α}
    (h : ∀ error, strict → result = .error error → error.recoverable = true) :
    Orderly strict (ofExcept result) := by
  cases result with
  | ok value => exact orderly_pure value
  | error error => exact orderly_fail fun hstrict ↦ h error hstrict rfl

/-- What is done only on a condition. -/
theorem Orderly.given {routine : Routine Unit} (h : Orderly strict routine) (condition : Bool) :
    Orderly strict (given condition routine) := by
  cases condition with
  | true => exact h
  | false => exact orderly_pure ()

theorem orderly_forM {ι : Type} {f : ι → Routine Unit} (h : ∀ x, Orderly strict (f x)) :
    ∀ xs : List ι, Orderly strict (xs.forM f)
  | [] => orderly_pure ()
  | x :: xs => (h x).bind fun _ ↦ orderly_forM h xs

/-! ### The machine -/

/-- What follows a look at the state may use that the state is the one that was seen, but here it
need not. -/
theorem orderly_state {next : State → Routine β} (h : ∀ s, Orderly strict (next s)) :
    Orderly strict (state >>= next) := fun m hm ↦ h m.state m hm

theorem harmless_state {next : State → Routine β} (h : ∀ s, Harmless strict (next s)) :
    Harmless strict (state >>= next) := fun m hm ↦ h m.state m hm

/-- To look at the machine is no work, and children are not played. -/
theorem orderly_machine {next : Machine → Routine β}
    (h : ∀ m, m.playsChildren = false → Orderly strict (next m)) :
    Orderly strict (machine >>= next) := fun m hm ↦ h m hm.plays m hm

/-- Recording a plain event. -/
theorem harmless_record {event : Event} (h : event.IsPlain) : Harmless strict (record event) :=
  fun m hm ↦ ⟨(), _, m.recording event, rfl, .recording hm h⟩

theorem harmless_log (level : Level) (component : Component) (text : String) :
    Harmless strict (log level component text) := harmless_record ⟨rfl, rfl, rfl, rfl, nofun⟩

theorem harmless_print (text : String) : Harmless strict (print text) :=
  harmless_record ⟨rfl, rfl, rfl, rfl, nofun⟩

theorem harmless_printLine (text : String) : Harmless strict (printLine text) := harmless_print _

/-- Without a strict account anything may be reported. -/
theorem harmless_printError (hloose : ¬ strict) (text : String) :
    Harmless strict (printError text) := by
  intro m hm
  have hadds : Adds strict m _ (m.recording (.err (text ++ "\n"))) :=
    .recording hm (fun hstrict ↦ absurd hstrict hloose) nofun
  exact ⟨(), _, _, rfl, hadds, fun _ ↦ rfl, fun hstrict ↦ absurd hstrict hloose⟩

/-- A change of the state that leaves the kernel's side alone. -/
theorem harmless_modifyState {f : State → State} (h : ∀ s, (f s).kernel = s.kernel) :
    Harmless strict (modifyState f) := by
  intro m hm
  refine ⟨(), [], m.withState (f m.state), rfl, .ofState hm rfl rfl rfl ?_ ?_ (Int.le_of_eq ?_)⟩
  · rw [Machine.state_withState, h]
  · rw [Machine.state_withState, h, hm.quit]
  · rw [Machine.state_withState, h]

/-- What is already there is no trouble to get. -/
theorem harmless_pure (value : α) : Harmless strict (Pure.pure value : Routine α) :=
  fun m hm ↦ ⟨value, [], m, rfl, .refl hm⟩

/-- The job table is none of the kernel's concern. -/
theorem harmless_changeJobs (change : JobChange) (table : JobTable) :
    Harmless strict (changeJobs change table) :=
  (harmless_modifyState (by exact fun _ ↦ rfl)).bind fun _ ↦
    harmless_record ⟨rfl, rfl, rfl, rfl, nofun⟩

end Routine

end JobShell
