import JobShell.Proofs.Wakeup

/-!
# Runs that leave no signal masked

If every mask is put back, then no step leaves a signal masked, and a drain begins when every signal
was delivered: between lines because none is masked, and in a wait because none was pending when the
wait began and the sleep lets all of them through.
-/

namespace JobShell

/-- Nothing that happened at the moment keeps the table from agreeing with the kernel: no wait fails
because of it, it is about a process that was forked before, and it is no failure to put a mask
back. -/
def Moment.isFaithful (moment : Moment) : Bool :=
  match moment.event with
  | .happened (.child pid change) =>
    (Occurrence.child pid change).isTold && moment.state.kernel.forked.contains pid
  | .happened what => what.isTold
  | .call ⟨.changeMask .replace _, .errno _⟩ => false
  | _ => true

/-- Where nothing is kept from the shell, what could end a wait is told to it. -/
theorem isTold_of_isFaithful {moment : Moment} (h : moment.isFaithful = true) :
    moment.isTold = true := by
  obtain ⟨event, s⟩ := moment
  cases event with
  | happened what =>
    cases what with
    | child pid change => exact (Bool.and_eq_true_iff.1 h).1
    | _ => exact h
  | _ => rfl

/-- The phases in which no signal is pending if none was masked before. -/
def Phase.IsAwake : Phase → Prop
  | reaping _ | taken _ _ | learning _ _ | relaying _ | waiting _ _ | drained _ _ => True
  | _ => False

/-- No step has left a signal masked. -/
structure Unmasked (p : Phase) (s : State) : Prop where
  /-- The mask to be put back is empty. -/
  saved : ∀ previous, p.saved? = some previous → previous = .empty
  /-- If there is no mask to be put back, then nothing is masked. -/
  unmasked : p.saved? = none → s.kernel.mask = .empty
  /-- A drain begins when all signals were delivered. -/
  delivered : p.IsAwake → s.kernel.pending = .empty

namespace Unmasked

variable {p p' : Phase} {s : State} {m m' : Machine}

/-- A turn to a new phase keeps the mask to be put back or has none to be put back. -/
theorem turn (h : Unmasked p s) (hturn : Turn p s p') : Unmasked p' s := by
  cases hturn with
  | stop => exact ⟨h.saved, h.unmasked, h.delivered⟩
  | unreadable site =>
    cases site with
    | prompt => exact ⟨nofun, h.unmasked, nofun⟩
    | wait => exact ⟨h.saved, nofun, nofun⟩
  | unchanged => exact ⟨h.saved, h.unmasked, h.delivered⟩
  | _ => exact ⟨h.saved, h.unmasked, nofun⟩

theorem record {event : Event} (h : Unmasked p s) (hremark : Remark p s event p')
    (hfaithful : (⟨event, s⟩ : Moment).isFaithful = true) : Unmasked p' s := by
  cases hremark with
  | quiet => exact h
  | waitEmpty => exact ⟨h.saved, h.unmasked, h.delivered⟩
  | learn => exact ⟨h.saved, h.unmasked, h.delivered⟩
  | relay => exact h
  | drained site =>
    cases site with
    | prompt => exact ⟨nofun, h.unmasked, nofun⟩
    | wait => exact ⟨h.saved, nofun, h.delivered⟩
  | unrestored => cases hfaithful
  | _ => exact ⟨h.saved, h.unmasked, nofun⟩

/-- The table is none of this. -/
theorem changeJobs {change : JobChange} {table : JobTable} (h : Unmasked p s)
    (hrewrite : Rewrite p s change table p') : Unmasked p' { s with jobs := table } := by
  cases hrewrite with
  | learned => exact ⟨h.saved, h.unmasked, h.delivered⟩
  | _ => exact ⟨h.saved, h.unmasked, nofun⟩

/-- What happens outside touches no mask. -/
theorem of_mask_eq {s' : State} (h : Unmasked p s) (hp : p.IsOpen)
    (hmask : s'.kernel.mask = s.kernel.mask) : Unmasked p s' := by
  refine ⟨h.saved, fun hsaved ↦ hmask.trans (h.unmasked hsaved), fun hawake ↦ ?_⟩
  cases p with
  | ready => exact hawake.elim
  | forked => exact hawake.elim
  | asleep => exact hawake.elim
  | _ => exact hp.elim

/-- A drain begins with the masks as they were, and by then nothing is pending. -/
theorem takeNoted {site : Site} (h : Unmasked site.before m.state) (hsound : m.state.Sound) :
    Unmasked (if m.state.noted.childStatus then .reaping site else .relaying site)
      m.takingNoted.state := by
  have hpending : m.state.kernel.pending = .empty := by
    cases site with
    | prompt => exact hsound.pending_eq_empty (h.unmasked rfl)
    | wait => exact h.delivered trivial
  have hsaved : site.before.saved? = site.saved? := by cases site <;> rfl
  have hunmasked : site.saved? = none → m.state.kernel.mask = .empty :=
    fun hnone ↦ h.unmasked (hsaved.trans hnone)
  have hempty : ∀ previous, site.saved? = some previous → previous = .empty :=
    fun previous hsome ↦ h.saved previous (hsaved.trans hsome)
  split
  · exact ⟨hempty, hunmasked, fun _ ↦ hpending⟩
  · exact ⟨hempty, hunmasked, fun _ ↦ hpending⟩

/-- A change of the mask has the old one put back later, or puts it back. -/
theorem remask {how : MaskChange} {signals : SignalSet} (h : Unmasked p m.state)
    (hsound : m.state.Sound) (hremask : Remask p m.state.kernel.mask how signals p') :
    Unmasked p' (m.remasking how signals).state := by
  obtain ⟨pending, noted, heq, hpending, -⟩ := m.exists_remasking how signals
  rw [heq]
  cases hremask with
  | launch mask =>
    refine ⟨fun previous hsome ↦ ?_, nofun, nofun⟩
    rw [← Option.some.inj hsome]
    exact h.unmasked rfl
  | wait mask pid =>
    have hmask := h.unmasked rfl
    refine ⟨fun previous hsome ↦ ?_, nofun, fun _ ↦ ?_⟩
    · rw [← Option.some.inj hsome]
      exact hmask
    -- Nothing was masked before the wait, so nothing is pending when its first drain begins.
    · refine SignalSet.ext_contains fun signal ↦ ?_
      show pending.contains signal = _
      rw [hpending, hsound.pending_eq_empty hmask, SignalSet.contains_empty, Bool.false_and]
  | restore mask previous upshot =>
    exact ⟨nofun, fun _ ↦ h.saved _ rfl, nofun⟩

/-- The sleep lets every signal through. -/
theorem wake {previous : SignalSet} {pid : Pid} (h : Unmasked (.asleep previous pid) m.state) :
    Unmasked (.waiting previous pid) (m.delivering (Shell.sleepMask previous)).state := by
  obtain rfl := h.saved previous rfl
  obtain ⟨pending, noted, heq, hpending, -⟩ := m.state.exists_delivering (Shell.sleepMask .empty)
  show Unmasked _ (m.state.delivering _)
  rw [heq]
  refine ⟨h.saved, nofun, fun _ ↦ SignalSet.ext_contains fun signal ↦ ?_⟩
  show pending.contains signal = _
  rw [hpending, Shell.sleepMask, SignalSet.contains_diff, SignalSet.contains_empty,
    Bool.false_and, Bool.and_false]

/-- Every move that puts back each mask leaves none behind. -/
theorem move (h : Unmasked p m.state) (hsound : Sound p m) (hmove : Move p m p' m')
    (hfaithful : ∀ moment ∈ m'.history, moment.isFaithful = true) : Unmasked p' m'.state := by
  cases hmove with
  | same hstate =>
    rw [hstate]
    exact h
  | turn hturn => exact h.turn hturn
  | record hremark => exact h.record hremark (hfaithful _ List.mem_cons_self)
  | happen what hopen =>
    obtain ⟨pending, noted, heq, -⟩ := (m.state.undergoing what).exists_raising what.signal
    refine h.of_mask_eq hopen ?_
    show ((m.state.undergoing what).raising what.signal).kernel.mask = _
    rw [heq]
    cases what <;> rfl
  | takeNoted site => exact h.takeNoted hsound.state
  | takeEntry site => exact ⟨h.saved, h.unmasked, h.delivered⟩
  | changeJobs hrewrite => exact h.changeJobs hrewrite
  | remask hremask => exact h.remask hsound.state hremask
  | spawn => exact ⟨h.saved, nofun, nofun⟩
  | sleep => exact ⟨h.saved, nofun, nofun⟩
  | endAll => exact ⟨h.saved, nofun, nofun⟩
  | wake => exact h.wake

end Unmasked

end JobShell
