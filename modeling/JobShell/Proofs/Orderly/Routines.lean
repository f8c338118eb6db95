import JobShell.Proofs.Orderly.Ends
import JobShell.Proofs.Path.Session

/-!
# The shell's work is orderly

Every routine of the shell works in an orderly way. The proofs follow the routines' own text, one
rule for each act. What is special is done at three places: signals are blocked only around work
that puts the mask back, a fork turns into a child only in a process that is told 0, and entries of
the wait queue are taken one at a time until one cannot be read.
-/

namespace JobShell

open Routine

variable {α β : Type} {strict : Prop} {m : Machine}

namespace Kernel

/-! ### Occurrences -/

/-- A signal that is raised changes neither the mask nor the next process id, and only a blocked one
is pending. -/
theorem balances_raising (hm : m.Fit strict) (signal : Handled) :
    Balances strict False m [] (m.raising signal) := by
  obtain ⟨pending, noted, heq, hpending, -⟩ := m.state.exists_raising signal
  have hstate : (m.raising signal).state = m.state.signalled pending noted := heq
  refine .ofState hm rfl rfl rfl (by rw [hstate]; rfl) ?_ (by rw [hstate]; exact Int.le_refl _)
  rw [hstate]
  cases hquit : pending.contains .quit with
  | false => exact hquit
  | true =>
    rcases hpending .quit hquit with h | h
    · rw [hm.quit] at h
      cases h
    · rw [hm.heeds] at h
      cases h

/-- A delivery has pending signals noted, and the quit key's is not among them. -/
theorem balances_delivering (hm : m.Fit strict) (mask : SignalSet) :
    Balances strict False m [] (m.delivering mask) := by
  obtain ⟨pending, noted, heq, hpending, -⟩ := m.state.exists_delivering mask
  have hstate : (m.delivering mask).state = m.state.signalled pending noted := heq
  refine .ofState hm rfl rfl rfl (by rw [hstate]; rfl) ?_ (by rw [hstate]; exact Int.le_refl _)
  rw [hstate]
  show pending.contains .quit = false
  rw [hpending, hm.quit, Bool.false_and]

/-- Whatever happens is noted, but for the quit key, which ends the process on the spot. -/
theorem orderly_happen (what : Occurrence) : Orderly strict (happen what) := by
  intro m hm
  by_cases hquit : what = .raised .quit
  · rw [hquit, happen_quit_apply hm.heeds]
    exact .quit (.refl hm)
  · have happly : happen what m = (.done (), m.after what) :=
      (happen_apply what m).resolve_right fun h ↦ hquit h.1
    rw [happly]
    have hundergo : Balances strict False m [] (m.withState (m.state.undergoing what)) := by
      refine .ofState hm rfl rfl rfl ?_ ?_ (Int.le_of_eq ?_) <;> cases what <;>
        first | rfl | exact hm.quit
    have hplain : (Event.happened what).IsPlain :=
      ⟨rfl, rfl, rfl, rfl, fun heq ↦ hquit (Event.happened.inj heq)⟩
    have hrecord := hundergo.trans (.recording hundergo.fit hplain)
    exact .done (hrecord.trans (balances_raising hrecord.fit what.signal))

theorem orderly_happenAll (occurrences : List Occurrence) :
    Orderly strict (happenAll occurrences) := orderly_forM orderly_happen occurrences

/-! ### Calls -/

/-- The script may go on without anything being told. -/
theorem balances_script (hm : m.Fit strict) (script : Script) (exhausted : Bool) :
    Balances strict False m [] { m with script, exhausted } :=
  .ofState hm rfl rfl rfl rfl hm.quit (Int.le_refl _)

/-- To look up whether a call fails is no trouble. -/
theorem harmless_nextFailure (kind : Fallible) : Harmless strict (nextFailure kind) :=
  fun _ hm ↦ ⟨_, _, _, rfl, balances_script hm _ _⟩

/-- A call without which the shell can do is no trouble even when it fails. -/
theorem harmless_attemptCall {kind : Fallible} {request : Request}
    (h : ∀ answer, (Event.call ⟨request, answer⟩).IsPlain) :
    Harmless strict (attemptCall kind request) := by
  exact (harmless_nextFailure kind).bind fun failure ↦ (harmless_record (h _)).bind fun _ ↦
    harmless_pure failure

/-- The shell can do without sending a signal. -/
theorem harmless_sendToGroup (pid : Pid) (signal : Signal) :
    Harmless strict (sendToGroup pid signal) :=
  harmless_attemptCall fun _ ↦ ⟨rfl, rfl, rfl, rfl, nofun⟩

/-- And without putting a process into a group. -/
theorem harmless_setProcessGroup (pid group : Pid) :
    Harmless strict (setProcessGroup pid group) :=
  harmless_attemptCall fun _ ↦ ⟨rfl, rfl, rfl, rfl, nofun⟩

theorem harmless_installHandler (signal : Handled) : Harmless strict (installHandler signal) :=
  harmless_attemptCall fun _ ↦ ⟨rfl, rfl, rfl, rfl, nofun⟩

/-- What a change of the mask lets through leaves the mask as it was changed. -/
theorem mask_remasking (m : Machine) (how : MaskChange) (signals : SignalSet) :
    (m.remasking how signals).state.kernel.mask = maskAfter how signals m.state.kernel.mask := by
  obtain ⟨pending, noted, heq, -⟩ := m.exists_remasking how signals
  rw [heq]
  rfl

/-- Changing the mask to one that heeds the quit key. -/
theorem adds_remasking {how : MaskChange} {signals : SignalSet} (hm : m.Fit strict)
    (h : (maskAfter how signals m.state.kernel.mask).contains .quit = false) :
    Adds strict m [⟨.call ⟨.changeMask how signals, .number 0⟩, m.state.masked how signals⟩]
      (m.remasking how signals) := by
  obtain ⟨pending, noted, heq, hpending, -⟩ := m.exists_remasking how signals
  have hquit : pending.contains .quit = false := by rw [hpending, hm.quit, Bool.false_and]
  refine ⟨⟨hm.plays, ?_, ?_, ?_⟩, rfl, rfl, ?_, ?_, fun _ ↦ rfl⟩
  · rw [mask_remasking]
    exact h
  · rw [heq]
    exact hquit
  · rw [heq]
    exact hm.positive
  · intro moment hmem
    rw [List.mem_singleton.1 hmem]
    exact h
  · intro moment hmem
    rw [List.mem_singleton.1 hmem]
    exact nofun

/-- Changing the mask, if the new one heeds the quit key: the change fails without effect, or the
new mask is in force. -/
theorem changeMask_cases (how : MaskChange) (signals : SignalSet) (hm : m.Fit strict)
    (h : (maskAfter how signals m.state.kernel.mask).contains .quit = false) :
    (∃ errno m', changeMask how signals m =
        (.done (.error errno), m'.recording (.call ⟨.changeMask how signals, .errno errno⟩)) ∧
      Balances strict False m [] m') ∨
    ∃ s m', changeMask how signals m = (.done (.ok m.state.kernel.mask), m') ∧
      Adds strict m [⟨.call ⟨.changeMask how signals, .number 0⟩, s⟩] m' ∧
      m'.state.kernel.mask = maskAfter how signals m.state.kernel.mask := by
  obtain ⟨failure, script, -, hnext⟩ := nextFailure_apply .changeMask m
  have hscript := balances_script hm script m.exhausted
  cases failure with
  | some errno => exact Or.inl ⟨errno, _, changeMask_of_some hnext, hscript⟩
  | none =>
    have hadds := hscript.toAdds.trans (adds_remasking hscript.fit h)
    have hchange : changeMask how signals m = _ := changeMask_of_none hnext hscript.fit.quit
    exact Or.inr ⟨_, _, hchange, hadds, mask_remasking _ how signals⟩

/-! ### Sleeping -/

theorem harmless_nextBatch : Harmless strict nextBatch := by
  intro m hm
  unfold nextBatch
  split
  · exact ⟨none, [], m, rfl, .refl hm⟩
  · exact ⟨_, _, _, rfl, balances_script hm _ _⟩

/-- A delivery always comes to its end, as the quit key's signal is not among what it delivers. -/
theorem harmless_deliverAll (mask : SignalSet) : Harmless strict (deliverAll mask) :=
  fun _ hm ↦ ⟨(), _, _, deliverAll_apply hm.quit, balances_delivering hm mask⟩

/-- Children may end all at once without any trouble to the shell. -/
theorem harmless_endChildren : Harmless strict endChildren := by
  intro m hm
  have hexhaust := balances_script hm m.script true
  generalize hpids : (if m.exhausted then m.state.kernel.forked else m.state.kernel.alive) = pids
  obtain ⟨alive, hkernel, -⟩ := foldl_post_exited pids m.state.kernel
  have hending : Balances strict False { m with exhausted := true } []
      (({ m with exhausted := true } : Machine).withState (m.state.ending pids)) := by
    replace hkernel : (m.state.ending pids).kernel = _ := hkernel
    refine .ofState hexhaust.fit rfl rfl rfl ?_ ?_ ?_ <;>
      simp only [Machine.state_withState, hkernel]
    · exact hm.quit
    · exact Int.le_refl _
  have hended := hexhaust.trans (hending.trans (balances_raising hending.fit .childStatus))
  exact ⟨(), _, _, hpids ▸ endChildren_apply m, hended⟩

/-- A sleep adds what happens in it, up to the quit key. -/
theorem orderly_suspend (mask : SignalSet) : Orderly strict (suspend mask) := by
  have hcall : Harmless strict (record (.call ⟨.suspend mask, .errno .eintr⟩)) :=
    harmless_record ⟨rfl, rfl, rfl, rfl, nofun⟩
  refine hcall.orderly.bind fun _ ↦ harmless_nextBatch.orderly.bind fun batch ↦ ?_
  cases batch with
  | none =>
    exact harmless_endChildren.orderly.bind fun _ ↦ (harmless_deliverAll mask).orderly
  | some batch =>
    exact (orderly_happenAll batch).bind fun _ ↦ (harmless_deliverAll mask).orderly

/-! ### Forking -/

theorem harmless_nextAtFork : Harmless strict nextAtFork :=
  fun _ hm ↦ ⟨_, _, _, rfl, balances_script hm _ _⟩

/-- What a fork leads to: it fails, or it is told the id of a new process. In a process that is told
0 nothing is left to do but the child's part, which ends it. -/
theorem orderly_fork {child : Routine Empty} {next : Except Errno Pid → Routine α}
    (hchild : ¬ strict → ∀ m, m.Fit strict → ∃ status news m',
      child m = (.exited status, m') ∧ Adds strict m news m')
    (herror : ∀ errno, next (.error errno) = fail (.ofCall .forking errno))
    (hok : ∀ pid, (strict → 1 ≤ pid) → Orderly strict (next (.ok pid))) :
    Orderly strict (fork child >>= next) := by
  have hafter : ∀ pid, (strict → 1 ≤ pid) → Orderly strict (afterFork child pid >>= next) := by
    intro pid hpid
    simp only [afterFork, bind_assoc]
    refine orderly_machine fun m hplays ↦ ?_
    rw [hplays]
    refine (orderly_pure ()).bind fun _ ↦ harmless_nextAtFork.orderly.bind fun occurrences ↦ ?_
    refine (orderly_happenAll occurrences).bind fun _ ↦ ?_
    split
    · next hzero =>
      have hloose : ¬ strict := fun hstrict ↦ absurd (hpid hstrict) (by rw [hzero]; decide)
      intro m hm
      obtain ⟨status, news, m', hleaves, hadds⟩ := hchild hloose m hm
      exact .of_eq (bind_of_exited (bind_of_exited hleaves)) (.exited hadds)
    · exact fun m hm ↦ hok pid hpid m hm
  intro m hm
  obtain ⟨failure, script, -, hnext⟩ := nextFailure_apply .fork m
  have hscript := balances_script hm script m.exhausted
  cases failure with
  | some errno =>
    have hfork : fork child m = (.done (.error errno),
        ({ m with script } : Machine).recording (.call ⟨.fork, .errno errno⟩)) := by
      unfold fork
      rw [bind_of_done hnext]
      rfl
    rw [bind_of_done hfork, herror]
    exact .failed (hscript.trans (.recordingFatal hscript.fit rfl rfl))
  | none =>
    have hfork : fork child m =
        afterFork child m.state.kernel.nextPid ({ m with script } : Machine).spawning := by
      unfold fork
      rw [bind_of_done hnext]
      rfl
    have hspawn : Balances strict False { m with script } []
        (({ m with script } : Machine).withKernel Kernel.spawn) :=
      .ofState hscript.fit rfl rfl rfl rfl hm.quit (Int.le_add_one (Int.le_refl _))
    have hplain : (Event.call ⟨.fork, .number m.state.kernel.nextPid⟩).IsPlain :=
      ⟨rfl, rfl, rfl, rfl, nofun⟩
    have hforked := (hscript.trans hspawn).trans (.recording hspawn.fit hplain)
    rw [bind_apply_congr hfork next]
    exact (hafter m.state.kernel.nextPid hm.positive _ hforked.fit).after hforked

end Kernel

namespace Shell

/-! ### Masks -/

/-- Putting a mask back is always done. Either the mask is in force then, or it is lost. -/
theorem exists_restoreMask {previous : SignalSet} (hprevious : previous.contains .quit = false)
    (hm : m.Fit strict) : ∃ news m', restoreMask previous m = (.done (), m') ∧
      Adds strict m news m' ∧ (strict → ¬ news.Troubled) ∧
      (¬ news.LosesMask → m'.state.kernel.mask = previous) := by
  rcases Kernel.changeMask_cases .replace previous hm hprevious with
    ⟨errno, m', hchange, hbalances⟩ | ⟨s, m', hchange, hadds, hmask⟩
  · have hlost : (Event.call ⟨.changeMask .replace previous, .errno errno⟩).IsPlain :=
      ⟨rfl, rfl, rfl, rfl, nofun⟩
    have hrecord := hbalances.trans (.recording hbalances.fit hlost)
    obtain ⟨_, news, m'', hlog, hlogged⟩ :=
      harmless_log .error .signals s!"failed to restore signal mask: {errno.text}" _ hrecord.fit
    have hrestore := hrecord.trans hlogged
    refine ⟨_, m'', (bind_of_done hchange).trans hlog, hrestore.toAdds,
      fun hstrict ↦ (hrestore.trouble hstrict).1, fun hkept ↦ ?_⟩
    exact absurd ⟨_, List.mem_append_right news List.mem_cons_self, rfl⟩ hkept
  · refine ⟨_, m', bind_of_done hchange, hadds, fun _ ↦ ?_, fun _ ↦ hmask⟩
    exact Trace.not_troubled_singleton ⟨rfl, rfl, rfl, rfl, nofun⟩

/-- Work after which the mask `previous` is put back. -/
def restoringAfter (previous : SignalSet) (body : Routine α) : Routine α := do
  let result ← attempt body
  restoreMask previous
  ofExcept result

/-- The mask that is put back is the one before the change. -/
theorem ends_restoringAfter {m' : Machine} {before : Trace} {body : Routine α}
    (hm : m.Fit strict) (hbefore : Adds strict m before m') (hcalm : ¬ before.Troubled)
    (hbody : Orderly strict body) :
    Ends strict m (restoringAfter m.state.kernel.mask body m').1
      (restoringAfter m.state.kernel.mask body m').2 := by
  have hends := hbody m' hbefore.fit
  rcases hr : body m' with ⟨outcome, m₂⟩
  rw [hr] at hends
  have hattempt := attempt_apply hr
  cases hends with
  | done hbody =>
    obtain ⟨_, m₃, hrestore, hafter, hcalm', hmask⟩ := exists_restoreMask hm.heeds hbody.fit
    exact .of_eq ((bind_of_done hattempt).trans (bind_of_done hrestore))
      (.done (.restored hbefore hcalm hbody hafter hcalm' hmask))
  | failed hbody =>
    obtain ⟨_, m₃, hrestore, hafter, hcalm', hmask⟩ := exists_restoreMask hm.heeds hbody.fit
    exact .of_eq ((bind_of_done hattempt).trans (bind_of_done hrestore))
      (.failed (.restored hbefore hcalm hbody hafter hcalm' hmask))
  | exited hbody => exact .of_eq (bind_of_exited hattempt) (.exited (hbefore.trans hbody))
  | stalled hbody => exact .of_eq (bind_of_stalled hattempt) (.stalled (hbefore.trans hbody))
  | quit hbody => exact .of_eq (bind_of_exited hattempt) (.quit (hbefore.trans hbody))

/-- Work with signals blocked, if the quit key's is not among them. -/
theorem orderly_withBlocked {signals : SignalSet} {body : SignalSet → Routine α}
    (hsignals : signals.contains .quit = false)
    (h : ∀ previous, previous.contains .quit = false → Orderly strict (body previous)) :
    Orderly strict (withBlocked signals body) := by
  intro m hm
  have hheeds : (Kernel.maskAfter .block signals m.state.kernel.mask).contains .quit = false := by
    show (m.state.kernel.mask.union signals).contains .quit = false
    rw [SignalSet.contains_union, hm.heeds, hsignals]
    rfl
  rcases Kernel.changeMask_cases .block signals hm hheeds with
    ⟨errno, m', hchange, hbalances⟩ | ⟨s, m', hchange, hadds, -⟩
  · exact .of_eq (bind_of_done hchange)
      (.failed (hbalances.trans (.recordingFatal hbalances.fit rfl rfl)))
  · have hblock : withBlocked signals body m =
        restoringAfter m.state.kernel.mask (body m.state.kernel.mask) m' := bind_of_done hchange
    rw [hblock]
    refine ends_restoringAfter hm hadds ?_ (h _ hm.heeds)
    exact Trace.not_troubled_singleton ⟨rfl, rfl, rfl, rfl, nofun⟩

/-- A failure that is only logged is no trouble. -/
theorem harmless_logFailure (component : Component) (text : String) (failure : Option Errno) :
    Harmless strict (logFailure component text failure) := by
  cases failure with
  | none => exact harmless_pure ()
  | some errno => exact harmless_log _ _ _

/-! ### Drains -/

/-- To learn a status is no trouble, whatever became of the job. -/
theorem harmless_apply (status : WaitStatus) : Harmless strict (apply status) := by
  cases status with
  | exited pid code =>
    refine (harmless_log _ _ _).bind fun _ ↦ harmless_state fun s ↦ ?_
    cases s.jobs.remove pid with
    | none => exact harmless_log _ _ _
    | some removed => exact harmless_changeJobs _ _
  | signaled pid signal =>
    refine (harmless_log _ _ _).bind fun _ ↦ harmless_state fun s ↦ ?_
    cases s.jobs.remove pid with
    | none => exact harmless_log _ _ _
    | some removed => exact (harmless_changeJobs _ _).bind fun _ ↦ harmless_printLine _
  | stopped pid signal =>
    refine (harmless_log _ _ _).bind fun _ ↦ harmless_state fun s ↦ ?_
    cases s.jobs.setState pid .stopped with
    | none => exact harmless_log _ _ _
    | some restated => exact (harmless_changeJobs _ _).bind fun _ ↦ harmless_printLine _
  | continued pid => exact harmless_log _ _ _
  | traced pid => exact harmless_log _ _ _

/-- A wait that has nothing to tell. -/
theorem isPlain_of_stop {entry : WaitEntry}
    (h : entry.read = .error .echild ∨ entry.read = .ok none) :
    (Event.call ⟨.wait, Kernel.waitAnswer entry⟩).IsPlain := by
  cases entry with
  | failure errno =>
    rcases h with h | h
    · obtain rfl := Except.error.inj h
      exact ⟨rfl, rfl, rfl, rfl, nofun⟩
    · cases h
  | status pid change =>
    have hzero : pid = 0 := by
      by_contra hpid
      cases hread : change.read? pid with
      | none =>
        rw [WaitEntry.read_of_none hpid hread] at h
        rcases h with h | h <;> cases h
      | some told =>
        rw [WaitEntry.read_of_some hpid hread] at h
        rcases h with h | h <;> cases h
    subst hzero
    exact ⟨rfl, rfl, rfl, rfl, nofun⟩

/-- A wait that fails, or whose status cannot be read. -/
theorem troubled_of_error {entry : WaitEntry} {errno : Errno} (h : entry.read = .error errno)
    (hne : errno ≠ .echild) (s : State) :
    Trace.Troubled [⟨.call ⟨.wait, Kernel.waitAnswer entry⟩, s⟩] := by
  cases entry with
  | failure cause =>
    obtain rfl : cause = errno := Except.error.inj h
    exact Trace.troubled_of_fatal (List.mem_singleton.2 rfl) (decide_eq_true hne)
  | status pid change =>
    simp only [WaitEntry.read] at h
    split at h
    · cases h
    · next hpid =>
      have hanswered : (Event.call ⟨.wait, Kernel.waitAnswer (.status pid change)⟩).answered? =
          some pid := if_neg hpid
      refine Or.inr ?_
      rw [Trace.learned, Trace.answered, Trace.filterMap_events_singleton rfl,
        Trace.filterMap_events_some hanswered]
      exact List.cons_ne_nil pid [] ∘ Eq.symm

/-- A wait that tells a status answers with the child that the status is about. -/
theorem answered_of_status {entry : WaitEntry} {status : WaitStatus}
    (h : entry.read = .ok (some status)) :
    (Event.call ⟨.wait, Kernel.waitAnswer entry⟩).answered? = some status.pid := by
  have hpid := WaitEntry.pid?_of_status? (WaitEntry.status?_eq_some.2 h)
  cases entry with
  | failure errno => cases h
  | status pid change =>
    obtain rfl : pid = status.pid := Option.some.inj hpid
    simp only [WaitEntry.read] at h
    split at h
    · cases h
    · next hne => exact if_neg hne

/-- Taking an entry of the wait queue. -/
theorem adds_taking (hm : m.Fit strict) (entry : WaitEntry) (rest : List WaitEntry) :
    Adds strict m [⟨.call ⟨.wait, Kernel.waitAnswer entry⟩, (m.queueing rest).state⟩]
      (m.taking entry rest) := by
  have hqueue : Balances strict False m [] (m.queueing rest) :=
    .ofState hm rfl rfl rfl rfl hm.quit (Int.le_refl _)
  exact hqueue.toAdds.trans (.recording hqueue.fit (fun _ ↦ rfl) (by nofun))

/-- A status that is told is learned, so there is no trouble. -/
theorem balances_told (hm : m.Fit strict) {entry : WaitEntry} {status : WaitStatus}
    (h : entry.read = .ok (some status)) (rest : List WaitEntry) : ∃ news,
      Balances strict False m news ((m.taking entry rest).recording (.learned status)) := by
  have hadds := adds_taking hm entry rest
  refine ⟨_, hadds.trans (.recording hadds.fit (fun _ ↦ rfl) nofun), fun _ ↦ rfl, fun _ ↦ ?_⟩
  have hfatal : (Event.call ⟨.wait, Kernel.waitAnswer entry⟩).isFatal = false := by
    cases entry with
    | failure errno => cases h
    | status pid change => rfl
  have hlearned : (Event.learned status).learned? = some status.pid := rfl
  refine iff_of_false ?_ not_false
  rw [Trace.troubled_append_iff, Trace.learned, Trace.filterMap_events_singleton rfl,
    Trace.learned, Trace.filterMap_events_some hlearned, Trace.answered,
    Trace.filterMap_events_some (answered_of_status h), Trace.answered,
    Trace.filterMap_events_singleton rfl]
  have hcalm : (Event.learned status).isFatal = false := rfl
  simp [hfatal, hcalm]

/-- A pass fails only at an entry that is trouble: a wait that fails for another reason than that
there is no child, or a status that cannot be read. -/
theorem orderly_reapAll : ∀ queue, Orderly strict (reapAll queue)
  | [] => by
    refine orderly_state fun s ↦ ?_
    split
    · exact Harmless.orderly (harmless_record ⟨rfl, rfl, rfl, rfl, nofun⟩)
    · exact Harmless.orderly (harmless_record ⟨rfl, rfl, rfl, rfl, nofun⟩)
  | entry :: rest => by
    intro m hm
    have hadds := adds_taking hm entry rest
    have hstop (h : entry.read = .error .echild ∨ entry.read = .ok none) :
        Ends strict m (reapAll (entry :: rest) m).1 (reapAll (entry :: rest) m).2 := by
      refine .of_eq (reapAll_of_stop h m) (.done ⟨hadds, fun _ ↦ rfl, fun _ ↦ ?_⟩)
      exact iff_of_false (Trace.not_troubled_singleton (isPlain_of_stop h)) not_false
    cases hread : entry.read with
    | error errno =>
      by_cases hne : errno = .echild
      · exact hstop (Or.inl (by rw [hread, hne]))
      · refine .of_eq (reapAll_of_error hread hne m) (.failed ⟨hadds, fun _ ↦ rfl, fun _ ↦ ?_⟩)
        exact iff_of_true (troubled_of_error hread hne _) rfl
    | ok told? =>
      cases told? with
      | none => exact hstop (Or.inr hread)
      | some status =>
        obtain ⟨news, htold⟩ := balances_told hm hread rest
        rw [reapAll_of_status hread]
        exact ((harmless_apply status).orderly.bind (fun _ ↦ orderly_reapAll rest) _
          htold.fit).after htold

theorem orderly_reap : Orderly strict reap :=
  orderly_state fun s ↦ orderly_reapAll s.kernel.waitQueue

/-- A key that cannot be passed on is only logged. -/
theorem harmless_relay (signal : Signal) : Harmless strict (relay signal) := by
  refine harmless_state fun s ↦ ?_
  cases s.jobs.foregroundPid? with
  | none => exact harmless_log _ _ _
  | some pid =>
    exact (harmless_log _ _ _).bind fun _ ↦ (Kernel.harmless_sendToGroup pid signal).bind
      fun failure ↦ harmless_logFailure _ _ failure

theorem orderly_onEvent {routine : Routine Unit} (h : Orderly strict routine) (was : Bool)
    (name : String) : Orderly strict (onEvent was name routine) :=
  Orderly.given ((harmless_log _ _ _).orderly.bind fun _ ↦ h) was

/-- The one part of a drain that may fail is its pass over the wait queue. -/
theorem orderly_drain : Orderly strict drain := by
  have htake : Harmless strict takeNoted :=
    harmless_state fun s ↦ (harmless_modifyState (by exact fun _ ↦ rfl)).bind fun _ ↦
      harmless_pure s.noted
  refine htake.orderly.bind fun noted ↦ (orderly_onEvent orderly_reap _ _).bind fun _ ↦ ?_
  refine (orderly_onEvent (harmless_relay .int).orderly _ _).bind fun _ ↦ ?_
  refine (orderly_onEvent (harmless_relay .tstp).orderly _ _).bind fun _ ↦ ?_
  exact Harmless.orderly (harmless_record ⟨rfl, rfl, rfl, rfl, nofun⟩)

/-! ### Waiting and continuing -/

/-- A wait fails with one of its drains. It may also run out of its bound. -/
theorem orderly_awaitForeground (pid : Pid) (previous : SignalSet) :
    ∀ n, Orderly strict (awaitForeground pid previous n)
  | 0 => orderly_stall
  | n + 1 => by
    refine orderly_drain.bind fun _ ↦ orderly_state fun s ↦ ?_
    split
    · have hsleeps : Harmless strict (record (.sleepsFor pid)) :=
        harmless_record ⟨rfl, rfl, rfl, rfl, nofun⟩
      exact hsleeps.orderly.bind fun _ ↦ (Kernel.orderly_suspend _).bind fun _ ↦
        orderly_awaitForeground pid previous n
    · exact orderly_pure ()

/-- The mask is put back however the wait ends, unless it ends the process. -/
theorem orderly_waitFor (pid : Pid) : Orderly strict (waitFor pid) :=
  orderly_withBlocked rfl fun previous _ ↦ orderly_machine fun _ _ ↦
    (orderly_awaitForeground pid previous _).bind fun _ ↦ (harmless_log _ _ _).orderly

/-- That a job cannot be continued is for the user to deal with. -/
theorem orderly_continueJob (spec : JobSpec) (pid : Pid) :
    Orderly strict (continueJob spec pid) := by
  refine (Kernel.harmless_sendToGroup pid .cont).orderly.bind fun failure ↦ ?_
  cases failure with
  | none => exact orderly_pure ()
  | some errno => exact orderly_fail fun _ ↦ rfl

/-- So is that there is no such job. -/
theorem orderly_resume (spec : JobSpec) (newState : JobState) (ground : String) :
    Orderly strict (resume spec newState ground) := by
  have hresolve : ∀ s : State, Orderly strict (ofExcept (s.jobs.resolve spec)) :=
    fun s ↦ orderly_ofExcept fun _ _ herror ↦ recoverable_of_resolve herror
  refine orderly_state fun s ↦ (hresolve s).bind fun job ↦ (harmless_log _ _ _).orderly.bind
    fun _ ↦ (orderly_continueJob spec job.pid).bind fun _ ↦ orderly_state fun s ↦ ?_
  cases s.jobs.setState job.pid newState with
  | none => exact orderly_pure _
  | some restated => exact (harmless_changeJobs _ _).orderly.bind fun _ ↦ orderly_pure _

theorem orderly_foreground (spec : JobSpec) : Orderly strict (foreground spec) :=
  (orderly_resume _ _ _).bind fun result ↦ orderly_waitFor result.1

/-- And that the job was gone when its state was to be set. -/
theorem orderly_background (spec : JobSpec) : Orderly strict (background spec) := by
  refine (orderly_resume _ _ _).bind ?_
  rintro ⟨pid, _ | job⟩
  · exact orderly_fail fun _ ↦ rfl
  · exact orderly_pure job

/-! ### Launching -/

/-- Quiet work adds to the trace; without a strict account that may be a message. -/
theorem steady_adds (hloose : ¬ strict) (m₀ : Machine) :
    Steady fun m ↦ ∃ news, Adds strict m₀ news m where
  script := by
    rintro m script - ⟨news, hadds⟩
    exact ⟨_, hadds.trans (Kernel.balances_script hadds.fit script m.exhausted).toAdds⟩
  quiet := by
    rintro m event hquiet ⟨news, hadds⟩
    refine ⟨_, hadds.trans (.recording hadds.fit (fun hstrict ↦ absurd hstrict hloose) ?_)⟩
    rintro rfl
    exact absurd hquiet (by decide)

/-- A child does its part and ends. Its mask is nobody's concern. -/
theorem exited_of_child (hloose : ¬ strict) {program : String} {argv : List String}
    {previous : SignalSet} (hprevious : previous.contains .quit = false) (hm : m.Fit strict) :
    ∃ status news m', child program argv previous m = (.exited status, m') ∧
      Adds strict m news m' := by
  have hsteady := steady_adds hloose m
  have hchild : Triple (fun m' ↦ ∃ news, Adds strict m news m') (child program argv previous)
      { done := fun _ _ ↦ False
        exited := fun m' ↦ (∃ news, Adds strict m news m') ∨ ∃ news, Adds strict m news m' } := by
    refine triple_child hsteady hsteady ?_ ?_ ?_
    · rintro m' ⟨news, hadds⟩
      exact hadds.fit.quit
    · rintro m' errno ⟨news, hadds⟩
      exact ⟨_, hadds.trans (.recording hadds.fit (fun _ ↦ rfl) nofun)⟩
    · rintro m' ⟨news, hadds⟩
      exact ⟨_, hadds.trans (Kernel.adds_remasking hadds.fit hprevious)⟩
  have hends := hchild m ⟨[], .refl hm⟩
  rcases hr : child program argv previous m with ⟨never | error | status | _, m'⟩
  · exact never.elim
  · rw [hr] at hends
    exact hends.elim
  · rw [hr] at hends
    obtain ⟨news, hadds⟩ := or_self_iff.1 hends
    exact ⟨status, news, m', rfl, hadds⟩
  · rw [hr] at hends
    exact hends.elim

/-- With a proper process id a job is refused only for want of room, which is the user's concern. -/
theorem orderly_register {pid : Pid} (hpid : strict → 1 ≤ pid) (newState : JobState)
    (commandLine : String) : Orderly strict (register pid newState commandLine) := by
  have hadd : ∀ s : State, Orderly strict (ofExcept (s.jobs.add pid newState commandLine)) := by
    refine fun s ↦ orderly_ofExcept fun error hstrict herror ↦ ?_
    rcases JobTable.add_eq_error_iff.1 herror with ⟨hlt, -⟩ | ⟨-, -, rfl⟩
    · exact absurd hlt (Int.not_lt.2 (hpid hstrict))
    · rfl
  refine orderly_state fun s ↦ (hadd s).bind fun result ↦ ?_
  refine (harmless_changeJobs _ _).orderly.bind fun _ ↦ (harmless_log _ _ _).orderly.bind fun _ ↦ ?_
  refine orderly_state fun s ↦ (Orderly.given (harmless_printLine _).orderly _).bind fun _ ↦ ?_
  exact orderly_pure result.1

/-- A child for which there is no room is killed, and that is no trouble. -/
theorem orderly_adopt {pid : Pid} (hpid : strict → 1 ≤ pid) (newState : JobState)
    (commandLine : String) : Orderly strict (adopt pid newState commandLine) := by
  refine (Kernel.harmless_setProcessGroup _ _).orderly.bind fun failure ↦ ?_
  refine (harmless_logFailure _ _ failure).orderly.bind fun _ ↦ ?_
  refine Orderly.attempt_bind (orderly_register hpid newState commandLine) orderly_pure ?_
  intro error
  exact (Kernel.harmless_sendToGroup pid .kill).handsOn fun failure ↦
    (harmless_logFailure _ _ failure).handsOn fun _ ↦ handsOn_fail

/-- A launch is in trouble if signals cannot be blocked or the fork fails, and not before. -/
theorem orderly_launch {command : Command} (hprogram : command.program? ≠ none) :
    Orderly strict (launch command) := by
  unfold launch
  split
  · exact orderly_fail fun _ ↦ rfl
  split
  · next hnone => exact absurd hnone hprogram
  · next program _ =>
    refine orderly_withBlocked rfl fun previous hprevious ↦
      Kernel.orderly_fork (fun hloose m hm ↦ ?_) (fun _ ↦ rfl) fun pid hpid ↦ ?_
    · exact exited_of_child hloose hprevious hm
    · exact orderly_adopt hpid _ _

/-! ### Builtin commands -/

theorem orderly_leave (status : Nat) : Orderly strict (leave status : Routine α) :=
  orderly_state fun _ ↦ (Orderly.given (harmless_log _ _ _).orderly _).bind fun _ ↦
    (harmless_log _ _ _).orderly.bind fun _ ↦ orderly_finish status

theorem orderly_refuse (builtin : Builtin) (misuse : Misuse) :
    Orderly strict (refuse builtin misuse : Routine α) :=
  (harmless_log _ _ _).orderly.bind fun _ ↦ orderly_fail fun _ ↦ rfl

/-- A builtin command that is misused is the user's mistake. -/
theorem orderly_jobArgument (builtin : Builtin) (args : List String) :
    Orderly strict (jobArgument builtin args) := by
  cases args with
  | nil => exact orderly_refuse _ _
  | cons arg args =>
    cases hspec : JobSpec.parse? arg with
    | none =>
      simp only [jobArgument, hspec]
      exact orderly_refuse _ _
    | some spec =>
      simp only [jobArgument, hspec]
      exact orderly_pure spec

theorem orderly_perform (args : List String) (builtin : Builtin) :
    Orderly strict (perform args builtin) := by
  cases builtin with
  | bg =>
    exact (orderly_jobArgument _ args).bind fun spec ↦ (orderly_background spec).bind fun job ↦
      (harmless_printLine _).orderly
  | fg => exact (orderly_jobArgument _ args).bind orderly_foreground
  | jobs => exact orderly_state fun s ↦ orderly_forM (fun job ↦ (harmless_printLine _).orderly) _
  | quit => exact orderly_leave 0

/-- The failure of a builtin command is logged and handed on. -/
theorem orderly_runBuiltin (builtin : Builtin) (args : List String) :
    Orderly strict (runBuiltin builtin args) :=
  Orderly.attempt_bind (orderly_perform args builtin) (fun _ ↦ orderly_pure ()) fun _ ↦
    (harmless_log _ _ _).handsOn fun _ ↦ handsOn_fail

/-! ### Lines -/

/-- A program is launched, and announced or waited for. -/
theorem orderly_runProgram {command : Command} (hprogram : command.program? ≠ none) :
    Orderly strict (runProgram command) := by
  refine (orderly_launch hprogram).bind fun job ↦ ?_
  split
  · refine orderly_state fun s ↦ ?_
    cases s.jobs.byId? job.id with
    | none => exact orderly_pure ()
    | some job => exact (harmless_printLine _).orderly
  · exact orderly_waitFor job.pid

/-- A command is echoed, and then runs in the shell or as a program. -/
theorem orderly_run (command : Command) : Orderly strict (run command) := by
  have hecho : Orderly strict (echo command) :=
    (Orderly.given (harmless_printLine _).orderly _).bind fun _ ↦ (harmless_printLine _).orderly
  unfold run
  split
  · exact orderly_pure ()
  · next program hsome =>
    have hprogram : command.program? ≠ none := by
      rw [hsome]
      exact Option.some_ne_none program
    refine (harmless_log _ _ _).orderly.bind fun _ ↦ orderly_state fun s ↦ ?_
    refine (hecho.given _).bind fun _ ↦ ?_
    cases Builtin.ofName? program with
    | some builtin => exact orderly_runBuiltin builtin command.args
    | none => exact orderly_runProgram hprogram

/-- A line that cannot be parsed is the user's mistake. -/
theorem orderly_execute (line : String) : Orderly strict (execute line) :=
  orderly_drain.bind fun _ ↦
    (orderly_ofExcept fun _ _ herror ↦ recoverable_of_parse herror).bind orderly_run

/-! ### Inputs -/

/-- What is reported has been dealt with, so the account is not strict any more. -/
theorem orderly_reporting (hloose : ¬ strict) {routine : Routine Unit}
    (h : Orderly strict routine) : Orderly strict (reporting routine) := by
  refine (h.attempt hloose).bind fun result ↦ ?_
  cases result with
  | ok value => exact orderly_pure ()
  | error error =>
    dsimp only
    split
    · exact (harmless_log _ _ _).orderly.bind fun _ ↦ (harmless_printError hloose _).orderly
    · exact orderly_fail fun hstrict ↦ absurd hstrict hloose

/-- Bytes that are no text are the user's mistake too. -/
theorem orderly_executeBytes (line : List UInt8) : Orderly strict (executeBytes line) := by
  unfold executeBytes
  split
  · exact orderly_execute _
  · exact orderly_fail fun _ ↦ rfl

theorem orderly_beforeLine : Orderly strict beforeLine :=
  orderly_drain.bind fun _ ↦ orderly_state fun _ ↦ Orderly.given (harmless_print _).orderly _

/-- Each line of an input is reported on its own. -/
theorem orderly_executeLines (hloose : ¬ strict) : ∀ lines, Orderly strict (executeLines lines)
  | [] => orderly_beforeLine.bind fun _ ↦ (harmless_log _ _ _).orderly
  | line :: lines =>
    orderly_beforeLine.bind fun _ ↦
      (orderly_reporting hloose (orderly_executeBytes line)).bind fun _ ↦
        orderly_executeLines hloose lines

/-- A shell that cannot install its handlers does not start. -/
theorem orderly_installHandlers (hloose : ¬ strict) :
    ∀ signals, Orderly strict (installHandlers signals)
  | [] => (harmless_log _ _ _).orderly
  | signal :: signals => by
    refine (Kernel.harmless_installHandler signal).orderly.bind fun failure ↦ ?_
    cases failure with
    | none => exact orderly_installHandlers hloose signals
    | some errno => exact orderly_fail fun hstrict ↦ absurd hstrict hloose

theorem orderly_start (hloose : ¬ strict) : Orderly strict Shell.start :=
  (orderly_installHandlers hloose _).bind fun _ ↦ (harmless_log _ _ _).orderly

end Shell

namespace Instruction

theorem orderly_withSpec {routine : JobSpec → Routine Reply}
    (h : ∀ spec, Orderly strict (routine spec)) (text : String) :
    Orderly strict (withSpec text routine) := by
  unfold withSpec
  split
  · exact orderly_pure _
  · exact h _

theorem orderly_perform (hloose : ¬ strict) (instruction : Instruction) :
    Orderly strict instruction.perform := by
  cases instruction with
  | line text =>
    exact (Shell.orderly_reporting hloose (Shell.orderly_execute text)).bind fun _ ↦ orderly_pure _
  | input bytes => exact (Shell.orderly_executeLines hloose _).bind fun _ ↦ orderly_pure _
  | foreground spec =>
    exact orderly_withSpec (fun spec ↦ (Shell.orderly_foreground spec).bind fun _ ↦
      orderly_pure _) spec
  | background spec =>
    exact orderly_withSpec (fun spec ↦ (Shell.orderly_background spec).bind fun _ ↦
      orderly_pure _) spec
  | occur what => exact (Kernel.orderly_happen what).bind fun _ ↦ orderly_pure _
  | inspect => exact orderly_state fun _ ↦ orderly_pure _
  | leave code => exact Shell.orderly_leave _

end Instruction

/-- Between two pieces of work a machine of a session is fit for orderly work, and for a strict
account of it if the first process id is a proper one. -/
theorem fit_of_reaches {session : Session} (h : session.Reaches m)
    (hfirst : strict → 1 ≤ session.firstPid) : m.Fit strict := by
  have hsound := h.path.sound session.sound_of_begins
  refine ⟨hsound.plays, hsound.state.heeds, hsound.state.quit, fun hstrict ↦ ?_⟩
  exact Int.le_trans (hfirst hstrict) (session.firstPid_le_of_path h.path).1

end JobShell
