import JobShell.Proofs.Rules.Kernel
import JobShell.Shell.Drain

/-!
# Rules for drains and masks

What has to be shown of the single acts of a drain, or of a stretch of work with signals blocked, so
that a triple about the whole follows. The acts are those that change the state or make a call whose
answer matters; what is only recorded is covered by steadiness.
-/

namespace JobShell

/-- The entry tells the shell a status. -/
def WaitEntry.IsTelling (entry : WaitEntry) : Prop := ∃ status, entry.read = .ok (some status)

/-- The process that has ended according to a status. -/
def WaitStatus.ended? : WaitStatus → Option Pid
  | exited pid _ | signaled pid _ => some pid
  | stopped _ _ | continued _ | traced _ => none

/-- What a status does to a job table: the change and the table after it, if it is about a job. -/
def JobTable.learn? (table : JobTable) : WaitStatus → Option (JobChange × JobTable)
  | .exited pid _ | .signaled pid _ =>
    (table.remove pid).map fun (job, jobs) ↦ (.removed job, jobs)
  | .stopped pid _ => (table.setState pid .stopped).map fun (job, jobs) ↦ (.restated job, jobs)
  | .continued _ | .traced _ => none

/-- A status removes the job of a process that ended, or marks a job as stopped. -/
theorem JobTable.exists_of_learn? {table table' : JobTable} {status : WaitStatus}
    {change : JobChange} (h : table.learn? status = some (change, table')) :
    (∃ pid job, status.ended? = some pid ∧ change = .removed job ∧
        table.remove pid = some (job, table')) ∨
      ∃ pid job, status.ended? = none ∧ change = .restated job ∧
        table.setState pid .stopped = some (job, table') := by
  have hremove : ∀ pid,
      (table.remove pid).map (fun (job, jobs) ↦ (JobChange.removed job, jobs)) =
        some (change, table') →
      ∃ job, change = .removed job ∧ table.remove pid = some (job, table') := by
    intro pid heq
    obtain ⟨⟨job, jobs⟩, hsome, hpair⟩ := Option.map_eq_some_iff.1 heq
    obtain ⟨rfl, rfl⟩ := Prod.mk.inj hpair
    exact ⟨job, rfl, hsome⟩
  cases status with
  | exited pid code =>
    obtain ⟨job, hjob⟩ := hremove pid h
    exact Or.inl ⟨pid, job, rfl, hjob⟩
  | signaled pid signal =>
    obtain ⟨job, hjob⟩ := hremove pid h
    exact Or.inl ⟨pid, job, rfl, hjob⟩
  | stopped pid signal =>
    obtain ⟨⟨job, jobs⟩, hsome, hpair⟩ := Option.map_eq_some_iff.1 h
    obtain ⟨rfl, rfl⟩ := Prod.mk.inj hpair
    exact Or.inr ⟨pid, job, rfl, rfl, hsome⟩
  | continued pid => cases h
  | traced pid => cases h

/-- Only a stop gives a job another state. -/
theorem JobTable.stopped_of_learn? {table table' : JobTable} {status : WaitStatus} {job : Job}
    (h : table.learn? status = some (.restated job, table')) :
    ∃ pid signal, status = .stopped pid signal ∧
      table.setState pid .stopped = some (job, table') := by
  cases status with
  | stopped pid signal =>
    obtain ⟨⟨changed, jobs⟩, hset, hpair⟩ := Option.map_eq_some_iff.1 h
    obtain ⟨hchange, rfl⟩ := Prod.mk.inj hpair
    obtain rfl := JobChange.restated.inj hchange
    exact ⟨pid, signal, rfl, hset⟩
  | exited pid code =>
    obtain ⟨_, -, hpair⟩ := Option.map_eq_some_iff.1 h
    cases hpair
  | signaled pid signal =>
    obtain ⟨_, -, hpair⟩ := Option.map_eq_some_iff.1 h
    cases hpair
  | continued pid => cases h
  | traced pid => cases h

/-- A status that tells of an end changes nothing only if there is no such job. -/
theorem JobTable.remove_of_learn? {table : JobTable} {status : WaitStatus} {pid : Pid}
    (h : table.learn? status = none) (hended : status.ended? = some pid) :
    table.remove pid = none := by
  cases status with
  | exited ended code =>
    obtain rfl := Option.some.inj hended
    exact Option.map_eq_none_iff.1 h
  | signaled ended signal =>
    obtain rfl := Option.some.inj hended
    exact Option.map_eq_none_iff.1 h
  | _ => cases hended

/-- The machine after a drain took what was noted. -/
def Machine.takingNoted (m : Machine) : Machine := m.withState { m.state with noted := {} }

namespace Shell

open Routine

variable {pre : Machine → Prop}

/-! ### Masks -/

theorem triple_logFailure (h : Steady pre) {component : Component} {text : String}
    (failure : Option Errno) :
    Triple pre (logFailure component text failure) { done := fun _ ↦ pre } := by
  cases failure with
  | none => exact triple_pure fun _ hm ↦ hm
  | some errno => exact triple_log h

/-- Restoring a mask is always done, but the mask may stay as it is. -/
theorem triple_restoreMask {post : Machine → Prop} {mask : SignalSet} (h : Steady pre)
    (hpost : Steady post)
    (hquit : ∀ m, pre m → m.state.kernel.pending.contains .quit = false)
    (hfail : ∀ m errno, pre m →
      post (m.recording (.call ⟨.changeMask .replace mask, .errno errno⟩)))
    (hdone : ∀ m, pre m → post (m.remasking .replace mask)) :
    Triple pre (restoreMask mask) { done := fun _ ↦ post } := by
  have hchange : Triple pre (Kernel.changeMask .replace mask) { done := fun _ ↦ post } :=
    Kernel.triple_changeMask h hquit hfail hdone
  refine hchange.andThen _ fun result ↦ ?_
  cases result with
  | ok previous => exact triple_pure fun _ hm ↦ hm
  | error errno => exact triple_log hpost

/-- Work with signals blocked: `blocked` holds after they were blocked, and `worked` once the work
has a result. -/
theorem triple_withBlocked {α : Type} {signals : SignalSet} {body : SignalSet → Routine α}
    {blocked : SignalSet → Machine → Prop} {worked : SignalSet → Except Error α → Machine → Prop}
    {post : Post α} (h : Steady pre)
    (hquit : ∀ m, pre m → m.state.kernel.pending.contains .quit = false)
    (hfail : ∀ m errno, pre m → post.failed (.ofCall .maskingSignals errno)
      (m.recording (.call ⟨.changeMask .block signals, .errno errno⟩)))
    (hblock : ∀ m, pre m → blocked m.state.kernel.mask (m.remasking .block signals))
    (hbody : ∀ previous, Triple (blocked previous) (body previous)
      ⟨fun value ↦ worked previous (.ok value), fun error ↦ worked previous (.error error),
        post.exited, post.stalled⟩)
    (hrestore : ∀ previous result, Triple (worked previous result) (restoreMask previous)
      { done := fun _ m ↦ post.Holds (.ofResult result) m }) :
    Triple pre (withBlocked signals body) post := by
  have hchange : Triple pre (Kernel.changeMask .block signals)
      { done := onResult blocked fun errno ↦ post.failed (.ofCall .maskingSignals errno) } :=
    Kernel.triple_changeMask h hquit hfail hblock
  refine hchange.andThen _ fun result ↦ ?_
  cases result with
  | error errno => exact triple_fail fun _ hm ↦ hm
  | ok previous =>
    refine Triple.bind (worked previous) (hbody previous).attempt fun result ↦ ?_
    refine (hrestore previous result).andThen _ fun _ ↦ ?_
    refine triple_ofExcept ?_ ?_
    · rintro value m rfl hm
      exact hm
    · rintro error m rfl hm
      exact hm

/-! ### Reaping -/

/-- Acting on a status changes the table as `JobTable.learn?` says. -/
theorem triple_apply {learning reaping : Machine → Prop} {status : WaitStatus}
    (h : Steady learning) (h' : Steady reaping)
    (hchange : ∀ m change table, learning m → m.state.jobs.learn? status = some (change, table) →
      reaping (m.changingJobs change table))
    (hsame : ∀ m, learning m → m.state.jobs.learn? status = none → reaping m) :
    Triple learning (apply status) { done := fun _ ↦ reaping } := by
  have hgone : ∀ s text, s.jobs.learn? status = none →
      Triple (fun m ↦ learning m ∧ m.state = s) (log .warn .jobControl text)
        { done := fun _ ↦ reaping } := by
    intro s text hnone
    refine (triple_log h').of_imp ?_
    rintro m ⟨hm, rfl⟩
    exact hsame m hm hnone
  have hchanged : ∀ s change table, s.jobs.learn? status = some (change, table) →
      Triple (fun m ↦ learning m ∧ m.state = s) (changeJobs change table)
        { done := fun _ ↦ reaping } := by
    intro s change table hsome
    refine triple_changeJobs ?_
    rintro m ⟨hm, rfl⟩
    exact hchange m change table hm hsome
  cases status with
  | exited pid code =>
    refine (triple_log h).andThen _ fun _ ↦ triple_state fun s ↦ ?_
    cases hremove : s.jobs.remove pid with
    | none => exact hgone s _ (by simp [JobTable.learn?, hremove])
    | some removed => exact hchanged s _ _ (by simp [JobTable.learn?, hremove])
  | signaled pid signal =>
    refine (triple_log h).andThen _ fun _ ↦ triple_state fun s ↦ ?_
    cases hremove : s.jobs.remove pid with
    | none => exact hgone s _ (by simp [JobTable.learn?, hremove])
    | some removed =>
      exact (hchanged s _ _ (by simp [JobTable.learn?, hremove])).andThen _ fun _ ↦
        triple_printLine h'
  | stopped pid signal =>
    refine (triple_log h).andThen _ fun _ ↦ triple_state fun s ↦ ?_
    cases hset : s.jobs.setState pid .stopped with
    | none => exact hgone s _ (by simp [JobTable.learn?, hset])
    | some restated =>
      exact (hchanged s _ _ (by simp [JobTable.learn?, hset])).andThen _ fun _ ↦
        triple_printLine h'
  | continued pid =>
    exact (triple_log h').of_imp fun m hm ↦ hsame m hm rfl
  | traced pid =>
    exact (triple_log h').of_imp fun m hm ↦ hsame m hm rfl

/-! What a pass over the wait queue does with its first entry. -/

section

variable {entry : WaitEntry} {rest : List WaitEntry} {errno : Errno} {status : WaitStatus}

theorem reapAll_of_stop (h : entry.read = .error .echild ∨ entry.read = .ok none) (m : Machine) :
    reapAll (entry :: rest) m = (.done (), m.taking entry rest) := by
  rw [reapAll]
  rcases h with h | h
  · rw [h]
    rfl
  · rw [h]
    rfl

theorem reapAll_of_error (h : entry.read = .error errno) (hne : errno ≠ .echild) (m : Machine) :
    reapAll (entry :: rest) m = (.failed (.ofCall .waiting errno), m.taking entry rest) := by
  rw [reapAll, h]
  cases errno <;> first | rfl | exact absurd rfl hne

theorem reapAll_of_status (h : entry.read = .ok (some status)) (m : Machine) :
    reapAll (entry :: rest) m = (do apply status; reapAll rest : Routine Unit)
      ((m.taking entry rest).recording (.learned status)) := by
  rw [reapAll, h]
  rfl

end

/-- Taking the entries of the wait queue one by one. `learning` holds between learning a status and
acting on it. -/
theorem triple_reapAll {reaping : Machine → Prop} {learning : WaitStatus → Machine → Prop}
    {post : Post Unit} (h : Steady reaping) (h' : ∀ status, Steady (learning status))
    (hempty : ∀ m answer, reaping m → m.state.kernel.waitQueue = [] →
      post.done () (m.recording (.call ⟨.wait, answer⟩)))
    (hstop : ∀ m entry rest, reaping m → m.state.kernel.waitQueue = entry :: rest →
      entry.read = .error .echild ∨ entry.read = .ok none → post.done () (m.taking entry rest))
    (hfail : ∀ m entry rest errno, reaping m → m.state.kernel.waitQueue = entry :: rest →
      entry.read = .error errno → errno ≠ .echild →
        post.failed (.ofCall .waiting errno) (m.taking entry rest))
    (hlearn : ∀ m entry rest status, reaping m → m.state.kernel.waitQueue = entry :: rest →
      entry.read = .ok (some status) →
        learning status ((m.taking entry rest).recording (.learned status)))
    (hchange : ∀ status m change table, learning status m →
      m.state.jobs.learn? status = some (change, table) → reaping (m.changingJobs change table))
    (hsame : ∀ status m, learning status m → m.state.jobs.learn? status = none → reaping m) :
    ∀ queue, Triple (fun m ↦ reaping m ∧ m.state.kernel.waitQueue = queue) (reapAll queue) post
  | [] => by
    refine triple_state fun s ↦ ?_
    split
    · exact triple_record fun m hm ↦ hempty m _ hm.1.1 hm.1.2
    · exact triple_record fun m hm ↦ hempty m _ hm.1.1 hm.1.2
  | entry :: rest => by
    have hqueue : Steady fun m ↦ m.state.kernel.waitQueue = rest :=
      steady_state fun s ↦ s.kernel.waitQueue = rest
    have htake : Triple (fun m ↦ reaping m ∧ m.state.kernel.waitQueue = entry :: rest)
        (Kernel.takeEntry entry rest)
        { done := fun _ m' ↦ ∃ m, m' = m.taking entry rest ∧ reaping m ∧
            m.state.kernel.waitQueue = entry :: rest } :=
      fun m hm ↦ ⟨m, rfl, hm⟩
    refine htake.andThen _ fun _ ↦ ?_
    split
    · next hread =>
      refine triple_pure ?_
      rintro - ⟨m, rfl, hm, hm'⟩
      exact hstop m entry rest hm hm' (Or.inl hread)
    · next errno hne hread =>
      refine triple_fail ?_
      rintro - ⟨m, rfl, hm, hm'⟩
      exact hfail m entry rest errno hm hm' hread hne
    · next hread =>
      refine triple_pure ?_
      rintro - ⟨m, rfl, hm, hm'⟩
      exact hstop m entry rest hm hm' (Or.inr hread)
    · next status hread =>
      refine Triple.andThen (fun _ m ↦ learning status m ∧ m.state.kernel.waitQueue = rest)
        (triple_record ?_) fun _ ↦ ?_
      · rintro - ⟨m, rfl, hm, hm'⟩
        exact ⟨hlearn m entry rest status hm hm' hread, rfl⟩
      -- Acting on the status leaves the rest of the queue alone, which is what the recursion needs.
      · refine (triple_apply ((h' status).and hqueue) (h.and hqueue) ?_ ?_).andThen _ fun _ ↦
          triple_reapAll h h' hempty hstop hfail hlearn hchange hsame rest
        · rintro m change table ⟨hm, hm'⟩ happly
          exact ⟨hchange status m change table hm happly, hm'⟩
        · rintro m ⟨hm, hm'⟩ happly
          exact ⟨hsame status m hm happly, hm'⟩

theorem triple_reap {reaping : Machine → Prop} {post : Post Unit}
    (h : ∀ queue, Triple (fun m ↦ reaping m ∧ m.state.kernel.waitQueue = queue) (reapAll queue)
      post) : Triple reaping reap post := by
  refine triple_state fun s ↦ (h s.kernel.waitQueue).of_imp ?_
  rintro m ⟨hm, rfl⟩
  exact ⟨hm, rfl⟩

/-! ### Drains -/

/-- Passing a key on makes at most one call. -/
theorem triple_relay {relaying relayed : Machine → Prop} (h : Steady relaying) (h' : Steady relayed)
    {signal : Signal}
    (hsend : ∀ m pid failure, relaying m → m.state.jobs.foregroundPid? = some pid →
      relayed (m.recording (.call ⟨.send (-pid) signal, .ofFailure failure⟩)))
    (hskip : ∀ m, relaying m → m.state.jobs.foregroundPid? = none → relayed m) :
    Triple relaying (relay signal) { done := fun _ ↦ relayed } := by
  refine triple_state fun s ↦ ?_
  split
  · next pid hpid =>
    have hsteady := h.and (steady_state fun s' ↦ s' = s)
    have hsent : Triple (fun m ↦ relaying m ∧ m.state = s) (Kernel.sendToGroup pid signal)
        { done := fun _ ↦ relayed } := by
      refine Kernel.triple_attemptCall hsteady ?_
      rintro m failure ⟨hm, rfl⟩
      exact hsend m pid failure hm hpid
    refine (triple_log hsteady).andThen _ fun _ ↦ ?_
    exact hsent.andThen _ fun failure ↦ triple_logFailure h' failure
  · next hnone =>
    refine (triple_log h').of_imp ?_
    rintro m ⟨hm, rfl⟩
    exact hskip m hm hnone

theorem triple_onEvent {was : Bool} {name : String} {routine : Routine Unit} {post : Post Unit}
    (h : was = true → Steady pre) (htrue : was = true → Triple pre routine post)
    (hfalse : was = false → ∀ m, pre m → post.done () m) :
    Triple pre (onEvent was name routine) post :=
  triple_given (fun hwas ↦ (triple_log (h hwas)).andThen _ fun _ ↦ htrue hwas) hfalse

/-- Reaping if a child's change was noted. -/
theorem triple_onEvent_reap {reaping reaped exited stalled : Machine → Prop}
    {failed : Error → Machine → Prop} (h : Steady reaping)
    (hreaping : Triple reaping reap ⟨fun _ ↦ reaped, failed, exited, stalled⟩) (was : Bool) :
    Triple (fun m ↦ (was = true → reaping m) ∧ (was = false → reaped m))
      (onEvent was "ChildStatus" reap) ⟨fun _ ↦ reaped, failed, exited, stalled⟩ := by
  cases was with
  | true =>
    refine Triple.of_imp (triple_onEvent (fun _ ↦ h) (fun _ ↦ hreaping) ?_) fun m hm ↦ hm.1 rfl
    exact fun hfalse ↦ absurd hfalse (by decide)
  | false =>
    refine Triple.of_imp (triple_onEvent (fun htrue ↦ ?_) (fun htrue ↦ ?_) ?_)
      fun m hm ↦ hm.2 rfl
    · exact absurd htrue (by decide)
    · exact absurd htrue (by decide)
    · exact fun _ _ hm ↦ hm

/-- A drain takes the notes, reaps if a child's change was noted, and passes on the two keys one
after the other. -/
theorem triple_drain_by_stages {reaping reaped interrupted suspended : Machine → Prop}
    {post : Post Unit} (h : Steady reaping) (h' : Steady reaped) (h'' : Steady interrupted)
    (hreap : ∀ m, pre m → m.state.noted.childStatus = true → reaping m.takingNoted)
    (hskip : ∀ m, pre m → m.state.noted.childStatus = false → reaped m.takingNoted)
    (hreaping : Triple reaping reap (post.upTo fun _ ↦ reaped))
    (hint : Triple reaped (relay .int) { done := fun _ ↦ interrupted })
    (hnoInt : ∀ m, reaped m → interrupted m)
    (htstp : Triple interrupted (relay .tstp) { done := fun _ ↦ suspended })
    (hnoTstp : ∀ m, interrupted m → suspended m)
    (hdrained : ∀ m, suspended m → post.done () (m.recording .drained)) :
    Triple pre drain post := by
  have htake : Triple pre takeNoted
      { done := fun noted m ↦ (noted.childStatus = true → reaping m) ∧
          (noted.childStatus = false → reaped m) } :=
    fun m hm ↦ ⟨hreap m hm, hskip m hm⟩
  have hkey : ∀ {before after : Machine → Prop} {was name signal}, Steady before →
      Triple before (relay signal) { done := fun _ ↦ after } → (∀ m, before m → after m) →
        Triple before (onEvent was name (relay signal)) { done := fun _ ↦ after } :=
    fun hbefore hrelay hno ↦ triple_onEvent (fun _ ↦ hbefore) (fun _ ↦ hrelay) fun _ ↦ hno
  refine htake.andThen _ fun noted ↦ ?_
  refine Triple.bind (fun _ ↦ reaped) (triple_onEvent_reap h hreaping _) fun _ ↦ ?_
  refine (hkey h' hint hnoInt).andThen _ fun _ ↦ ?_
  refine (hkey h'' htstp hnoTstp).andThen _ fun _ ↦ ?_
  exact triple_record hdrained

/-- A drain in which the keys are passed on with nothing to tell one from the other. -/
theorem triple_drain {reaping relaying : Machine → Prop} {post : Post Unit}
    (h : Steady reaping) (h' : Steady relaying)
    (hreap : ∀ m, pre m → m.state.noted.childStatus = true → reaping m.takingNoted)
    (hskip : ∀ m, pre m → m.state.noted.childStatus = false → relaying m.takingNoted)
    (hreaping : Triple reaping reap (post.upTo fun _ ↦ relaying))
    (hrelaying : ∀ signal, signal = .int ∨ signal = .tstp →
      Triple relaying (relay signal) { done := fun _ ↦ relaying })
    (hdrained : ∀ m, relaying m → post.done () (m.recording .drained)) :
    Triple pre drain post :=
  triple_drain_by_stages h h' h' hreap hskip hreaping (hrelaying .int (Or.inl rfl))
    (fun _ hm ↦ hm) (hrelaying .tstp (Or.inr rfl)) (fun _ hm ↦ hm) hdrained

end Shell

end JobShell
