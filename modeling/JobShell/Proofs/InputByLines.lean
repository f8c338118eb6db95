import JobShell.Proofs.Onlooker
import JobShell.Proofs.Paired.Routines

/-!
# An input is run line by line

The control loop drains before it reads a line, and the line drains again before it is run. The
second drain finds nothing noted, so it does nothing that a user could see, and a drain that fails
is not reported but ends the loop wherever it fails. So a whole input comes to the same as its
pieces, each run as a line of its own, and a last drain.
-/

namespace JobShell

open Routine

namespace Onlooker.Alike

variable {o : Onlooker} {settings : Settings} {m m' : Machine}

/-! ### What a user sees -/

/-- The same is seen of the events, in order. -/
theorem events_eq (h : o.Alike settings m m') :
    (Trace.events m'.trace).filter o.sees = (Trace.events m.trace).filter o.sees := by
  have hall : ∀ trace : Trace,
      (Trace.events trace).filter o.sees = Trace.events (o.sight trace) := by
    intro trace
    rw [Trace.events, Trace.events, sight, List.filter_reverse, List.filter_map]
    rfl
  rw [hall, h.trace, ← hall]

/-- Machines that look alike to a user have made the same calls. -/
theorem calls_eq (h : Onlooker.user.Alike settings m m') :
    Trace.calls m'.trace = Trace.calls m.trace := by
  have hcall : ∀ event, Onlooker.user.sees event = false → event.call? = none := by
    intro event hevent
    cases event with
    | call call => cases hevent
    | _ => rfl
  rw [Trace.calls, ← Event.filterMap_filter hcall, h.events_eq, Event.filterMap_filter hcall]
  rfl

/-- What is written to either stream looks the same to everybody. -/
theorem join_events_eq (h : o.Alike settings m m') {text : Event → String}
    (htext : ∀ event, o.sees event = false → text event = "") :
    String.join ((Trace.events m'.trace).map text) =
      String.join ((Trace.events m.trace).map text) := by
  rw [← Event.join_map_filter htext, h.events_eq, Event.join_map_filter htext]

end Onlooker.Alike

/-- Two runs that a user cannot tell apart: they end alike in the same state, and they made the same
calls and wrote the same in the same order. -/
structure SameToUser (settings : Settings) (run run' : Outcome Unit × Machine) : Prop where
  outcome : run.1 = run'.1
  alike : Onlooker.user.Alike settings run.2 run'.2
  calls : Trace.calls run.2.trace = Trace.calls run'.2.trace
  out : Trace.out run.2.trace = Trace.out run'.2.trace
  err : Trace.err run.2.trace = Trace.err run'.2.trace
  merged : Trace.merged run.2.trace = Trace.merged run'.2.trace

theorem Routine.Paired.sameToUser {settings : Settings} {routine routine' : Routine Unit}
    {m : Machine} (h : Paired (Onlooker.user.Alike settings) routine routine')
    (hm : m.state.settings = settings) : SameToUser settings (routine m) (routine' m) := by
  obtain ⟨houtcome, halike⟩ := h m m (hm ▸ .refl m)
  refine ⟨houtcome, halike, halike.calls_eq.symm, ?_, ?_, ?_⟩
  · refine (halike.join_events_eq fun event hevent ↦ ?_).symm
    cases event with
    | out => cases hevent
    | _ => rfl
  · refine (halike.join_events_eq fun event hevent ↦ ?_).symm
    cases event with
    | err => cases hevent
    | _ => rfl
  · refine (halike.join_events_eq fun event hevent ↦ ?_).symm
    cases event with
    | out => cases hevent
    | err => cases hevent
    | _ => rfl

namespace Shell

/-! ### Drains -/

/-- A drain leaves nothing noted, and it fails only with errors that are not the user's. -/
theorem triple_drain_noted : Triple (fun _ ↦ True) drain
    { done := fun _ m ↦ m.state.noted = {}
      failed := fun error _ ↦ error.recoverable = false } := by
  have hsteady : Steady fun m ↦ m.state.noted = {} := steady_state fun s ↦ s.noted = {}
  refine triple_drain hsteady hsteady (fun _ _ _ ↦ rfl) (fun _ _ _ ↦ rfl) ?_ ?_ fun _ hm ↦ hm
  · refine triple_reap fun queue ↦
      triple_reapAll hsteady (fun _ ↦ hsteady) ?_ ?_ ?_ ?_ ?_ ?_ queue
    · exact fun _ _ hm _ ↦ hm
    · exact fun _ _ _ hm _ _ ↦ hm
    · exact fun _ _ _ _ _ _ _ _ ↦ rfl
    · exact fun _ _ _ _ hm _ _ ↦ hm
    · exact fun _ _ _ _ hm _ ↦ hm
    · exact fun _ _ hm _ ↦ hm
  · exact fun signal _ ↦
      triple_relay hsteady hsteady (fun _ _ _ hm _ ↦ hm) fun _ hm _ ↦ hm

/-- With nothing noted, a drain does nothing that a user could see. -/
theorem alike_drain {m : Machine} (h : m.state.noted = {}) :
    ∃ m', drain m = (.done (), m') ∧ Onlooker.user.Alike m.state.settings m' m := by
  refine ⟨m.takingNoted.recording .drained, ?_, ?_⟩
  · unfold drain
    rw [bind_of_done (show takeNoted m = (.done {}, m.takingNoted) by rw [← h]; rfl)]
    rfl
  · have hsame : m.takingNoted = m := by
      unfold Machine.takingNoted
      rw [← h]
      rfl
    rw [hsame]
    exact (Onlooker.Alike.refl m).overlooking rfl

/-! ### Reporting -/

theorem reporting_congr {routine routine' : Routine Unit} {m m' : Machine}
    (h : routine m = routine' m') : reporting routine m = reporting routine' m' := by
  refine bind_apply_congr ?_ _
  unfold attempt
  rw [h]

theorem reporting_fail_apply (error : Error) (m : Machine) :
    reporting (fail error) m = (if error.recoverable then do
      log .warn .shell error.text
      printError error.report
    else fail error : Routine Unit) m := rfl

/-- Work whose own errors are not the user's may be done outside the reporting. -/
theorem reporting_bind {routine : Routine Unit} {next : Unit → Routine Unit}
    (h : Triple (fun _ ↦ True) routine
      { done := fun _ _ ↦ True, failed := fun error _ ↦ error.recoverable = false }) :
    reporting (routine >>= next) = routine >>= fun value ↦ reporting (next value) := by
  funext m
  have hpost := h m trivial
  rcases hr : routine m with ⟨outcome, m'⟩
  rw [hr] at hpost
  cases outcome with
  | done value =>
    rw [bind_of_done hr]
    exact reporting_congr (bind_of_done hr)
  | failed error =>
    have hfail : (routine >>= next) m = fail error m' := bind_of_failed hr
    rw [bind_of_failed hr, reporting_congr hfail, reporting_fail_apply, if_neg]
    · rfl
    · rw [show error.recoverable = false from hpost]
      decide
  | exited status => exact hpost.elim
  | stalled => exact hpost.elim

/-! ### The opening of a line -/

/-- What comes before a piece of the input and before its end. -/
def opening (prompted : Bool) : Routine Unit := do
  drain
  given prompted (print prompt)

/-- Without a prompt there is only the drain. -/
theorem opening_false : opening false = drain := bind_pure_unit

theorem triple_beforeLine : Triple (fun _ ↦ True) beforeLine
    { done := fun _ m ↦ m.state.noted = {}
      failed := fun error _ ↦ error.recoverable = false } := by
  have hsteady : Steady fun m ↦ m.state.noted = {} := steady_state fun s ↦ s.noted = {}
  refine Triple.bind _ triple_drain_noted fun _ ↦ triple_state fun s ↦ ?_
  refine triple_given (fun _ ↦ ?_) fun _ _ hm ↦ hm.1
  exact ((triple_print hsteady).of_imp fun _ hm ↦ hm.1).of_done fun _ _ hm ↦ hm

theorem triple_opening (prompted : Bool) : Triple (fun _ ↦ True) (opening prompted)
    { done := fun _ _ ↦ True, failed := fun error _ ↦ error.recoverable = false } := by
  have hsteady : Steady fun _ ↦ True := ⟨fun _ _ _ _ ↦ trivial, fun _ _ _ _ ↦ trivial⟩
  have hdrain : Triple (fun _ ↦ True) drain
      { done := fun _ _ ↦ True, failed := fun error _ ↦ error.recoverable = false } := by
    refine triple_drain_noted.weaken ?_
    rintro (value | error | status | _) m hm
    · trivial
    · exact hm
    · exact hm
    · exact hm
  refine Triple.bind _ hdrain fun _ ↦ triple_given (fun _ ↦ ?_) fun _ _ hm ↦ hm
  exact (triple_print hsteady).of_done fun _ _ hm ↦ hm

/-- The prompt setting stays what it is, so it can be looked up beforehand. -/
theorem paired_opening {settings : Settings} :
    Paired (Onlooker.user.Alike settings) beforeLine (opening settings.prompt) := by
  refine paired_drain.bind fun _ m m' hm ↦ ?_
  show (given m.state.settings.prompt (print prompt) m).1 = _ ∧
    Onlooker.user.Alike settings (given m.state.settings.prompt (print prompt) m).2 _
  rw [hm.settings]
  exact (paired_record _).given _ m m' hm

/-- A second drain adds nothing that a user could see. -/
theorem paired_drain_again {settings : Settings} :
    Paired (Onlooker.user.Alike settings) (beforeLine >>= fun _ ↦ drain) beforeLine := by
  intro m m' hm
  have hself := paired_beforeLine m m' hm
  have hpost := triple_beforeLine m trivial
  rcases hr : beforeLine m with ⟨outcome, n⟩
  rw [hr] at hself hpost
  cases outcome with
  | done value =>
    obtain ⟨n', hdrain, halike⟩ := alike_drain hpost
    rw [bind_of_done hr, hdrain]
    rw [hself.2.settings] at halike
    exact ⟨hself.1, halike.trans hself.2⟩
  | failed error =>
    rw [bind_of_failed hr]
    exact hself
  | exited status => exact hpost.elim
  | stalled => exact hpost.elim

/-! ### Line by line -/

/-- Runs a line that begins with `opening` instead of a drain. -/
def lineAfter (opening : Routine Unit) (line : String) : Routine Unit :=
  reporting do
    opening
    run (← ofExcept (Command.parse line))

/-- Run for itself, a line begins with a drain. -/
theorem lineAfter_drain (line : String) : lineAfter drain line = executeLine line := rfl

/-- What a piece of the input comes to: a line that is run, or a report that it is no text. -/
def pieceAfter (opening : Routine Unit) (piece : List UInt8) : Routine Unit :=
  match Text.Utf8.decode? piece with
  | some line => lineAfter opening line
  | none => do
    opening
    printError s!"tsh: syntax error: '{Text.trimLineEnd (Text.Utf8.lossy piece)}'"

/-- What the pieces of an input come to, one after another, up to the first that fails or ends the
process. -/
def piecesAfter (opening : Routine Unit) : List (List UInt8) → Routine Unit
  | [] => opening
  | piece :: pieces => do
    pieceAfter opening piece
    piecesAfter opening pieces

theorem paired_piece {settings : Settings} (piece : List UInt8) :
    Paired (Onlooker.user.Alike settings) (beforeLine >>= fun _ ↦ reporting (executeBytes piece))
      (pieceAfter (opening settings.prompt) piece) := by
  unfold executeBytes pieceAfter
  cases Text.Utf8.decode? piece with
  | some line =>
    have hrest : Paired (Onlooker.user.Alike settings)
        (reporting (ofExcept (Command.parse line) >>= run))
        (reporting (ofExcept (Command.parse line) >>= run)) :=
      paired_reporting ((paired_ofExcept _).bind paired_run)
    show Paired (Onlooker.user.Alike settings)
      (beforeLine >>= fun _ ↦ reporting (drain >>= fun _ ↦ ofExcept (Command.parse line) >>= run))
      (reporting (opening settings.prompt >>= fun _ ↦ ofExcept (Command.parse line) >>= run))
    rw [reporting_bind (opening_false ▸ triple_opening false), reporting_bind (triple_opening _),
      ← bind_assoc]
    refine (paired_drain_again.bind fun _ ↦ hrest).trans ?_
    exact paired_opening.bind fun _ ↦ hrest
  | none =>
    refine paired_opening.bind fun _ ↦ ?_
    exact paired_log_pure.bind fun _ ↦ paired_record _

theorem paired_piecesAfter {settings : Settings} : ∀ pieces,
    Paired (Onlooker.user.Alike settings) (executeLines pieces)
      (piecesAfter (opening settings.prompt) pieces)
  | [] => by
    have hlog : Paired (Onlooker.user.Alike settings) (log .debug .shell "end of input")
        (Pure.pure ()) := paired_log_pure
    have hend := paired_opening.bind fun _ ↦ hlog
    rwa [bind_pure_unit] at hend
  | piece :: pieces => by
    unfold executeLines piecesAfter
    rw [← bind_assoc]
    exact (paired_piece piece).bind fun _ ↦ paired_piecesAfter pieces

/-! ### The pieces of an input -/

/-- The pieces of an input: what ends with a line feed, and what is left after the last one unless
that is nothing. -/
def pieces (bytes : List UInt8) : List (List UInt8) :=
  let cut := bytes.splitOn lineFeed
  cut.dropLast.map (· ++ [lineFeed]) ++ cut.getLast?.toList.filter (· ≠ [])

theorem inputLines_eq_pieces (bytes : List UInt8) : inputLines bytes = pieces bytes := by
  induction bytes with
  | nil => rfl
  | cons b bytes ih =>
    obtain ⟨first, rest, hcut⟩ := List.exists_cons_of_ne_nil (List.splitOn_ne_nil lineFeed bytes)
    have hcut' : (b :: bytes).splitOn lineFeed =
        if b = lineFeed then [] :: first :: rest else (b :: first) :: rest := by
      rw [List.splitOn, List.splitOnP_cons_eq_if_modifyHead, ← List.splitOn, hcut]
      simp only [beq_iff_eq, List.modifyHead_cons]
    unfold pieces at ih ⊢
    rw [hcut] at ih
    rw [inputLines, ih, hcut']
    split
    · next hfeed =>
      rw [hfeed]
      rfl
    · cases rest with
      | nil => cases first <;> rfl
      | cons next rest => rfl

/-! ### The whole input -/

/-- Runs a piece of an input for itself. One that is no text is reported after a drain. -/
def runPiece (piece : List UInt8) : Routine Unit :=
  match Text.Utf8.decode? piece with
  | some line => executeLine line
  | none => do
    drain
    printError s!"tsh: syntax error: '{Text.trimLineEnd (Text.Utf8.lossy piece)}'"

/-- Runs pieces one after another, up to the first that fails or ends the process, and drains at
their end. -/
def runPieces : List (List UInt8) → Routine Unit
  | [] => drain
  | piece :: pieces => do
    runPiece piece
    runPieces pieces

/-- A piece that begins with a drain is run for itself. -/
theorem pieceAfter_drain (piece : List UInt8) : pieceAfter drain piece = runPiece piece := by
  unfold pieceAfter runPiece
  cases Text.Utf8.decode? piece with
  | some line => exact lineAfter_drain line
  | none => rfl

theorem piecesAfter_opening_false (pieces : List (List UInt8)) :
    piecesAfter (opening false) pieces = runPieces pieces := by
  rw [opening_false]
  induction pieces with
  | nil => rfl
  | cons piece pieces ih => rw [piecesAfter, runPieces, ih, pieceAfter_drain]

end Shell

end JobShell
