/-!
# Signals and signal sets

A `Signal` is one of the thirty-one standard signals, known by number and name; a number outside
that range names no signal, and a status that carries one cannot be read. The shell itself handles
four of them, `Handled`: three only leave a note that something happened, and the quit key ends the
process. Masks and pending sets are sets of handled signals, since no other signal is ever blocked
or raised at the shell.
-/

namespace JobShell

/-- A standard signal. -/
structure Signal where
  /-- The signal's number. -/
  number : Nat
  /-- Standard signals are numbered from 1 to 31. -/
  standard : 1 ≤ number ∧ number ≤ 31
  deriving DecidableEq

namespace Signal

/-- The names of the standard signals, from number 1 on. -/
def names : List String :=
  ["SIGHUP", "SIGINT", "SIGQUIT", "SIGILL", "SIGTRAP", "SIGABRT", "SIGBUS", "SIGFPE", "SIGKILL",
    "SIGUSR1", "SIGSEGV", "SIGUSR2", "SIGPIPE", "SIGALRM", "SIGTERM", "SIGSTKFLT", "SIGCHLD",
    "SIGCONT", "SIGSTOP", "SIGTSTP", "SIGTTIN", "SIGTTOU", "SIGURG", "SIGXCPU", "SIGXFSZ",
    "SIGVTALRM", "SIGPROF", "SIGWINCH", "SIGIO", "SIGPWR", "SIGSYS"]

/-- The signal's name. -/
def name (s : Signal) : String := names.getD (s.number - 1) ""

/-- The signal with a given number, if there is one. -/
def ofNumber? (n : Nat) : Option Signal :=
  if h : 1 ≤ n ∧ n ≤ 31 then some ⟨n, h⟩ else none

/-- The interrupt key was typed. -/
def int : Signal := ⟨2, by decide⟩
/-- The quit key was typed. -/
def quit : Signal := ⟨3, by decide⟩
/-- Ends a process without its consent. -/
def kill : Signal := ⟨9, by decide⟩
/-- A child changed state. -/
def chld : Signal := ⟨17, by decide⟩
/-- Continues a stopped process. -/
def cont : Signal := ⟨18, by decide⟩
/-- The suspend key was typed. -/
def tstp : Signal := ⟨20, by decide⟩

theorem number_of_ofNumber? {n : Nat} {s : Signal} (h : ofNumber? n = some s) : s.number = n := by
  unfold ofNumber? at h
  split at h
  · exact Option.some.inj h ▸ rfl
  · cases h

theorem ofNumber?_isSome_iff {n : Nat} : (ofNumber? n).isSome = true ↔ 1 ≤ n ∧ n ≤ 31 := by
  unfold ofNumber?
  split <;> simp_all

end Signal

/-- A signal that the shell has a handler for. -/
inductive Handled
  | interrupt | quit | childStatus | suspend
  deriving DecidableEq

namespace Handled

/-- The handled signals, by ascending number. -/
def all : List Handled := [interrupt, quit, childStatus, suspend]

/-- The handled signals in the order in which their handlers are installed and removed. -/
def installation : List Handled := [childStatus, interrupt, suspend, quit]

/-- The signal itself. -/
def signal : Handled → Signal
  | interrupt => .int
  | quit => .quit
  | childStatus => .chld
  | suspend => .tstp

theorem mem_all (s : Handled) : s ∈ all := by cases s <;> decide

end Handled

/-- A set of handled signals. -/
structure SignalSet where
  /-- The interrupt key's signal is in the set. -/
  interrupt : Bool := false
  /-- The quit key's signal is in the set. -/
  quit : Bool := false
  /-- The signal for a child's change of state is in the set. -/
  childStatus : Bool := false
  /-- The suspend key's signal is in the set. -/
  suspend : Bool := false
  deriving DecidableEq

namespace SignalSet

/-- No signal. -/
def empty : SignalSet := {}

/-- The signal for a child's change of state alone. -/
def children : SignalSet := { childStatus := true }

/-- The signals that leave a note and nothing else. -/
def noted : SignalSet := { interrupt := true, childStatus := true, suspend := true }

/-- Membership. -/
def contains (set : SignalSet) : Handled → Bool
  | .interrupt => set.interrupt
  | .quit => set.quit
  | .childStatus => set.childStatus
  | .suspend => set.suspend

/-- The signals of either set. -/
def union (a b : SignalSet) : SignalSet where
  interrupt := a.interrupt || b.interrupt
  quit := a.quit || b.quit
  childStatus := a.childStatus || b.childStatus
  suspend := a.suspend || b.suspend

/-- The signals of the first set that are not in the second. -/
def diff (a b : SignalSet) : SignalSet where
  interrupt := a.interrupt && !b.interrupt
  quit := a.quit && !b.quit
  childStatus := a.childStatus && !b.childStatus
  suspend := a.suspend && !b.suspend

/-- The set of one signal. -/
def singleton : Handled → SignalSet
  | .interrupt => { interrupt := true }
  | .quit => { quit := true }
  | .childStatus => { childStatus := true }
  | .suspend => { suspend := true }

/-- The set with one signal added. -/
def insert (set : SignalSet) (s : Handled) : SignalSet := set.union (singleton s)

/-- The set with one signal taken out. -/
def erase (set : SignalSet) (s : Handled) : SignalSet := set.diff (singleton s)

/-- The members, by ascending number. -/
def toList (set : SignalSet) : List Handled := Handled.all.filter set.contains

/-- The ascending numbers joined by commas, and a dash for the empty set. -/
def text (set : SignalSet) : String :=
  match set.toList with
  | [] => "-"
  | members => ",".intercalate (members.map fun s ↦ toString s.signal.number)

/-! ### Membership under each operation -/

/-- Sets with the same members are the same. -/
theorem ext_contains {a b : SignalSet} (h : ∀ s, a.contains s = b.contains s) : a = b := by
  have hi := h .interrupt
  have hq := h .quit
  have hc := h .childStatus
  have hs := h .suspend
  cases a
  cases b
  simp_all [contains]

@[simp] theorem contains_empty (s : Handled) : empty.contains s = false := by cases s <;> rfl

@[simp] theorem contains_singleton (s t : Handled) :
    (singleton s).contains t = decide (t = s) := by cases s <;> cases t <;> rfl

@[simp] theorem contains_union (a b : SignalSet) (s : Handled) :
    (a.union b).contains s = (a.contains s || b.contains s) := by cases s <;> rfl

@[simp] theorem contains_diff (a b : SignalSet) (s : Handled) :
    (a.diff b).contains s = (a.contains s && !b.contains s) := by cases s <;> rfl

@[simp] theorem contains_insert (set : SignalSet) (s t : Handled) :
    (set.insert s).contains t = (set.contains t || decide (t = s)) := by simp [insert]

@[simp] theorem contains_erase (set : SignalSet) (s t : Handled) :
    (set.erase s).contains t = (set.contains t && !decide (t = s)) := by simp [erase]

end SignalSet

end JobShell
