import JobShell.Kernel.Calls

/-!
# Starting and leaving

A shell starts by installing its handlers, in a fixed order and only as far as that succeeds. It
leaves without regard for its jobs. In between it can be shown: its settings, and then its jobs.
-/

namespace JobShell.Shell

open Routine

/-! ### The shell in words -/

/-- The job table as diagnostics show it. -/
def inspectJobs (s : State) : String :=
  s!"{s.jobs.size} jobs\tverbose: {Text.truth s.settings.verbose}\n" ++
    String.join (s.jobs.jobs.map fun job ↦
      s!"Job \x7b id: JobId({job.id}), pid: Pid({job.pid}), state: {job.state.name}, " ++
        s!"command_line: {Text.quoted job.commandLine} \x7d\n")

/-- The whole shell as diagnostics show it. -/
def inspect (s : State) : String :=
  s!"ShellConfig \x7b emit_prompt: {Text.truth s.settings.prompt}, " ++
    s!"verbose: {Text.truth s.settings.verbose} \x7d\n{inspectJobs s}"

/-! ### Its first and last routine -/

/-- Installs the shell's handlers, or fails with the first that cannot be. -/
def installHandlers : List Handled → Routine Unit
  | [] => log .debug .signals "signal handlers installed"
  | signal :: signals => do
    match ← Kernel.installHandler signal with
    | some errno => fail (.ofCall (.installingHandler signal) errno)
    | none => installHandlers signals

/-- Starts a shell. -/
def start : Routine Unit := do
  installHandlers Handled.installation
  log .info .shell "tsh started up"

/-- Leaves the shell. Jobs that are left are neither ended nor waited for. -/
def leave {α : Type} (status : Nat) : Routine α := do
  let s ← state
  given (!s.jobs.isEmpty) (log .debug .shell s!"leaving jobs behind: {inspectJobs s}")
  log .info .shell "tsh has shut down"
  finish status

end JobShell.Shell
