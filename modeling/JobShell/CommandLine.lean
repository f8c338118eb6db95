import JobShell.CommandLine.Surroundings
import JobShell.CommandLine.Usage
import JobShell.Session

/-!
# Running from a command line

What the program does with its arguments and its standard input: it answers a request for help or
for the version, refuses arguments that fit no form, and otherwise runs a shell until the input ends
or the shell ends itself. A log file that cannot be opened is only mentioned. From then on the
standard error goes where the standard output goes.
-/

namespace JobShell.CommandLine

open Routine

/-- What a run of the program leaves. -/
structure Transcript where
  /-- The status it ended with. -/
  status : Nat
  /-- What it wrote to the standard output. -/
  out : String := ""
  /-- What it wrote to the standard error. -/
  err : String := ""
  deriving DecidableEq

/-- Reports a fatal error on the standard error. -/
def reportFatal (error : Error) : Routine Unit := printError s!"tsh: {error.message}"

/-- Starts a shell, runs the input, and leaves the shell. -/
def session (input : List UInt8) : Routine Empty := do
  match ← attempt Shell.start with
  | .error error =>
    log .error .shell s!"failed to create shell: {error.message}"
    reportFatal error
    finish 1
  | .ok () =>
    match ← attempt (Shell.executeInput input) with
    | .error error =>
      log .error .shell s!"fatal: {error.message}"
      reportFatal error
      Shell.leave 1
    | .ok () => Shell.leave 0

/-- Runs a shell with options. -/
def runShell (surroundings : Surroundings) (options : Options) (input : List UInt8) : Transcript :=
  let settings : Settings := { prompt := !options.noPrompt, verbose := options.verbose }
  let (outcome, m) := session input
    { state := { settings }, playsChildren := true
      obstacle? := fun program ↦ some (surroundings.programObstacle program) }
  let complaint := match options.log? with
    | none => ""
    | some path => match surroundings.logObstacle? path with
      | none => ""
      | some errno =>
        let error : Error := ⟨.activity (.openingLog path), [.inputOutput errno]⟩
        s!"tsh: {error.message}\n"
  { status := match outcome with
      | .exited status => status
      | _ => 1
    out := m.trace.merged
    err := complaint }

/-- Runs the program. -/
def run (surroundings : Surroundings) (args : List String) (input : List UInt8) : Transcript :=
  match read args with
  | .error error => { status := 1, err := s!"{error.text}\n\n{forms}" }
  | .ok .help => { status := 0, out := help }
  | .ok .version => { status := 0, out := version }
  | .ok (.run options) => runShell surroundings options input

/-- The machine that the program assumes: nothing can be started on it. -/
def defaultSurroundings : Surroundings := .bare "nonexistent"

end JobShell.CommandLine
