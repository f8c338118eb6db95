/-!
# Jobs

A job is a child process that the shell launched and still knows about. It is named by a small job
id and by its process id, which is also the id of its process group.
-/

namespace JobShell

/-- A process id as calls take and give it. -/
abbrev Pid := Int

/-- Where a job stands. -/
inductive JobState
  /-- The shell waits for it. -/
  | foreground
  /-- It runs beside the shell. -/
  | background
  /-- It is suspended. -/
  | stopped
  deriving DecidableEq

namespace JobState

/-- The word for the state in a job listing. -/
def listing : JobState → String
  | foreground => "Foreground"
  | background => "Running"
  | stopped => "Stopped"

/-- The word for the state in diagnostics. -/
def name : JobState → String
  | foreground => "Foreground"
  | background => "Background"
  | stopped => "Stopped"

end JobState

/-- A launched child process. -/
structure Job where
  /-- The number that the job is called by. -/
  id : Nat
  /-- The process id, also the process group id. -/
  pid : Pid
  /-- Where the job stands. -/
  state : JobState
  /-- The command line as it was typed. -/
  commandLine : String
  deriving DecidableEq

namespace Job

variable (job : Job)

/-- The job's two names, as every message about it begins. -/
def names : String := s!"[{job.id}] ({job.pid})"

/-- The line for the job in a listing. -/
def listing : String := s!"{job.names} {job.state.listing} {job.commandLine}"

/-- The line printed when the job starts to run in the background. -/
def announcement : String := s!"{job.names} {job.commandLine}"

end Job

end JobShell
