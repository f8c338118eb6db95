import JobShell.Error

/-!
# The job table

Sixteen slots, each free or holding a job, and the id that the next job should get. A new job goes
into the lowest free slot, so the order of a listing is the order of the slots. Ids run from 1 to
16 in a circle: the next id is the one after the last id handed out, or after the greatest id in
use once a job has left, and ids still in use are passed over. The table itself allows two jobs
with one process id; a search by process id finds the one in the lower slot.
-/

namespace JobShell

/-- The table's capacity, also the greatest job id. -/
def maxJobs : Nat := 16

/-- A table of jobs. -/
structure JobTable where
  /-- The slots, in order. -/
  slots : List (Option Job) := List.replicate maxJobs none
  /-- The id that the next job gets, unless it is in use. -/
  nextId : Nat := 1
  /-- The number of slots never changes. -/
  length_slots : slots.length = maxJobs := by simp
  deriving DecidableEq

/-- The job id that follows `n - 1`: past the greatest the count begins again at 1. -/
def wrapId (n : Nat) : Nat := if n > maxJobs then 1 else n

/-- The circle holds every id from 1 to the greatest and no other. -/
theorem wrapId_mem_circle (n : Nat) : 1 ≤ wrapId (n + 1) ∧ wrapId (n + 1) ≤ maxJobs := by
  unfold wrapId
  split
  · decide
  · omega

/-- The ids that are tried when the next id is `start`, once around the circle. -/
def idsFrom (start : Nat) : List Nat :=
  go start maxJobs
where
  /-- Counts on from `id`, `n` times. -/
  go (id : Nat) : Nat → List Nat
    | 0 => []
    | n + 1 => id :: go (wrapId (id + 1)) n

/-- Going around the circle takes as many steps as there are ids. -/
theorem length_idsFrom (start : Nat) : (idsFrom start).length = maxJobs := by
  have go (n id : Nat) : (idsFrom.go id n).length = n := by
    induction n generalizing id with
    | zero => rfl
    | succ n ih => simp [idsFrom.go, ih]
  exact go maxJobs start

namespace JobTable

variable (table : JobTable)

/-- The table of a new shell. -/
def empty : JobTable := {}

/-! ### Views -/

/-- The jobs, in slot order. -/
def jobs : List Job := table.slots.filterMap id

/-- The number of jobs. -/
def size : Nat := table.jobs.length

/-- There is no job. -/
def isEmpty : Bool := table.size == 0

/-- The lowest slot that holds a job of process `pid`. Ids below 1 name no process. -/
def slotOf? (pid : Pid) : Option Nat :=
  if pid < 1 then none else table.slots.findIdx? fun slot ↦ slot.any fun job ↦ job.pid == pid

/-- The job in slot `i`. -/
def at? (i : Nat) : Option Job := (table.slots[i]?).join

/-- The job of process `pid`. -/
def byPid? (pid : Pid) : Option Job := (table.slotOf? pid).bind table.at?

/-- The job with an id. Ids count from 1. -/
def byId? (id : Nat) : Option Job :=
  if id < 1 then none else table.jobs.find? fun job ↦ job.id == id

/-- The job that a specification names. -/
def resolve : JobSpec → Except Error Job
  | .job id => match table.byId? id with
    | some job => .ok job
    | none => .error (.of (.noSuchJob (JobSpec.job id).text))
  | .process pid => match table.byPid? pid with
    | some job => .ok job
    | none => .error (.of (.noSuchProcess s!"{pid}"))

/-- The process of the first job in the foreground. -/
def foregroundPid? : Option Pid :=
  (table.jobs.find? fun job ↦ job.state == .foreground).map Job.pid

/-- The greatest id in use, 0 if there is none. -/
def greatestId : Nat := table.jobs.foldl (fun n job ↦ max n job.id) 0

/-- The id is that of a job in the table. -/
def usesId (id : Nat) : Bool := table.jobs.any fun job ↦ job.id == id

/-- The id that the next job gets: the first free one on the way around from `nextId`. -/
def freeId : Nat := ((idsFrom table.nextId).find? fun id ↦ !table.usesId id).getD table.nextId

/-! ### Operations -/

/-- The table with slot `i` replaced. -/
def setSlot (i : Nat) (slot : Option Job) : JobTable :=
  { table with slots := table.slots.set i slot, length_slots := by simp [table.length_slots] }

/-- Puts a new job into the lowest free slot. -/
def add (pid : Pid) (state : JobState) (commandLine : String) : Except Error (Job × JobTable) :=
  if pid < 1 then .error (.of (.activity (.trackingPid pid)))
  else match table.slots.findIdx? Option.isNone with
    | none => .error (.of .tooManyJobs)
    | some i =>
      let job : Job := ⟨table.freeId, pid, state, commandLine⟩
      .ok (job, { table.setSlot i (some job) with nextId := wrapId (job.id + 1) })

/-- Takes out the job of process `pid`. The next id is then the one after the greatest in use. -/
def remove (pid : Pid) : Option (Job × JobTable) :=
  match table.slotOf? pid with
  | none => none
  | some i => (table.at? i).map fun job ↦
      let rest := table.setSlot i none
      (job, { rest with nextId := wrapId (rest.greatestId + 1) })

/-- Changes the state of the job of process `pid`. -/
def setState (pid : Pid) (state : JobState) : Option (Job × JobTable) :=
  match table.slotOf? pid with
  | none => none
  | some i => (table.at? i).map fun job ↦
      let changed := { job with state := state }
      (changed, table.setSlot i (some changed))

end JobTable

end JobShell
