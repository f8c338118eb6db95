import JobShell.Routine

/-!
# Raising and delivering signals

A raised signal is handled at once unless the mask blocks it; then it waits, once per signal, until
a mask lets it through. The handlers of three signals only note what happened. The quit key's
handler says so on the standard output and ends the process.
-/

namespace JobShell.Kernel

open Routine

/-- What the quit key's handler prints. -/
def quitNotice : String := "Terminating after receipt of SIGQUIT signal"

/-- Ends the process by a system call. -/
def leave {α : Type} (status : Nat) : Routine α := do
  record (.call ⟨.leave status, .never⟩)
  finish status

/-- Notes that one of the three recorded signals arrived. -/
def note (f : EventSet → EventSet) : Routine Unit :=
  modifyState fun s ↦ { s with noted := f s.noted }

/-- Runs the handler of a signal. -/
def handle : Handled → Routine Unit
  | .childStatus => note fun e ↦ { e with childStatus := true }
  | .interrupt => note fun e ↦ { e with interrupt := true }
  | .suspend => note fun e ↦ { e with suspend := true }
  | .quit => do
    printLine quitNotice
    leave 1

/-- Raises a signal at the shell. -/
def raise (signal : Handled) : Routine Unit := do
  if (← state).kernel.mask.contains signal then
    modifyKernel fun k ↦ { k with pending := k.pending.insert signal }
  else handle signal

/-- Runs the handler of a pending signal that `mask` lets through. -/
def deliver (mask : SignalSet) (signal : Handled) : Routine Unit := do
  if (← state).kernel.pending.contains signal && !mask.contains signal then
    modifyKernel fun k ↦ { k with pending := k.pending.erase signal }
    handle signal

/-- Runs the handlers of all pending signals that `mask` lets through, by ascending number. -/
def deliverAll (mask : SignalSet) : Routine Unit := Handled.all.forM (deliver mask)

/-- Lets something happen outside the shell. -/
def happen : Occurrence → Routine Unit
  | .child pid change => do
    modifyKernel (·.post pid change)
    record (.happened (.child pid change))
    raise .childStatus
  | .waitFailure errno => do
    modifyKernel (·.postFailure errno)
    record (.happened (.waitFailure errno))
    raise .childStatus
  | .raised signal => do
    record (.happened (.raised signal))
    raise signal

/-- Lets several things happen, in order. -/
def happenAll (occurrences : List Occurrence) : Routine Unit := occurrences.forM happen

end JobShell.Kernel
