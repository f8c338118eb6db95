import JobShell.Kernel.Calls

/-!
# Working with signals blocked

A stretch of work is done with some signals blocked, and the mask before it is put back when the
work is done or has failed. Only the end of the process leaves the mask as it is. A mask that cannot
be put back is logged and stays.
-/

namespace JobShell.Shell

open Routine

/-- Puts a mask back into force. -/
def restoreMask (mask : SignalSet) : Routine Unit := do
  match ← Kernel.changeMask .replace mask with
  | .ok _ => return ()
  | .error errno => log .error .signals s!"failed to restore signal mask: {errno.text}"

/-- Does `body`, which is given the mask before, with `signals` blocked. -/
def withBlocked {α : Type} (signals : SignalSet) (body : SignalSet → Routine α) : Routine α := do
  match ← Kernel.changeMask .block signals with
  | .error errno => fail (.ofCall .maskingSignals errno)
  | .ok previous =>
    let result ← attempt (body previous)
    restoreMask previous
    ofExcept result

/-- Logs why a call failed whose failure does not matter, if it did. -/
def logFailure (component : Component) (text : String) : Option Errno → Routine Unit
  | none => return ()
  | some errno => log .error component s!"{text}: {errno.text}"

end JobShell.Shell
