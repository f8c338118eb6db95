import JobShell.Job

/-!
# Naming a job on a command line

`%N` is a job id and a bare number is a process id. Only ASCII digits count, any number of leading
zeros may stand before the value, and the value has to fit a process id.
-/

namespace JobShell

/-- A job as the user names it. -/
inductive JobSpec
  /-- The job with this id. -/
  | job (id : Nat)
  /-- The job whose process has this id. -/
  | process (pid : Pid)
  deriving DecidableEq

namespace JobSpec

/-- The greatest number that a specification may hold. -/
def greatest : Nat := 2147483647

/-- The value of a digit. -/
def digitValue (c : Char) : Nat := c.toNat - '0'.toNat

/-- The value of a string of decimal digits. -/
def decimal (digits : List Char) : Nat := digits.foldl (fun n c ↦ 10 * n + digitValue c) 0

/-- The number written in `digits`, if they are one or more decimal digits of a value in range. -/
def number? (digits : List Char) : Option Nat :=
  if !digits.isEmpty && digits.all Char.isDigit && decimal digits ≤ greatest then
    some (decimal digits)
  else none

theorem number?_eq_some_iff {digits : List Char} {n : Nat} :
    number? digits = some n ↔
      digits ≠ [] ∧ (∀ c ∈ digits, c.isDigit = true) ∧ decimal digits ≤ greatest ∧
        decimal digits = n := by
  unfold number?
  split
  · next h =>
    simp only [Bool.and_eq_true, Bool.not_eq_true', List.isEmpty_eq_false_iff, List.all_eq_true,
      decide_eq_true_eq] at h
    exact ⟨fun hn ↦ ⟨h.1.1, h.1.2, h.2, Option.some.inj hn⟩, fun hn ↦ by rw [hn.2.2.2]⟩
  · next h =>
    simp only [Bool.and_eq_true, Bool.not_eq_true', List.isEmpty_eq_false_iff, List.all_eq_true,
      decide_eq_true_eq] at h
    simp only [reduceCtorEq, false_iff]
    exact fun ⟨hne, hd, hle, _⟩ ↦ h ⟨⟨hne, hd⟩, hle⟩

/-- Reads a job specification. -/
def parse? (text : String) : Option JobSpec :=
  match text.toList with
  | '%' :: digits => (number? digits).map JobSpec.job
  | digits => (number? digits).map fun n ↦ JobSpec.process n

/-- The specification as it is typed. -/
def text : JobSpec → String
  | job id => s!"%{id}"
  | process pid => s!"{pid}"

end JobSpec

end JobShell
