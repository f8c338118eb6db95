import JobShell.Shell.Line
import JobShell.Text.Utf8

/-!
# Running the standard input

The input is cut after each line feed and run line by line, with a drain and, if it is wanted, a
prompt before each line and before the end of the input. A line that is not valid text is refused
like one that cannot be split into words, without a drain of its own.
-/

namespace JobShell.Shell

open Routine

/-- The line feed. -/
def lineFeed : UInt8 := 10

/-- The bytes cut after each line feed; a last piece may be without one. -/
def inputLines : List UInt8 → List (List UInt8)
  | [] => []
  | b :: bytes =>
    if b = lineFeed then [b] :: inputLines bytes
    else match inputLines bytes with
      | [] => [[b]]
      | line :: lines => (b :: line) :: lines

/-- Runs a line of bytes. -/
def executeBytes (line : List UInt8) : Routine Unit :=
  match Text.Utf8.decode? line with
  | some text => execute text
  | none => fail (.of (.malformedLine (Text.trimLineEnd (Text.Utf8.lossy line))))

/-- What the prompt looks like. -/
def prompt : String := "tsh> "

/-- What comes before each line and before the end of input. -/
def beforeLine : Routine Unit := do
  drain
  given (← state).settings.prompt (print prompt)

/-- Runs each line of the input. -/
def executeLines : List (List UInt8) → Routine Unit
  | [] => do
    beforeLine
    log .debug .shell "end of input"
  | line :: lines => do
    beforeLine
    reporting (executeBytes line)
    executeLines lines

/-- Runs a whole standard input. -/
def executeInput (bytes : List UInt8) : Routine Unit := executeLines (inputLines bytes)

end JobShell.Shell
