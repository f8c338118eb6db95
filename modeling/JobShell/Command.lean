import JobShell.Command.Item
import JobShell.Error
import JobShell.Text.Quoted

/-!
# Commands

A command is a line split into its arguments. If the last argument is an ampersand, quoted or not,
it is dropped and the command runs in the background.
-/

namespace JobShell

/-- A command line, split into its arguments. -/
structure Command where
  /-- The line as it was typed, without its line end. -/
  input : String
  /-- The program and its arguments. -/
  argv : List String
  /-- The command is to run beside the shell. -/
  background : Bool
  deriving DecidableEq

namespace Command

/-- The word that asks for a background job. -/
def backgroundMark : String := "&"

/-- The command that a line's words make. -/
def ofWords (input : String) (words : List String) : Command :=
  if words.getLast? = some backgroundMark then ⟨input, words.dropLast, true⟩
  else ⟨input, words, false⟩

/-- Reads a command line. -/
def parse (line : String) : Except Error Command :=
  let input := Text.trimLineEnd line
  match items? input.toList with
  | none => .error (.of (.malformedLine input))
  | some items => .ok (ofWords input (items.map fun item ↦ String.ofList item.content))

variable (command : Command)

/-- The command runs nothing. -/
def isEmpty : Bool := command.argv.isEmpty

/-- The program to run, if any. -/
def program? : Option String := command.argv.head?

/-- The arguments after the program. -/
def args : List String := command.argv.tail

/-- The command as diagnostics show it. -/
def inspect : String :=
  s!"Command \x7b input: {Text.quoted command.input}, argv: {Text.quotedList command.argv}, " ++
    s!"background: {Text.truth command.background} \x7d"

/-- The arguments with their positions, as the verbose setting echoes them. -/
def echo : String :=
  ", ".intercalate (command.argv.mapIdx fun i arg ↦ s!"argv[{i}]={arg}")

end Command

end JobShell
