import JobShell.CommandLine

/-!
# The program

Reads the standard input to its end, runs the command line and prints what it left.
-/

namespace JobShell

/-- The bytes of a stream up to its end. -/
partial def readAll (stream : IO.FS.Stream) (read : ByteArray) : IO ByteArray := do
  let chunk ← stream.read 65536
  if chunk.isEmpty then return read else readAll stream (read ++ chunk)

end JobShell

/-- Runs the program on its arguments and standard input. -/
def main (args : List String) : IO UInt32 := do
  let input ← JobShell.readAll (← IO.getStdin) ByteArray.empty
  let result := JobShell.CommandLine.run JobShell.CommandLine.defaultSurroundings args
    input.toList
  (← IO.getStdout).putStr result.out
  (← IO.getStderr).putStr result.err
  return result.status.toUInt32
