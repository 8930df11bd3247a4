/-
The command line.

The shell reads its standard input to the end, runs on a machine of its own, and writes what the
machine's streams hold. Of the variables of the process it takes over those that it looks at itself.
-/

import PipelineShell.Startup

namespace PipelineShell.CommandLine

/-- Reads a stream to its end. -/
partial def readToEnd (stream : IO.FS.Stream) (before : ByteArray) : IO ByteArray := do
  let chunk ← stream.read 65536
  if chunk.isEmpty then return before
  readToEnd stream (before ++ chunk)

/-- The variables that are taken over. -/
def variableNames : List String := ["PATH", "HOME", Startup.settingsVariable]

/-- The variables of the process, with their values. -/
def inherited : IO (List (String × String)) := do
  let entries ← variableNames.mapM fun name => do
    return (← IO.getEnv name).map fun value => (name, value)
  return entries.filterMap id

/-- Writes bytes to a stream. -/
def emit (stream : IO.FS.Stream) (bytes : Bytes) : IO Unit := do
  stream.write ⟨bytes.toArray⟩
  stream.flush

end PipelineShell.CommandLine

/-- Runs the shell on the standard input and exits with its code. -/
def main : IO UInt32 := do
  let input ← PipelineShell.CommandLine.readToEnd (← IO.getStdin) .empty
  let inherited ← PipelineShell.CommandLine.inherited
  let machine := { PipelineShell.Machine.new with input := input.toList }
  let (code, machine) := PipelineShell.Startup.run inherited machine
  PipelineShell.CommandLine.emit (← IO.getStdout) machine.output
  PipelineShell.CommandLine.emit (← IO.getStderr) machine.errors
  return UInt32.ofNat code
