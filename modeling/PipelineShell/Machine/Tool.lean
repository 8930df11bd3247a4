/-
Running programs, as the machine sees them.

A tool is a program that the machine runs itself: steps that read and write through the slots of the
process it runs in and end with an exit code. Messages start with the name under which the tool was
started. Most tools collect their output in blocks; what is left is delivered before a message and
at the end.
-/

import PipelineShell.Machine.Process
import PipelineShell.Text.Lines

namespace PipelineShell

/-- A program: what it does in a process, and its exit code. -/
abbrev Tool := Activity → Process Int

namespace Activity

/-- What the process has open. -/
def handles (activity : Activity) : List Handle := activity.slots.handles

/-- What the kernel knows of the process while it waits. -/
def standing (activity : Activity) : Standing :=
  ⟨activity.handles, activity.ignored, [], activity.allowances.fileSize⟩

/-- Writes to a stream of the process, or tells why that is not possible. -/
def write (activity : Activity) (stream : Stream) (bytes : Bytes) :
    Process (Except Errno Unit) :=
  match activity.slots.get? stream.slot with
  | none => return if bytes.isEmpty then .ok () else .error .badDescriptor
  | some handle => Process.write activity.standing handle bytes

/-- Writes to a stream of the process, as far as possible. -/
def print (activity : Activity) (stream : Stream) (bytes : Bytes) : Process Unit := do
  let _ ← activity.write stream bytes

/-- Writes a text to a stream of the process, as far as possible. -/
def say (activity : Activity) (stream : Stream) (text : String) : Process Unit :=
  activity.print stream (Text.encode text)

/-- Reads up to some number of bytes of the input. -/
def read (activity : Activity) (count : Nat) : Process (Except Errno Bytes) :=
  match activity.slots.get? Stream.input.slot with
  | none => return .error .badDescriptor
  | some handle => Process.read activity.standing handle count

/-- The file behind a stream of the process, if it is one. -/
def location? (activity : Activity) (stream : Stream) (kernel : Kernel) : Option Location :=
  (activity.slots.get? stream.slot).bind kernel.location?

/-- Whether the process may have some number of files open more than it has. -/
def mayOpen (activity : Activity) (count : Nat) : Bool :=
  activity.allowances.openFiles.all fun bound =>
    count + (activity.slots.descriptors.filter (· < bound)).length ≤ bound

/-- Opens a file. -/
def openFile (activity : Activity) (path : Bytes) (access : Access) :
    Process (Except Errno Handle) := do
  if activity.mayOpen 1 then
    Process.call fun kernel => kernel.openFor activity.slots activity.directory path access
  else return .error .tooManyOpen

/-- The name under which the process was started. -/
def name (activity : Activity) : Bytes := activity.arguments.headD []

/-- The arguments after the name. -/
def operands (activity : Activity) : List Bytes := activity.arguments.drop 1

/-- Writes a message to the error stream, after the name. -/
def warn (activity : Activity) (message : Bytes) : Process Unit :=
  activity.print .errors (activity.name ++ Text.encode ": " ++ message ++ [Text.lineFeed])

/-- The value of an entry of the environment. -/
def setting? (activity : Activity) (name : String) : Option Bytes :=
  activity.environment.findSome? (Text.encode (name ++ "=")).isPrefixOf?

end Activity

namespace Tool

/-- The argument that stands for the input. -/
def dash : Bytes := Text.encode "-"

/-- Bytes one by one as characters, for patterns. -/
def characters (bytes : Bytes) : List Char := bytes.map fun byte => Char.ofNat byte.toNat

/-- The bytes that such characters stand for. -/
def ofCharacters (characters : List Char) : Bytes :=
  characters.map fun character => UInt8.ofNat character.toNat

/-! ### Reading files -/

/-- Opens a file for reading. The dash is the input. -/
def openOperand (activity : Activity) (file : Bytes) : Process (Except Errno Handle) := do
  if file = dash then
    return (activity.slots.get? Stream.input.slot).elim (.error .badDescriptor) .ok
  else activity.openFile file .reading

/-- Closes a file that was opened for reading. -/
def closeOperand (activity : Activity) (handle : Handle) : Process Unit :=
  Process.change fun kernel => kernel.release activity.handles handle

/-- How much is read at once by tools that read everything. -/
def readingSize : Nat := 131072

/-- What a tool reads from one of the files it was given, or why it cannot. The dash is the input,
which is read to its end. -/
def readOperand (activity : Activity) (file : Bytes) : Process (Except Errno Bytes) := do
  match ← openOperand activity file with
  | .error errno => return .error errno
  | .ok handle =>
    let contents ← Process.readAll activity.standing handle readingSize
    closeOperand activity handle
    return contents

/-- Whether the input was asked for and is closed. -/
def inputIsClosed (activity : Activity) (files : List Bytes) : Bool :=
  files.contains dash && (activity.slots.get? Stream.input.slot).isNone

/-! ### Collecting output -/

/-- What a tool wrote to its output and did not deliver yet. -/
structure Outlet where
  /-- Whether it wrote anything before. -/
  used : Bool
  pending : Bytes
  /-- Whether something could not be delivered. -/
  failed : Bool

/-- An outlet that nothing was written to. -/
def Outlet.new : Outlet := ⟨false, [], false⟩

/-- How much is delivered at once. -/
def Outlet.block : Nat := 4096

end Tool

/-- A step of a tool that collects its output. -/
abbrev Work := StateT Tool.Outlet Process

namespace Work

/-- Delivers bytes. Gives the reason if that is not possible; everything that was pending is then
lost. -/
def deliver (activity : Activity) (bytes : Bytes) : Work (Option Errno) := do
  match ← activity.write .output bytes with
  | .ok _ => return none
  | .error errno =>
    set (⟨true, [], true⟩ : Tool.Outlet)
    return some errno

/-- Delivers what is pending. -/
def flush (activity : Activity) : Work (Option Errno) := do
  let outlet ← get
  set { outlet with pending := [] }
  deliver activity outlet.pending

/-- Writes to the output: what fits stays pending, and otherwise whole blocks are delivered. Gives
the reason if that is not possible. -/
def put (activity : Activity) (bytes : Bytes) : Work (Option Errno) := do
  let outlet ← get
  let room := if outlet.used then Tool.Outlet.block - outlet.pending.length else 0
  if bytes.isEmpty then return none
  else if bytes.length ≤ room then
    set { outlet with pending := outlet.pending ++ bytes }
    return none
  else
    let rest := bytes.drop room
    let whole := rest.length - rest.length % Tool.Outlet.block
    set { outlet with used := true, pending := outlet.pending ++ bytes.take room }
    match ← flush activity with
    | some errno => return some errno
    | none =>
      match ← deliver activity (rest.take whole) with
      | some errno => return some errno
      | none =>
        modify fun outlet => { outlet with pending := rest.drop whole }
        return none

/-- Writes to the output. A failure is noticed at the end. -/
def print (activity : Activity) (bytes : Bytes) : Work Unit := do
  let _ ← put activity bytes

/-- Writes to the output and delivers it at once. A failure is noticed at the end. -/
def printNow (activity : Activity) (bytes : Bytes) : Work Unit := do
  print activity bytes
  let _ ← flush activity

/-- Writes a message to the error stream, after what was pending. -/
def warn (activity : Activity) (message : Bytes) : Work Unit := do
  let _ ← flush activity
  activity.warn message

/-- Adds a hint to a message about the arguments and ends with a code. -/
def refuse (activity : Activity) (message : Bytes) (code : Int) : Work Int := do
  warn activity message
  activity.print .errors
    (Text.encode "Try '" ++ activity.name ++ Text.encode " --help' for more information.\n")
  return code

/-- Forgets that something could not be delivered. -/
def forgive : Work Unit := modify fun outlet => { outlet with failed := false }

/-- Delivers what is pending at the end, and closes the output. If something could not be delivered,
the tool fails with a message, which gives the reason if that happens only now or the output was
closed all the time. -/
def finish (activity : Activity) (failure code : Int) : Work Int := do
  let before := (← get).failed
  let isClosed := (activity.slots.get? Stream.output.slot).isNone
  match ← flush activity, before, isClosed with
  | none, false, _ => return code
  | none, true, false =>
    activity.warn (Text.encode "write error")
    return failure
  | none, true, true =>
    activity.warn (Text.encode ("write error: " ++ Errno.badDescriptor.sentence))
    return failure
  | some errno, _, _ =>
    activity.warn (Text.encode ("write error: " ++ errno.sentence))
    return failure

/-- A tool that collects its output. `failure` is its code if the output cannot be delivered. -/
def tool (failure : Int) (work : Activity → Work Int) : Tool := fun activity => do
  let (code, outlet) ← (work activity).run .new
  let (code, _) ← (finish activity failure code).run outlet
  return code

end Work

namespace Tool

/-- The program that succeeds. -/
def succeed : Tool := fun _ => return 0

/-- The program that fails. -/
def fail : Tool := fun _ => return 1

end Tool

end PipelineShell
