/-
Processes, as far as they have come.

A process runs on the kernel until it ends, has to wait for something, starts another process, or
executes a file. What it does after that is kept as a function of the kernel, so that others can run
in between. Steps of a process are written one after the other in the monad `Process`; each is
handed what comes after it.
-/

import PipelineShell.Machine.Allowance
import PipelineShell.Machine.Kernel

namespace PipelineShell

/-- A process that runs a program. -/
structure Activity where
  pid : ProcessId
  /-- The process that started it. -/
  parent : ProcessId
  slots : Table
  directory : Location
  /-- The permissions that new files do not get. -/
  mask : Nat
  /-- The numbers of the signals that the process ignores. -/
  ignored : List Nat
  allowances : Allowances
  arguments : List Bytes
  environment : List Bytes
  deriving Repr

/-- What a process waits for. -/
inductive Need where
  /-- Nothing: it goes on at once. -/
  | nothing
  /-- Room in a pipe, or that nobody reads from it any more. -/
  | room (serial : Nat)
  /-- Something to read from a pipe, or that nobody writes to it any more. -/
  | data (serial : Nat)
  /-- The end of processes; a signal may come first if the flag says so. -/
  | endings (pids : List ProcessId) (alert : Bool)
  deriving DecidableEq, Repr

/-- What a process does next, and what comes after that. -/
inductive Thread where
  | ended (ending : Ending) (kernel : Kernel)
  | paused (standing : Standing) (need : Need) (kernel : Kernel) (resume : Kernel → Thread)
  /-- It starts another process, in the background if `behind` is set. -/
  | forked (pid : ProcessId) (behind : Bool) (standing : Standing) (child : Kernel → Thread)
    (kernel : Kernel) (resume : Kernel → Thread)
  /-- It executes a file, while it has `own` open, and goes on by itself only if that is refused. -/
  | executing (activity : Activity) (own : List Handle) (file : Bytes) (kernel : Kernel)
    (refused : Errno → Kernel → Thread)

/-- The kernel as a process leaves it. -/
def Thread.kernel : Thread → Kernel
  | .ended _ kernel => kernel
  | .paused _ _ kernel _ => kernel
  | .forked _ _ _ _ kernel _ => kernel
  | .executing _ _ _ kernel _ => kernel

/-- A step of a process that gives a value: it is handed what the process does with the value. -/
def Process (α : Type) : Type := (α → Kernel → Thread) → Kernel → Thread

instance : Monad Process where
  pure value := fun next => next value
  bind step after := fun next => step fun value => after value next

namespace Process

/-! ### Calls to the kernel -/

/-- The kernel as it is now. -/
def kernel : Process Kernel := fun next kernel => next kernel kernel

/-- Changes the kernel. -/
def change (step : Kernel → Kernel) : Process Unit := fun next kernel => next () (step kernel)

/-- Changes the kernel and gives a value. -/
def call {α : Type} (step : Kernel → α × Kernel) : Process α := fun next kernel =>
  let (value, kernel) := step kernel
  next value kernel

/-- Waits until a need is met. -/
def pause (standing : Standing) (need : Need) : Process Unit := fun next kernel =>
  .paused standing need kernel (next ())

/-- Starts another process, in the background if `behind` is set, and gives its number. -/
def fork (behind : Bool) (standing : Standing) (child : ProcessId → Process Ending) :
    Process ProcessId := fun next kernel =>
  let pid := kernel.nextPid
  .forked pid behind standing (child pid .ended) { kernel with nextPid := pid + 1 } (next pid)

/-- Executes a file in place of what the process does, which has `own` open until then. If that is
refused, the process goes on with the reason. -/
def execute (activity : Activity) (own : List Handle) (file : Bytes) : Process Errno :=
  fun next kernel => .executing activity own file kernel next

/-- Ends the process. -/
def exit {α : Type} (ending : Ending) : Process α := fun _ kernel => .ended ending kernel

/-! ### Reading and writing -/

/-- Adds pages for a write to a pipe, and waits for room when there is none. The number bounds how
often it waits. -/
def writePages (standing : Standing) (serial : Nat) : Nat → Bytes → Process (Except Errno Unit)
  | 0, _ => return .ok ()
  | steps + 1, bytes => do
    if bytes.isEmpty then return .ok ()
    let kernel ← kernel
    if !kernel.holds standing.handles (.readEnd serial) then return .error .brokenPipe
    let (pipe, rest) := Pipe.extend Pipe.pageLimit (kernel.pipe serial) bytes
    change fun kernel => kernel.putPipe serial pipe
    if rest.isEmpty then return .ok ()
    pause standing (.room serial)
    writePages standing serial steps rest

/-- Writes to a pipe. -/
def writePipe (standing : Standing) (serial : Nat) (bytes : Bytes) :
    Process (Except Errno Unit) := do
  let kernel ← kernel
  if !kernel.holds standing.handles (.readEnd serial) then return .error .brokenPipe
  let (pipe, rest) := (kernel.pipe serial).join bytes
  change fun kernel => kernel.putPipe serial pipe
  writePages standing serial (rest.length + 1) rest

/-- Writes to a stream or a file. What would make a file too large is not written, and a signal says
so, which ends the process if it does nothing about it. -/
def writeFile (standing : Standing) (handle : Handle) (bytes : Bytes) :
    Process (Except Errno Unit) := do
  let room := standing.fileSize.bind ((← kernel).roomWithin? handle)
  let fitting := room.elim bytes bytes.take
  change fun kernel => kernel.deliver handle fitting
  if room.all (bytes.length ≤ ·) then return .ok ()
  else if (standing.ignored ++ standing.caught).contains sizeSignal then
    return .error .fileTooLarge
  else exit (.killed ⟨sizeSignal⟩)

/-- Writes through a handle, or tells why that is not possible. Nothing is written without bytes. -/
def write (standing : Standing) (handle : Handle) (bytes : Bytes) :
    Process (Except Errno Unit) := do
  if bytes.isEmpty then return .ok ()
  match (← kernel).refusesWriting handle with
  | some errno => return .error errno
  | none =>
    match handle with
    | .writeEnd serial => writePipe standing serial bytes
    | _ => writeFile standing handle bytes

/-- Waits until something can be read through a handle or its end is reached. Gives the reason if
nothing can be read through it. -/
def awaitData (standing : Standing) (handle : Handle) : Process (Option Errno) := do
  let kernel ← kernel
  match handle with
  | .readEnd serial =>
    if (kernel.pipe serial).isEmpty && kernel.holds standing.handles (.writeEnd serial) then
      pause standing (.data serial)
    return none
  | _ => return kernel.refusesReading handle

/-- What would be read through a handle. -/
def peek (standing : Standing) (handle : Handle) (count : Nat) : Process (Except Errno Bytes) := do
  match ← awaitData standing handle with
  | some errno => return .error errno
  | none => return .ok ((← kernel).take handle count).1

/-- Reads up to some number of bytes through a handle, or tells why that is not possible. There is
nothing to read at the end only. -/
def read (standing : Standing) (handle : Handle) (count : Nat) : Process (Except Errno Bytes) := do
  match ← awaitData standing handle with
  | some errno => return .error errno
  | none => return .ok (← call fun kernel => kernel.take handle count)

/-- Reads to the end in blocks, behind what was read so far, which is given backward. The number
bounds how many blocks there may be. -/
def readBlocks (standing : Standing) (handle : Handle) (block : Nat) :
    Nat → (blocks : List Bytes) → Process (Except Errno Bytes)
  | 0, blocks => return .ok blocks.reverse.flatten
  | steps + 1, blocks => do
    match ← read standing handle block with
    | .error errno => return .error errno
    | .ok [] => return .ok blocks.reverse.flatten
    | .ok bytes => readBlocks standing handle block steps (bytes :: blocks)

/-- How many steps a process may take in any one of its loops: more than it ever takes. -/
def patience : Nat := 0x1000000000000000

/-- Reads to the end in blocks. -/
def readAll (standing : Standing) (handle : Handle) (block : Nat) :
    Process (Except Errno Bytes) :=
  readBlocks standing handle block patience []

end Process

end PipelineShell
