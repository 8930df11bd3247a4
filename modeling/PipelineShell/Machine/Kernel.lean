/-
What all processes of the machine share.

The kernel is a world that is complete enough to run a session: a file tree, opened files with their
offsets, pipes, and the three streams that the shell was started with. It also knows of each process
what it has open and which signals it cares for, so that it can tell whether anybody will still read
from a pipe or write to it, and whether a file is being written to.
-/

import PipelineShell.FileTree
import PipelineShell.Machine.Pipe
import PipelineShell.Machine.Tape
import PipelineShell.System

namespace PipelineShell

/-- An opened file: where it is and where the next byte is read or written. -/
structure Opening where
  location : Location
  offset : Nat
  /-- Whether everything is written at the end, wherever the offset is. -/
  appending : Bool
  readable : Bool
  writable : Bool
  deriving DecidableEq, Repr

/-- How a file is opened. -/
structure Access where
  reads : Bool
  writes : Bool
  /-- Whether everything is written at the end. -/
  appends : Bool
  /-- Whether the file is emptied first. -/
  truncates : Bool
  /-- The permissions of the file if it is missing; without them it is not created. -/
  creates : Option Nat
  deriving DecidableEq, Repr

namespace Access

/-- Opens an existing file to read it. -/
def reading : Access := ⟨true, false, false, false, none⟩

/-- Opens a file to write to it from its start on, or creates it. -/
def writing (mode : Nat) : Access := ⟨false, true, false, false, some mode⟩

/-- The permissions that opening takes. -/
def ways (access : Access) : Nat :=
  (if access.reads then FileTree.readWay else 0) + (if access.writes then FileTree.writeWay else 0)

/-- A file that was just opened. -/
def opening (access : Access) (location : Location) : Opening :=
  ⟨location, 0, access.appends, access.reads, access.writes⟩

end Access

/-- Where journal entries go. -/
inductive JournalSink where
  | nowhere
  | errorStream
  | file (location : Location)
  deriving DecidableEq, Repr

/-- What the kernel knows of a process that is not running at the moment. -/
structure Standing where
  /-- What it has open. -/
  handles : List Handle
  /-- The numbers of the signals that it ignores. -/
  ignored : List Nat
  /-- The numbers of the signals that it handles itself. -/
  caught : List Nat
  /-- How large a file may become by what it writes. -/
  fileSize : Option Nat
  deriving DecidableEq, Repr

/-- Signals that do nothing to a process that does not ask for them. -/
def harmlessSignals : List Nat := [0, 17, 18, 19, 20, 21, 22, 23, 28]

/-- The signal that can neither be ignored nor handled. -/
def killSignal : Nat := 9

/-- The signal that tells a process that one which it started has ended. -/
def childSignal : Nat := 17

/-- The signal for a file that would become too large. -/
def sizeSignal : Nat := 25

/-- Whether a signal does anything to a process. -/
def Standing.heeds (standing : Standing) (signal : Nat) : Bool :=
  signal = killSignal ||
    !standing.ignored.contains signal &&
      (standing.caught.contains signal || !harmlessSignals.contains signal)

/-- What all processes share. -/
structure Kernel where
  tree : FileTree
  /-- The current directory of the shell. -/
  directory : Location
  /-- The permissions that new files do not get. -/
  mask : Nat
  openings : List (Nat × Opening)
  pipes : List (Nat × Pipe)
  /-- The number of the next file or pipe that a process other than the shell opens. -/
  nextSerial : Nat
  /-- The input that the shell was started with. -/
  input : Bytes
  /-- How much of the input was read. -/
  inputOffset : Nat
  /-- The shell's output. -/
  outputTape : Tape
  /-- The shell's error stream. -/
  errorsTape : Tape
  nextPid : ProcessId
  /-- The processes that have not ended, except for the one that is running. -/
  processes : List (ProcessId × Standing)
  /-- Signals that were sent to processes and did not arrive yet. -/
  mail : List (ProcessId × Nat)
  /-- Processes that ended and were not waited for yet. -/
  endings : List (ProcessId × Ending)
  /-- Whether the endings of processes are discarded, so that nobody can wait for them. -/
  forgetful : Bool
  threshold : Threshold
  sink : JournalSink
  deriving Repr

namespace Kernel

/-! ### Streams and files -/

/-- What was written to the shell's output. -/
def output (kernel : Kernel) : Bytes := kernel.outputTape.contents

/-- What was written to the shell's error stream. -/
def errors (kernel : Kernel) : Bytes := kernel.errorsTape.contents

/-- What a stream that the shell was started with holds. -/
def streamContents (kernel : Kernel) : Stream → Bytes
  | .input => kernel.input
  | .output => kernel.output
  | .errors => kernel.errors

/-- Where a stream is that the shell was started with: it is a file, though no path leads to it. -/
def streamLocation (stream : Stream) : Location := [[], [UInt8.ofNat stream.slot]]

/-- The permissions of the streams that the shell was started with. -/
def streamMode : Nat := 0o600

/-- The stream at a location. -/
def streamAt? (location : Location) : Option Stream :=
  [Stream.input, .output, .errors].find? fun stream => streamLocation stream = location

/-- What is at a location. -/
def node? (kernel : Kernel) (location : Location) : Option Node :=
  match streamAt? location with
  | some stream => some (.file (kernel.streamContents stream) streamMode)
  | none => kernel.tree.get? location

/-- Writes into the file at a location, from an offset on. -/
def writeFile (kernel : Kernel) (location : Location) (offset : Nat) (bytes : Bytes) : Kernel :=
  match streamAt? location with
  | some .input => { kernel with input := FileTree.overwrite kernel.input offset bytes }
  | some .output => { kernel with outputTape := kernel.outputTape.writeAt offset bytes }
  | some .errors => { kernel with errorsTape := kernel.errorsTape.writeAt offset bytes }
  | none => { kernel with tree := kernel.tree.writeAt location offset bytes }

/-- Empties the file at a location. -/
def clearFile (kernel : Kernel) (location : Location) : Kernel :=
  match streamAt? location with
  | some .input => { kernel with input := [] }
  | some .output => { kernel with outputTape := kernel.outputTape.clear }
  | some .errors => { kernel with errorsTape := kernel.errorsTape.clear }
  | none => { kernel with tree := kernel.tree.clear location }

/-- The size of the file at a location. -/
def sizeAt (kernel : Kernel) (location : Location) : Nat :=
  match kernel.node? location with
  | some (.file contents _) => contents.length
  | _ => 0

/-- The file behind a handle; pipes are none. -/
def location? (kernel : Kernel) : Handle → Option Location
  | .inherited stream => some (streamLocation stream)
  | .file serial => (Association.get? serial kernel.openings).map Opening.location
  | _ => none

/-- Where in a file the next byte is read or written through a handle. -/
def position (kernel : Kernel) : Handle → Nat
  | .inherited .input => kernel.inputOffset
  | .inherited .output => kernel.outputTape.offset
  | .inherited .errors => kernel.errorsTape.offset
  | .file serial =>
    match Association.get? serial kernel.openings with
    | none => 0
    | some opening =>
      if opening.appending then kernel.sizeAt opening.location else opening.offset
  | _ => 0

/-- Whether everything that is written through a handle comes at the end. -/
def isAppending (kernel : Kernel) : Handle → Bool
  | .file serial => (Association.get? serial kernel.openings).any Opening.appending
  | _ => false

/-- The size of what is behind a handle, if it has one. -/
def size? (kernel : Kernel) (handle : Handle) : Option Nat :=
  match (kernel.location? handle).bind kernel.node? with
  | some (.file contents _) => some contents.length
  | _ => none

/-- How much can be written through a handle to a file that may become this large. -/
def roomWithin? (kernel : Kernel) (handle : Handle) (size : Nat) : Option Nat :=
  (kernel.size? handle).map fun _ => size - kernel.position handle

/-! ### Pipes -/

/-- The pipe with a number. -/
def pipe (kernel : Kernel) (serial : Nat) : Pipe :=
  (Association.get? serial kernel.pipes).getD .empty

/-- Replaces the pipe with a number. -/
def putPipe (kernel : Kernel) (serial : Nat) (pipe : Pipe) : Kernel :=
  { kernel with pipes := Association.put serial pipe kernel.pipes }

/-- Whether the running process, which has `own` open, or any other one has something open. -/
def holds (kernel : Kernel) (own : List Handle) (handle : Handle) : Bool :=
  own.contains handle ||
    kernel.processes.any fun (_, standing) => standing.handles.contains handle

/-- What is open in the running process, which has `own` open, or in any other one. -/
def handles (kernel : Kernel) (own : List Handle) : List Handle :=
  own ++ kernel.processes.flatMap fun (_, standing) => standing.handles

/-- Forgets an opened file or a pipe that no process has open any more. -/
def release (kernel : Kernel) (own : List Handle) : Handle → Kernel
  | .inherited _ => kernel
  | .file serial =>
    if kernel.holds own (.file serial) then kernel
    else { kernel with openings := Association.erase serial kernel.openings }
  | .readEnd serial | .writeEnd serial =>
    if kernel.holds own (.readEnd serial) || kernel.holds own (.writeEnd serial) then kernel
    else { kernel with pipes := Association.erase serial kernel.pipes }

/-! ### Reading and writing -/

/-- What a node gives when some number of bytes is read from an offset on. -/
def readNode (offset count : Nat) : Node → Bytes
  | .file contents _ => (contents.drop offset).take count
  | .device .zeros | .device .full => List.replicate count 0
  | _ => []

/-- Takes what can be read from a handle at once, up to some number of bytes. -/
def take (kernel : Kernel) (handle : Handle) (count : Nat) : Bytes × Kernel :=
  match handle with
  | .inherited .input =>
    let bytes := (kernel.input.drop kernel.inputOffset).take count
    (bytes, { kernel with inputOffset := kernel.inputOffset + bytes.length })
  | .file serial =>
    match Association.get? serial kernel.openings with
    | none => ([], kernel)
    | some opening =>
      let bytes := ((kernel.node? opening.location).map (readNode opening.offset count)).getD []
      let moved := { opening with offset := opening.offset + bytes.length }
      (bytes, { kernel with openings := Association.put serial moved kernel.openings })
  | .readEnd serial =>
    let (bytes, pipe) := (kernel.pipe serial).take count
    (bytes, kernel.putPipe serial pipe)
  | _ => ([], kernel)

/-- Moves back in what is read through a handle, so that bytes can be read again. A pipe cannot be
moved back. -/
def moveBack (kernel : Kernel) (handle : Handle) (count : Nat) : Kernel :=
  match handle with
  | .inherited .input => { kernel with inputOffset := kernel.inputOffset - count }
  | .file serial =>
    match Association.get? serial kernel.openings with
    | none => kernel
    | some opening =>
      let moved := { opening with offset := opening.offset - count }
      { kernel with openings := Association.put serial moved kernel.openings }
  | _ => kernel

/-- Why nothing can be read from a handle, if nothing can. -/
def refusesReading (kernel : Kernel) : Handle → Option Errno
  | .inherited .input => none
  | .inherited _ => some .badDescriptor
  | .file serial =>
    match Association.get? serial kernel.openings with
    | none => some .badDescriptor
    | some opening =>
      if opening.readable then
        if kernel.node? opening.location = some .directory then some .isDirectory else none
      else some .badDescriptor
  | .readEnd _ => none
  | .writeEnd _ => some .badDescriptor

/-- Why nothing can be written to a handle, if nothing can. -/
def refusesWriting (kernel : Kernel) : Handle → Option Errno
  | .inherited .input => some .badDescriptor
  | .inherited _ => none
  | .file serial =>
    match Association.get? serial kernel.openings with
    | none => some .badDescriptor
    | some opening =>
      if !opening.writable then some .badDescriptor
      else if kernel.node? opening.location = some (.device .full) then some .noSpace
      else none
  | .readEnd _ => some .badDescriptor
  | .writeEnd _ => none

/-- Writes to a handle that takes everything at once: a stream or a file. -/
def deliver (kernel : Kernel) (handle : Handle) (bytes : Bytes) : Kernel :=
  match handle with
  | .inherited .output => { kernel with outputTape := kernel.outputTape.write bytes }
  | .inherited .errors => { kernel with errorsTape := kernel.errorsTape.write bytes }
  | .file serial =>
    match Association.get? serial kernel.openings with
    | none => kernel
    | some opening =>
      let offset := kernel.position handle
      let moved := { opening with offset := offset + bytes.length }
      { kernel.writeFile opening.location offset bytes with
        openings := Association.put serial moved kernel.openings }
  | _ => kernel

/-! ### The journal -/

/-- The time that journal entries carry: the machine has no clock. -/
def clock : String := "00:00:00"

/-- A journal entry as a line. -/
def entryLine (entry : Entry) : String :=
  clock ++ " [" ++ entry.level.name ++ "] " ++ entry.message ++ "\n"

/-- Enters something in the journal, if the threshold keeps it. -/
def enter (kernel : Kernel) (entry : Entry) : Kernel :=
  if kernel.threshold.keeps entry.level then
    let line := Text.encode (entryLine entry)
    match kernel.sink with
    | .nowhere => kernel
    | .errorStream => kernel.deliver (.inherited .errors) line
    | .file location => kernel.writeFile location (kernel.sizeAt location) line
  else kernel

/-! ### Opening -/

/-- Opens what is at a location, under a number. A directory can only be read, and nothing is opened
without the permissions that it takes. -/
def openAt (kernel : Kernel) (serial : Nat) (location : Location) (access : Access) :
    Except Errno Handle × Kernel :=
  match kernel.node? location with
  | none => (.error .noEntry, kernel)
  | some node =>
    if node = .directory ∧ (access.writes ∨ access.creates.isSome) then
      (.error .isDirectory, kernel)
    else if !FileTree.permits access.ways node then (.error .accessDenied, kernel)
    else if node = .device .terminal then (.error .noDevice, kernel)
    else
      let kernel := if access.truncates then kernel.clearFile location else kernel
      (.ok (.file serial), { kernel with
        openings := Association.put serial (access.opening location) kernel.openings })

/-- Opens what a slot refers to once more. A file is opened anew; of a pipe it is an end. -/
def reopen (kernel : Kernel) (serial : Nat) (slots : Table) (number : Descriptor)
    (access : Access) : Except Errno Handle × Kernel :=
  match slots.get? number with
  | none => (.error .noEntry, kernel)
  | some (.readEnd pipe) | some (.writeEnd pipe) =>
    (.ok (if access.reads then .readEnd pipe else .writeEnd pipe), kernel)
  | some handle =>
    match kernel.location? handle with
    | none => (.error .noEntry, kernel)
    | some location => kernel.openAt serial location access

/-- Opens the file that a path leads to, under a number. The process has `slots`. -/
def openPath (kernel : Kernel) (serial : Nat) (slots : Table) (here : Location) (path : Bytes)
    (access : Access) : Except Errno Handle × Kernel :=
  match kernel.tree.resolve access.creates.isSome here path, access.creates with
  | .error errno, _ => (.error errno, kernel)
  | .ok (.absent _ _), none => (.error .noEntry, kernel)
  | .ok (.absent parent name), some mode =>
    let location := parent ++ [name]
    (.ok (.file serial), { kernel with
      tree := kernel.tree.put location (.file [] mode)
      openings := Association.put serial (access.opening location) kernel.openings })
  | .ok (.found _ (.slot number)), _ => kernel.reopen serial slots number access
  | .ok (.found location _), _ => kernel.openAt serial location access

/-- Opens a file for a process. -/
def openFor (kernel : Kernel) (slots : Table) (here : Location) (path : Bytes) (access : Access) :
    Except Errno Handle × Kernel :=
  { kernel with nextSerial := kernel.nextSerial + 1 }.openPath kernel.nextSerial slots here path
    access

/-- Opens a file for a redirection: for reading and writing, with all permissions for its owner if
it has to be created. -/
def openFile (kernel : Kernel) (path : Bytes) (truncate : Bool) (serial : Nat) :
    Except Errno Unit × Kernel :=
  let access : Access := ⟨true, true, false, truncate, some (FileTree.masked 0o700 kernel.mask)⟩
  let (result, kernel) := kernel.openPath serial .standard kernel.directory path access
  (result.map fun _ => (), kernel)

/-- What a path leads to. A pipe is known only by its slot. -/
def find (kernel : Kernel) (slots : Table) (here : Location) (path : Bytes) :
    Except Errno (Location × Node) :=
  match kernel.tree.find here path with
  | .ok (location, .slot number) =>
    match slots.get? number with
    | none => .error .noEntry
    | some handle =>
      match kernel.location? handle with
      | none => .ok (location, .slot number)
      | some location => .ok (location, (kernel.node? location).getD (.slot number))
  | found => found

/-- The contents of the file that a path leads to. -/
def readPath (kernel : Kernel) (slots : Table) (here : Location) (path : Bytes) :
    Except Errno Bytes :=
  match kernel.find slots here path with
  | .error errno => .error errno
  | .ok (_, node) =>
    if !FileTree.permits FileTree.readWay node then .error .accessDenied
    else if node = .device .terminal then .error .noDevice
    else FileTree.contents node

/-- Makes an empty pipe. -/
def makePipe (kernel : Kernel) (serial : Nat) : Except Errno Unit × Kernel :=
  (.ok (), kernel.putPipe serial .empty)

/-- Opens a file for a process, and gives its number. -/
def install (kernel : Kernel) (opening : Opening) : Nat × Kernel :=
  (kernel.nextSerial, { kernel with
    openings := Association.put kernel.nextSerial opening kernel.openings
    nextSerial := kernel.nextSerial + 1 })

/-- Makes a pipe for a process, and gives its number. -/
def installPipe (kernel : Kernel) (pipe : Pipe) : Nat × Kernel :=
  (kernel.nextSerial, { kernel.putPipe kernel.nextSerial pipe with
    nextSerial := kernel.nextSerial + 1 })

/-- Whether somebody has the file at a location open to write to it: a process, the running one
included, or whoever keeps the journal. -/
def isWritten (kernel : Kernel) (own : List Handle) (location : Location) : Bool :=
  kernel.sink = .file location ||
    (kernel.handles own).any fun
      | .file serial =>
        (Association.get? serial kernel.openings).any fun opening =>
          opening.writable && opening.location = location
      | _ => false

/-! ### Signals -/

/-- Sends a signal to a process that is not running. Tells whether there is such a process; one that
ended is still there until it was waited for. -/
def send (kernel : Kernel) (signal : Nat) (target : ProcessId) : Bool × Kernel :=
  match Association.get? target kernel.processes with
  | none => ((Association.get? target kernel.endings).isSome, kernel)
  | some standing =>
    if standing.heeds signal then (true, { kernel with mail := kernel.mail ++ [(target, signal)] })
    else (true, kernel)

/-- Takes the signals that were sent to a process. -/
def collect (kernel : Kernel) (pid : ProcessId) : List Nat × Kernel :=
  let isOwn (letter : ProcessId × Nat) : Bool := letter.1 = pid
  ((kernel.mail.filter isOwn).map Prod.snd,
    { kernel with mail := kernel.mail.filter fun letter => !isOwn letter })

/-- Takes the ending of a process. -/
def takeEnding (kernel : Kernel) (pid : ProcessId) : Option Ending × Kernel :=
  (Association.get? pid kernel.endings,
    { kernel with endings := Association.erase pid kernel.endings })

/-! ### The current directory -/

/-- Changes the current directory of the shell. -/
def changeDirectory (kernel : Kernel) (path : Bytes) : Except Errno Unit × Kernel :=
  match kernel.tree.directoryAt kernel.directory path with
  | .error errno => (.error errno, kernel)
  | .ok directory => (.ok (), { kernel with directory })

/-! ### What a session starts with -/

/-- The programs that the system brings along. -/
def programNames : List String :=
  ["cat", "echo", "env", "false", "head", "printenv", "sh", "sort", "tr", "true", "wc"]

/-- The location that an absolute path without links spells. -/
def location (path : String) : Location := (Path.ofBytes (Text.encode path)).names

/-- The directory in which a session starts. -/
def workplace : Location := location "/tmp/work"

/-- The directories that all users share, so that everybody may remove only what is theirs. -/
def sharedPlaces : List Location := ["/tmp", "/var/tmp"].map location

/-- The devices. Where any bytes will do, zeros are as good as others. -/
def devices : List (String × Device) :=
  [("/dev/null", .void), ("/dev/zero", .zeros), ("/dev/full", .full), ("/dev/random", .zeros),
    ("/dev/urandom", .zeros), ("/dev/tty", .terminal)]

/-- What the system prepares for the first program that somebody runs. -/
def profile : Bytes :=
  Text.encode ("PATH=/usr/local/sbin:/usr/local/bin:/usr/sbin:/usr/bin:/sbin:/bin\nexport PATH\n" ++
    "[ -z \"$PS1\" ] || PS1='# '\nunset i\n")

/-- The links. -/
def links : List (String × String) :=
  [("/bin", "usr/bin"), ("/lib", "usr/lib"), ("/lib64", "usr/lib64"), ("/sbin", "usr/sbin"),
    ("/dev/fd", "/proc/self/fd"), ("/dev/stdin", "/proc/self/fd/0"),
    ("/dev/stdout", "/proc/self/fd/1"), ("/dev/stderr", "/proc/self/fd/2")]

/-- How many slots of a process have a path. -/
def slotCount : Nat := 10

/-- The files that are there before a session: the usual directories, the programs, the devices, and
the slots of whoever looks. -/
def baseTree : FileTree :=
  let directories := ["/boot", "/dev", "/etc", "/home", "/media", "/mnt", "/opt", "/root", "/run",
    "/srv", "/sys", "/tmp/work", "/usr/bin", "/usr/lib", "/usr/lib64", "/usr/local/bin",
    "/usr/sbin", "/usr/share", "/var/lib", "/var/log", "/var/tmp"]
  let tree : FileTree := ⟨[]⟩
  let tree := directories.foldl (fun tree path => tree.plant (location path) .directory) tree
  let tree := links.foldl (fun tree (path, target) =>
    tree.plant (location path) (.link (Text.encode target))) tree
  let tree := (List.range slotCount).foldl (fun tree number =>
    tree.plant (location ("/proc/self/fd/" ++ toString number)) (.slot number)) tree
  let tree := tree.plant (location "/etc/profile") (.file profile 0o644)
  let tree := devices.foldl (fun tree (path, kind) =>
    tree.plant (location path) (.device kind)) tree
  programNames.foldl (fun tree name =>
    tree.plant (location "/usr/bin" ++ [Text.encode name]) (.program name)) tree

/-- The number of the first file or pipe that a process other than the shell opens. The shell counts
its own from zero. -/
def firstSerial : Nat := 0x100000000

/-- A kernel with the base files, nothing to read, and a journal that goes nowhere. -/
def new : Kernel where
  tree := baseTree
  directory := workplace
  mask := 0o022
  openings := []
  pipes := []
  nextSerial := firstSerial
  input := []
  inputOffset := 0
  outputTape := .empty
  errorsTape := .empty
  nextPid := 100
  processes := []
  mail := []
  endings := []
  forgetful := false
  threshold := .off
  sink := .nowhere

end Kernel

end PipelineShell
