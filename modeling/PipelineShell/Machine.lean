/-
A machine for the shell to run on.

The machine is a kernel with processes. A process that was started runs when the shell waits for it
or for another one. Of those that can go on, the first one does, and it goes on until it has to wait
itself; a command of a pipe comes before those that read from it. A process in the background has a
head start, after which all others come before it. The ending of a process is kept until it is
waited for, unless the machine discards endings: then waiting lets everything run to its end and
finds no child.
-/

import PipelineShell.Machine.Execution

namespace PipelineShell

/-- A process that has not ended. -/
structure Live where
  pid : ProcessId
  /-- The process that started it. -/
  parent : ProcessId
  /-- The process that the shell started and that this one descends from, or is. -/
  root : ProcessId
  /-- How often it may still go on before all others come first, if that is to happen. -/
  credit : Option Nat
  need : Need
  resume : Kernel → Thread

/-- The state of the machine. -/
structure Machine extends Kernel where
  /-- The processes that have not ended, in the order in which they are looked at. -/
  queue : List Live

namespace Machine

/-- Changes what the processes share. -/
def update (machine : Machine) (step : Kernel → Kernel) : Machine :=
  { machine with toKernel := step machine.toKernel }

/-- Changes what the processes share, and gives a value. -/
def call {α : Type} (machine : Machine) (step : Kernel → α × Kernel) : α × Machine :=
  let (value, kernel) := step machine.toKernel
  (value, { machine with toKernel := kernel })

/-- A machine without processes, on which nothing happened yet. -/
def new : Machine := ⟨.new, []⟩

/-! ### The queue -/

/-- Whether a process has not ended. -/
def isLive (machine : Machine) (pid : ProcessId) : Bool :=
  machine.queue.any fun live => live.pid = pid

/-- Puts a new process into the queue, right before the one that started it. -/
def enqueue (parent child : Live) (queue : List Live) : List Live :=
  let before := queue.takeWhile fun live => live.pid ≠ parent.pid
  before ++ child :: queue.drop before.length

/-- Notes how far a process has come. -/
def suspend (live : Live) (queue : List Live) : List Live :=
  queue.map fun other => if other.pid = live.pid then live else other

/-- Moves a process to the end of the queue. -/
def retreat (live : Live) (queue : List Live) : List Live :=
  queue.filter (fun other => other.pid ≠ live.pid) ++ [live]

/-- How often a process in the background goes on before all others come first. -/
def headStart : Nat := 1000

/-- Keeps the ending of a process, which had `handles` open, closes these, and tells the process
that started it. -/
def settle (machine : Machine) (live : Live) (handles : List Handle) (ending : Ending) :
    Machine :=
  let kernel := { machine.toKernel with
    processes := Association.erase live.pid machine.processes
    endings := Association.put live.pid ending machine.endings }
  let kernel := handles.foldl (fun kernel => kernel.release []) kernel
  { (kernel.send childSignal live.parent).2 with
    queue := machine.queue.filter fun other => other.pid ≠ live.pid }

/-! ### Running -/

/-- Lets a process go on until it has to wait, has used up its credit or ends. It had `handles` open
before. The number bounds how often it may be resumed. -/
def advance (handles : List Handle) : Nat → Live → Thread → List Live → Machine
  | 0, live, thread, queue => settle ⟨thread.kernel, queue⟩ live handles (.killed ⟨killSignal⟩)
  | steps + 1, live, thread, queue =>
    match thread with
    | .ended ending kernel => settle ⟨kernel, queue⟩ live handles ending
    | .paused standing need kernel resume =>
      let noted := { kernel with
        processes := Association.put live.pid standing kernel.processes }
      match need, live.credit with
      | .nothing, none => advance handles steps live (resume kernel) queue
      | .nothing, some (credit + 1) =>
        advance handles steps { live with credit := some credit } (resume kernel) queue
      | .nothing, some 0 => ⟨noted, retreat { live with credit := none, need, resume } queue⟩
      | _, _ => ⟨noted, suspend { live with need, resume } queue⟩
    | .forked pid behind standing child kernel resume =>
      let kernel := { kernel with
        processes := Association.put pid standing kernel.processes }
      let credit := if behind then some headStart else live.credit
      advance handles steps live (resume kernel)
        (enqueue live ⟨pid, live.pid, live.root, credit, .nothing, child⟩ queue)
    | .executing activity own file kernel refused =>
      match Execution.load kernel own activity.directory activity.allowances activity.arguments
          activity.environment file with
      | .error errno => advance handles steps live (refused errno kernel) queue
      | .ok loaded => advance handles steps live (loaded.run activity .ended kernel) queue

/-- Whether a process can go on. -/
def isReady (machine : Machine) (live : Live) : Bool :=
  match live.need with
  | .nothing => true
  | .room serial => (machine.pipe serial).hasRoom || !machine.holds [] (.readEnd serial)
  | .data serial => !(machine.pipe serial).isEmpty || !machine.holds [] (.writeEnd serial)
  | .endings pids alert =>
    (pids.all fun pid => !machine.isLive pid) ||
      (alert && machine.mail.any fun (target, _) => target = live.pid)

/-- Lets a process go on. -/
def resume (machine : Machine) (live : Live) : Machine :=
  let handles := ((Association.get? live.pid machine.processes).map Standing.handles).getD []
  let kernel := { machine.toKernel with
    processes := Association.erase live.pid machine.processes }
  advance handles Process.patience live (live.resume kernel) machine.queue

/-- Ends a process if it does not handle a signal that was sent to it. -/
def strike (machine : Machine) (pid : ProcessId) (signal : Nat) : Machine :=
  let live? := machine.queue.find? fun live => live.pid = pid
  match live?, Association.get? pid machine.processes with
  | some live, some standing =>
    if standing.caught.contains signal then
      machine.update fun kernel => { kernel with mail := kernel.mail ++ [(pid, signal)] }
    else machine.settle live standing.handles (.killed ⟨signal⟩)
  | _, _ => machine

/-- Ends the processes that do not handle the signals that were sent to them. -/
def strikeAll (machine : Machine) : Machine :=
  machine.mail.foldl (fun machine (pid, signal) => machine.strike pid signal)
    (machine.update fun kernel => { kernel with mail := [] })

/-- Lets processes go on, one after the other, for as long as one of those that are wanted can. The
number bounds how often one goes on. -/
def runWanted (wanted : Machine → Live → Bool) : Nat → Machine → Machine
  | 0, machine => machine
  | steps + 1, machine =>
    let machine := machine.strikeAll
    match machine.queue.find? fun live => wanted machine live && machine.isReady live with
    | none => machine
    | some live => runWanted wanted steps (machine.resume live)

/-- Runs processes until one of them has ended, and then what is left of those that the shell does
not wait for any more. -/
def runUntil (machine : Machine) (pid : ProcessId) : Machine :=
  runWanted (fun machine live => machine.isLive pid || !machine.isLive live.root)
    Process.patience machine

/-- Runs all processes and forgets how they ended. -/
def runOut (machine : Machine) : Machine :=
  (runWanted (fun _ _ => true) Process.patience machine).update fun kernel =>
    { kernel with endings := [] }

/-! ### Starting and waiting -/

/-- The highest number of a signal that has a name. -/
def lastSignal : Nat := Signal.names.length

/-- An ending as it can be reported: a signal without a name cannot. -/
def reportable : Ending → Ending
  | .killed signal =>
    if lastSignal < signal.number then .failed .invalidArgument else .killed signal
  | ending => ending

/-- The signals that the shell's children ignore: the one for a broken pipe. -/
def ignoredSignals : List Nat := [13]

/-- The process of the shell itself. -/
def shellProcess : ProcessId := 1

/-- Starts a process. -/
def fork (machine : Machine) : ProcessId × Machine :=
  machine.call fun kernel => (kernel.nextPid, { kernel with nextPid := kernel.nextPid + 1 })

/-- Gives a process something to do. -/
def assign (machine : Machine) (activity : Activity) (body : Process Ending) : Machine :=
  let live : Live := ⟨activity.pid, activity.parent, activity.pid, none, .nothing, body .ended⟩
  { machine with
    processes := Association.put activity.pid activity.standing machine.processes
    queue := machine.queue ++ [live] }

/-- Why the machine refuses to execute a file, if it does. The process has `own` open until then. -/
def refusal (machine : Machine) (own : List Handle) (image : Image) (file : Bytes) :
    Option Errno :=
  match Execution.load machine.toKernel own machine.directory [] image.arguments image.environment
      file with
  | .ok _ => none
  | .error errno => some errno

/-- Lets a process execute a file. -/
def execute (machine : Machine) (pid : ProcessId) (image : Image) (file : Bytes) : Machine :=
  let activity : Activity :=
    ⟨pid, shellProcess, image.slots, machine.directory, machine.mask, ignoredSignals, [],
      image.arguments, image.environment⟩
  match Execution.load machine.toKernel activity.handles machine.directory activity.allowances
      image.arguments image.environment file with
  | .ok loaded => machine.assign activity (loaded.run activity)
  | .error errno => machine.assign activity (return .exited (Lookup.exitCode errno))

/-- Lets a process write a message and end. -/
def quit (machine : Machine) (pid : ProcessId) (slots : Table) (message : String) (code : Int) :
    Machine :=
  let activity : Activity :=
    ⟨pid, shellProcess, slots, machine.directory, machine.mask, ignoredSignals, [], [], []⟩
  machine.assign activity do
    activity.say .errors message
    return .exited code

/-- What waiting answers when a process ended in some way. -/
def historyOf (ending : Ending) : WaitHistory :=
  if interrupted : ending = .failed .interrupted then
    ⟨[.ended ending], .failed .noChild, by decide⟩
  else ⟨[], ending, interrupted⟩

/-- Waits for a process. -/
def wait (machine : Machine) (pid : ProcessId) : WaitHistory × Machine :=
  if machine.forgetful then (historyOf (.failed .noChild), machine.runOut)
  else
    let (ending, machine) := (machine.runUntil pid).call fun kernel => kernel.takeEnding pid
    (historyOf (reportable (ending.getD (.failed .noChild))), machine)

/-- The machine as a system. -/
def system : System Machine where
  openFile path truncate serial machine :=
    machine.call fun kernel => kernel.openFile path truncate serial
  makePipe serial machine := machine.call fun kernel => kernel.makePipe serial
  fork machine :=
    let (pid, machine) := machine.fork
    (.ok pid, machine)
  refusal table image file machine :=
    machine.refusal (image.slots.handles ++ table.handles) image file
  execute pid image file machine := machine.execute pid image file
  quit pid slots message code machine := machine.quit pid slots message code
  wait pid machine := machine.wait pid
  changeDirectory path machine := machine.call fun kernel => kernel.changeDirectory path
  input machine := machine.input.drop machine.inputOffset
  skipInput count machine :=
    machine.update fun kernel => { kernel with inputOffset := kernel.inputOffset + count }
  write stream text machine :=
    machine.update fun kernel => kernel.deliver (.inherited stream) (Text.encode text)
  enter entry machine := machine.update fun kernel => kernel.enter entry

end Machine

end PipelineShell
