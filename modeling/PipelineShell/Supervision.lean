/-
Running a pipeline.

Each stage becomes a child process. A child starts with a copy of the shell's descriptor table,
puts its own endpoints into the first two slots, closes everything that was opened for this and the
later stages, and then looks for its program. The shell closes its own copies of a stage's
descriptors as soon as the child is started, and when all are started it waits for each of them in
order. The status of the pipeline is that of its last stage; if a wait fails, the first failure is
reported instead, but the later children are waited for all the same.
-/

import PipelineShell.Interpreter
import PipelineShell.Lookup

namespace PipelineShell

/-- The name under which the shell reports. -/
def shellName : String := "tiny-pipesh"

/-- Why a pipeline cannot be run. -/
inductive ExecError where
  | emptyCommand
  | invalidArgument (text : String)
  | cannotFork (program : String) (errno : Errno)
  | cannotWait (program : String) (errno : Errno)
  deriving DecidableEq, Repr

/-- How a failed run is reported. -/
def ExecError.message : ExecError → String
  | .emptyCommand => "Empty command"
  | .invalidArgument text => "Invalid argument: " ++ text
  | .cannotFork program errno =>
    "Cannot start process for '" ++ program ++ "': " ++ errno.label
  | .cannotWait program errno => "Failed waiting for '" ++ program ++ "': " ++ errno.label

namespace Supervision

variable {σ : Type}

/-! ### Preparing a child -/

/-- What has to be ready before a child is started. -/
structure Command where
  files : List Bytes
  arguments : List Bytes
  deriving DecidableEq, Repr

/-- Prepares the command of a stage. Neither the program nor an argument may hold a zero byte; the
program is looked at first. -/
def prepare (stage : Stage) (environment : List Bytes) : Except ExecError Command :=
  let files := Lookup.candidates stage.program (Lookup.searchPath environment)
  if files.all fun file => Text.nulOffset? file = none then
    match stage.argv with
    | .ok arguments => .ok ⟨files, arguments⟩
    | .error _ => .error (.invalidArgument (String.intercalate " " stage.arguments))
  else .error (.invalidArgument stage.program)

/-- Puts what an endpoint refers to into a slot. An inherited endpoint leaves the slot alone. -/
def duplicate (table : Table) (endpoint : Endpoint) (slot : Descriptor) : Except Errno Table :=
  match endpoint with
  | .inherit => .ok table
  | .owned descriptor =>
    if descriptor = slot then .ok table
    else
      match table.get? descriptor with
      | none => .error .badDescriptor
      | some handle => .ok (table.put slot handle)

/-- Puts the endpoints of a stage into the first two slots. -/
def wire (table : Table) (stage : Stage) : Except Errno Table := do
  duplicate (← duplicate table stage.input Stream.input.slot) stage.output Stream.output.slot

/-- The descriptors that the child of a stage closes: its own and those of the stages that are
still to be started, but none of the standard slots. -/
def closing (stage : Stage) (pending : List Stage) : List Descriptor :=
  (stage.owned ++ pending.flatMap Stage.owned).filter fun descriptor =>
    Stream.errors.slot < descriptor

/-- What is left of a table when descriptors are closed. -/
def closeIn (table : Table) (descriptors : List Descriptor) : Table :=
  descriptors.foldl Table.erase table

/-- How a child reports that it cannot run its program. -/
def diagnostic (program : String) (errno : Errno) : String :=
  shellName ++ ": " ++ program ++ ": " ++ errno.description ++ "\n"

/-! ### Starting children -/

/-- The table that the child of a stage executes its program with, and why it has none if its slots
cannot be filled. -/
def childTable (table : Table) (stage : Stage) (pending : List Stage) : Option Errno × Table :=
  match wire table stage with
  | .ok wired => (none, closeIn wired (closing stage pending))
  | .error errno => (some errno, closeIn table (closing stage pending))

/-- What the child of a stage does: it executes the first file that starts, or reports and quits.
`table` is the table of the shell that starts it. -/
def runChild (system : System σ) (table : Table) (pid : ProcessId) (program : String)
    (command : Command) (environment : List Bytes) (setup : Option Errno × Table) (world : σ) : σ :=
  match setup with
  | (some errno, slots) => system.quit pid slots (diagnostic program errno) 1 world
  | (none, slots) =>
    let image : Image := ⟨slots, command.arguments, environment⟩
    match Lookup.search (fun file => system.refusal table image file world) command.files with
    | .started file => system.execute pid image file world
    | .refused errno =>
      system.quit pid slots (diagnostic program errno) (Lookup.exitCode errno) world

/-- A child that was started and not yet waited for. -/
structure Child where
  pid : ProcessId
  program : String
  deriving DecidableEq, Repr

/-- Starts the child of a stage. `pending` are the stages still to be started. -/
def spawn (system : System σ) (stage : Stage) (pending : List Stage) (environment : List Bytes)
    (shell : Interpreter σ) : Except ExecError Child × Interpreter σ :=
  match prepare stage environment with
  | .error error => (.error error, shell)
  | .ok command =>
    match system.fork shell.world with
    | (.error errno, world) => (.error (.cannotFork stage.program errno), { shell with world })
    | (.ok pid, world) =>
      let setup := childTable shell.table stage pending
      let world := runChild system shell.table pid stage.program command environment setup world
      let started : Start := ⟨pid, stage, shell.table, closing stage pending, setup.2⟩
      let shell := { shell with world }.record (.started started)
      (.ok ⟨pid, stage.program⟩,
        shell.enter system .info
          ("spawned '" ++ stage.program ++ "' as pid " ++ toString pid))

/-- Starts the stages in order, closing the shell's copies of each one's descriptors. At the first
that cannot be started, everything that is still open for it and the later ones is closed. -/
def spawnAll (system : System σ) (environment : List Bytes) :
    List Stage → List Child → Interpreter σ → Option ExecError × List Child × Interpreter σ
  | [], children, shell => (none, children, shell)
  | stage :: pending, children, shell =>
    match spawn system stage pending environment shell with
    | (.error error, shell) => (some error, children, shell.releaseAll (stage :: pending))
    | (.ok child, shell) =>
      spawnAll system environment pending (children ++ [child]) (shell.release stage)

/-! ### Waiting for children -/

/-- How the journal names a child. -/
def Child.label (child : Child) : String :=
  "'" ++ child.program ++ "' (pid " ++ toString child.pid ++ ")"

/-- The status that an ending gives: an exit code as it is, a signal counted from 128. -/
def conclude (system : System σ) (child : Child) (ending : Ending) (shell : Interpreter σ) :
    Except ExecError Int × Interpreter σ :=
  match ending with
  | .exited code =>
    (.ok code, shell.enter system .debug (child.label ++ " exited with " ++ toString code))
  | .killed signal =>
    (.ok (128 + signal.number),
      shell.enter system .debug (child.label ++ " killed by " ++ signal.name))
  | .failed errno => (.error (.cannotWait child.program errno), shell)

/-- Goes through the answers to repeated requests until one is an ending. An interruption is not,
and neither is a change that leaves the process running. -/
def settle (system : System σ) (child : Child) (last : Ending) :
    List WaitReport → Interpreter σ → Except ExecError Int × Interpreter σ
  | [], shell => conclude system child last shell
  | .changed description :: rest, shell =>
    settle system child last rest
      (shell.enter system .debug (child.label ++ ": " ++ description))
  | .ended (.failed .interrupted) :: rest, shell => settle system child last rest shell
  | .ended ending :: _, shell => conclude system child ending shell

/-- Waits for a child. -/
def await (system : System σ) (child : Child) (shell : Interpreter σ) :
    Except ExecError Int × Interpreter σ :=
  let (history, world) := system.wait child.pid shell.world
  settle system child history.last history.reports
    ({ shell with world }.record (.awaited child.pid))

/-- Waits for children in order, when `status` is that of the latest one and `failure` the first
failure so far. -/
def awaitAll (system : System σ) :
    List Child → Int → Option ExecError → Interpreter σ → Except ExecError Int × Interpreter σ
  | [], status, failure, shell =>
    match failure with
    | some error => (.error error, shell)
    | none => (.ok status, shell)
  | child :: rest, status, failure, shell =>
    match await system child shell with
    | (.ok code, shell) => awaitAll system rest code failure shell
    | (.error error, shell) =>
      awaitAll system rest status (failure.or (some error))
        (shell.enter system .error error.message)

/-! ### The whole pipeline -/

/-- The journal entry about a request for the background. -/
def foregroundNotice : String := "background execution is not supported; running in the foreground"

/-- Runs a pipeline with the exported variables and closes everything that was opened for it. An
empty program is refused before anything else is looked at, and a variable that cannot be handed
over before any child is started. -/
def run (system : System σ) (pipeline : Pipeline) (store : Variables) (shell : Interpreter σ) :
    Except ExecError Int × Interpreter σ :=
  if pipeline.stages.any fun stage => stage.program = "" then
    (.error .emptyCommand, shell.releaseAll pipeline.stages)
  else
    let shell :=
      if pipeline.background then shell.enter system .warn foregroundNotice else shell
    match store.environment with
    | .error fault =>
      (.error (.invalidArgument ("environment: " ++ fault.message)),
        shell.releaseAll pipeline.stages)
    | .ok environment =>
      let (failure, children, shell) := spawnAll system environment pipeline.stages [] shell
      let (status, shell) := awaitAll system children 0 none shell
      match failure with
      | some error => (.error error, shell)
      | none => (status, shell)

end Supervision

end PipelineShell
