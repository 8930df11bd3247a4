/-
Processes of a script.

A script starts processes for subshells, for the commands of a pipe, for scripts whose output it
takes, and in the background. Each works on a copy of the context. The script waits for its
processes unless they are in the background, and lets signals arrive when it goes on.
-/

import PipelineShell.Machine.Script.State

namespace PipelineShell.Script

/-- How a statement is carried out. -/
structure Manner where
  /-- Whether its status is looked at, so that a failure does not end the script. -/
  tested : Bool
  /-- Whether the process ends with it. -/
  last : Bool

namespace Manner

/-- The usual manner. -/
def plain : Manner := ⟨false, false⟩

/-- The manner of a condition. -/
def condition : Manner := ⟨true, false⟩

/-- The manner of a part that something follows. -/
def inner (manner : Manner) : Manner := ⟨manner.tested, false⟩

end Manner

/-- What carries out statements. -/
structure Engine where
  run : Manner → Statement → Running Unit

/-- Where more of a script comes from. -/
inductive Supply where
  | nothing
  /-- Whatever is the input of the process by then. -/
  | input
  | file (handle : Handle)
  deriving DecidableEq, Repr

/-- How much of a script is read at once. -/
def blockSize : Nat := 8192

/-! ### Signals -/

/-- What a process that a signal ended is reported as. -/
def signalTexts : List String :=
  ["Hangup", "Interrupt", "Quit", "Illegal instruction", "Trace/breakpoint trap", "Aborted",
    "Bus error", "Floating point exception", "Killed", "User defined signal 1",
    "Segmentation fault", "User defined signal 2", "Broken pipe", "Alarm clock", "Terminated",
    "Stack fault", "Child exited", "Continued", "Stopped (signal)", "Stopped",
    "Stopped (tty input)", "Stopped (tty output)", "Urgent I/O condition",
    "CPU time limit exceeded", "File size limit exceeded", "Virtual timer expired",
    "Profiling timer expired", "Window changed", "I/O possible", "Power failure",
    "Bad system call"]

/-- The report about a signal. -/
def signalText (number : Nat) : String :=
  match signalTexts[number - 1]? with
  | some text => text
  | none =>
    if 34 ≤ number then "Real-time signal " ++ toString (number - 34)
    else "Unknown signal " ++ toString number

namespace Running

/-- Lets a signal arrive at the process that is running. -/
def accept (signal : Nat) : Running Unit := do
  let standing := (← context).standing
  if standing.heeds signal then
    if standing.caught.contains signal then note signal
    else throw (.ended (.killed ⟨signal⟩))

/-- Lets the signals arrive that other processes sent to the one that is running. -/
def openMail : Running Unit := do
  let pid := (← context).activity.pid
  let signals ← Process.call fun kernel => kernel.collect pid
  signals.forM accept

/-- Sends a signal to a process. Tells whether there is such a process. -/
def send (signal : Nat) (target : ProcessId) : Running Bool := do
  if target = (← context).activity.pid then
    accept signal
    return true
  else Process.call fun kernel => kernel.send signal target

/-! ### Texts -/

/-- A text as a source to read statements from. -/
def sourceOf (text : Characters) : Running Source := do
  let context ← context
  return { input := [], beyond := text.filter (· ≠ Char.ofNat 0), continues := true, line := 1,
           pushed := none, requests := [], documents := [], nextDocument := context.nextDocument,
           aliases := context.aliases, substitutions := [] }

/-- Echoes what was read from a file, if that is asked for. -/
def echoRead (supply : Supply) (before after : Characters) : Running Unit := do
  if supply ≠ .nothing && (← isSet "verbose") then
    print .errors (before.take (before.length - after.length))

/-- Reads the next block of a script. -/
def readBlock (supply : Supply) : Running Bytes := do
  let context ← context
  let handle? := match supply with
    | .nothing => none
    | .input => context.activity.slots.get? Stream.input.slot
    | .file handle => some handle
  match handle? with
  | none => return []
  | some handle =>
    match ← Process.read context.standing handle blockSize with
    | .ok bytes => return bytes
    | .error _ => return []

/-- Looks at more lines of a script, and reads the next block of it if nothing else is known. -/
def feed (supply : Supply) (lines : Nat) (source : Source) : Running Source := do
  if source.beyond.isEmpty then
    let bytes ← readBlock supply
    let text := (Tool.characters bytes).filter (· ≠ Char.ofNat 0)
    return { source with beyond := text, continues := !bytes.isEmpty }.extend lines
  else return source.extend lines

/-- Reads the next line of a source, and gives the rest of the source. `prompt` is told over how
many lines of text it goes. If more has to be looked at, it is twice as many lines each time. The
number bounds how often. -/
def readNext (supply : Supply) (prompt : Nat → Running Unit) :
    Nat → (lines : Nat) → Source → Running (Line × Source)
  | 0, _, _ => throw .exhausted
  | steps + 1, lines, source => do
    match readLine.run source with
    | .error .starved => readNext supply prompt steps (2 * lines) (← feed supply lines source)
    | .error (.malformed line message) =>
      prompt (line - source.line + 1)
      echoRead supply source.input []
      change fun context => { context with line }
      fail message.toList
    | .ok (line, after) =>
      prompt (max 1 (after.line - source.line))
      echoRead supply source.input after.input
      change fun context => { context with
        documents := after.documents ++ context.documents
        nextDocument := after.nextDocument }
      return (line, after)

/-- Reads the next line of a source, with the short names that are known by now. A script that was
at its end may have grown. -/
def nextLine (supply : Supply) (prompt : Nat → Running Unit) (source : Source) :
    Running (Line × Source) := do
  let context ← context
  readNext supply prompt Process.patience 1 { source with
    continues := true
    aliases := context.aliases, documents := [], nextDocument := context.nextDocument }

/-- Runs the lines of a source and gives the status of the last one. The number bounds how many
there may be. -/
def runLines (engine : Engine) (manner : Manner) (supply : Supply) (prompt : Nat → Running Unit) :
    Nat → Source → (status : Nat) → Running Nat
  | 0, _, status => return status
  | steps + 1, source, status => do
    pause .nothing
    let (line, source) ← nextLine supply prompt source
    change fun context =>
      let isScript := supply = .input || context.scriptFile.any (supply = .file ·)
      { context with
        reached := source.line
        scriptReached := if isScript then source.line else context.scriptReached }
    match line with
    | .finished => return status
    | .empty => runLines engine manner supply prompt steps source status
    | .statement statement =>
      engine.run manner.inner statement
      let context ← context
      if context.skip = .nothing then
        runLines engine manner supply prompt steps source context.status
      else return context.status

/-- Runs the lines of a source and gives the status of the last one. Reading then goes on where it
was before. -/
def runSource (engine : Engine) (manner : Manner) (supply : Supply) (prompt : Nat → Running Unit)
    (source : Source) : Running Nat := do
  let reached := (← context).reached
  let status ← runLines engine manner supply prompt Process.patience source 0
  change fun context => { context with reached }
  return status

/-- Runs a text and gives the status of its last line. -/
def runText (engine : Engine) (manner : Manner) (text : Characters) : Running Nat := do
  runSource engine manner .nothing (fun _ => return) (← sourceOf text)

/-- Runs a script that is read piece by piece, and gives the status of its last line. -/
def runSupply (engine : Engine) (supply : Supply) (prompt : Nat → Running Unit) : Running Nat := do
  runSource engine .plain supply prompt (← sourceOf [])

/-- Runs what is to be done about those of some signals that still wait for it. Once statements are
skipped, the rest is left for later. The status is `status` again after each. -/
def handleEach (engine : Engine) (status : Nat) : List Nat → Running Unit
  | [] => return
  | signal :: rest => do
    let context ← context
    if !context.arrived.contains signal then handleEach engine status rest
    else if context.skip ≠ .nothing then
      change fun context => { context with alerted := true }
    else
      change fun context => { context with arrived := context.arrived.erase signal }
      if let some action := Association.get? signal context.traps then
        let _ ← runText engine .plain action
        if (← Running.context).skip ≠ .returning true then setStatus status
      handleEach engine status rest

/-- Runs what is to be done about the signals that arrived, in the order of their numbers. -/
def handleSignals (engine : Engine) : Running Unit := do
  let context ← context
  if context.alerted then
    let status := context.heldStatus.getD context.status
    change fun context => { context with alerted := false, heldStatus := some status }
    handleEach engine status (context.arrived.mergeSort fun first second => first ≤ second)
    change fun inner => { inner with heldStatus := context.heldStatus }

/-! ### Starting and ending processes -/

/-- Makes a pipe and gives its number. It takes two slots, besides those in use and some that are
`held` for other pipes. -/
def newPipe (held : Nat) : Running Nat := do
  if !(← context).activity.mayOpen (held + 2) then fail "Pipe call failed".toList
  Process.call fun kernel => kernel.installPipe .empty

/-- The status that an ending gives. -/
def statusOf : Ending → Nat
  | .exited code => (code % 256).toNat
  | .killed signal => 128 + signal.number
  | .failed _ => 127

/-- Reports a process that a signal ended. -/
def report (ending : Ending) : Running Unit := do
  match ending with
  | .killed signal =>
    if signal.number ≠ 2 && signal.number ≠ 13 then
      print .errors ((signalText signal.number).toList ++ ['\n'])
  | _ => return

end Running

/-- Whether anything is to be done about a signal or at the end. -/
def Context.hasTraps (context : Context) : Bool :=
  context.traps.any fun (_, action) => !action.isEmpty

/-- The context of a process that is started. What is to be done about signals is not passed on,
but signals that are ignored stay so. Of what is being read only the script itself is left. -/
def Context.forked (context : Context) (pid : ProcessId) : Context :=
  { context with
    activity := { context.activity with pid, parent := context.activity.pid }
    reached := context.scriptReached
    traps := context.traps.filter fun (_, action) => action.isEmpty
    arrived := []
    alerted := false
    heldStatus := none }

/-- What a program that is started sees of the context. -/
def Context.launched (context : Context) (arguments : List Characters) : Activity :=
  { context.activity with
    arguments := arguments.map Tool.ofCharacters
    environment := context.environment
    ignored := context.ignored }

namespace Running

/-- Does what is to be done at the end of a process, and gives its ending. A stop within that ends
it. -/
def conclude (engine : Engine) (outcome : Except Stop Unit) : Running Ending := do
  match outcome with
  | .error (.ended ending) => return ending
  | .error .exhausted => throw .exhausted
  | _ =>
    let context ← context
    match Association.get? 0 context.traps with
    | none => return .exited (context.status % 256 : Nat)
    | some action =>
      let status := context.status
      change fun context => { context with
        traps := Association.erase 0 context.traps
        skip := .nothing
        heldStatus := some status }
      match ← attempt (runText engine .plain action) with
      | .error (.ended ending) => return ending
      | .error .exhausted => throw .exhausted
      | .error _ => return .exited ((← Running.context).status % 256 : Nat)
      | .ok _ => return .exited (status % 256 : Nat)

/-- How a process ends when a bound is reached: the signal for memory that is not there. -/
def exhaustion : Ending := .killed ⟨11⟩

/-- Carries out the steps of a process in a context, and gives its ending. -/
def asProcess (engine : Engine) (context : Context) (body : Running Unit) : Process Ending := do
  let whole : Running Ending := do conclude engine (← attempt body)
  let (result, _) ← whole.run.run ⟨context, [], []⟩
  match result with
  | .ok ending => return ending
  | .error _ => return exhaustion

/-- Starts a process on a copy of the context that is adjusted first. -/
def fork (engine : Engine) (behind : Bool) (adjust : Context → Context) (body : Running Unit) :
    Running ProcessId := do
  let context ← context
  let inside (pid : ProcessId) : Context := adjust (context.forked pid)
  Process.fork behind (inside 0).standing fun pid => asProcess engine (inside pid) body

/-- Notes which jobs are over. -/
def reapJobs : Running Unit := do
  for job in (← get).jobs do
    let endings := (← Process.kernel).endings
    let found := job.members.filterMap fun pid => Association.get? pid endings
    if !job.isOver && found.length = job.members.length then
      job.members.forM fun pid => do
        let _ ← Process.call fun kernel => kernel.takeEnding pid
      let ended : Job := { job with endings := found }
      modify fun state => { state with
        jobs := state.jobs.map fun (other : Job) => if other.pid = job.pid then ended else other }

/-- Waits until processes are over, or until a signal arrives if `alert` is set. -/
def await (pids : List ProcessId) (alert : Bool) : Running Unit := do
  pause (.endings pids alert)
  openMail
  reapJobs

/-- How a process that is over ended. -/
def takeEnding (pid : ProcessId) : Running Ending := do
  return (← Process.call fun kernel => kernel.takeEnding pid).getD (.failed .noChild)

/-- Gives a slot to a handle. -/
def connect (slot : Descriptor) (handle : Handle) (context : Context) : Context :=
  { context with activity := { context.activity with
      slots := context.activity.slots.put slot handle } }

/-- Closes a slot. -/
def disconnect (slot : Descriptor) (context : Context) : Context :=
  { context with activity := { context.activity with
      slots := context.activity.slots.erase slot } }

/-- Starts commands, each reading what the one before it writes. `prepare` is done before a command
is started, and `input` is the pipe that the first one reads from, if there is one. -/
def startPiped (engine : Engine) (behind tested : Bool) (adjust : Context → Context)
    (prepare : Statement → Running Unit) : Option Nat → List Statement → Running (List ProcessId)
  | _, [] => return []
  | input, command :: rest => do
    prepare command
    let held := if input.isSome then 1 else 0
    let output ← if rest.isEmpty then pure none else some <$> newPipe held
    let inside (context : Context) : Context :=
      let context := match input with
        | some serial => connect 0 (.readEnd serial) (adjust context)
        | none => adjust context
      match output with
      | some serial => connect 1 (.writeEnd serial) context
      | none => context
    let pid ← fork engine behind inside (engine.run ⟨tested, true⟩ command)
    return pid :: (← startPiped engine behind tested adjust prepare output rest)

/-- Runs a process to its end, on a copy of the context. -/
def runProcess (engine : Engine) (body : Running Unit) : Running Ending := do
  let pid ← fork engine false id body
  await [pid] false
  takeEnding pid

/-! ### Jobs -/

/-- An opening of the device that keeps nothing, for processes in the background. -/
def emptyInput : Running Nat :=
  Process.call fun kernel => kernel.install ⟨Kernel.location "/dev/null", 0, false, true, false⟩

/-- Forgets a job. -/
def forgetJob (job : Job) : Running Unit :=
  modify fun state => { state with
    jobs := state.jobs.filter fun (other : Job) => other.number ≠ job.number }

/-- Claims the first number that no job has any more. A job that is over and was waited for gives
its number away and is forgotten. -/
def claimJobNumber : Running Nat := do
  let jobs := (← get).jobs
  let holder? (number : Nat) : Option Job := jobs.find? fun (job : Job) => job.number = number
  let isFree (number : Nat) : Bool := (holder? number).all fun job => job.waited && job.isOver
  let number := ((List.range' 1 jobs.length).find? isFree).getD (jobs.length + 1)
  (holder? number).forM forgetJob
  return number

/-- The signals that processes in the background ignore: those from a keyboard. -/
def keyboardSignals : List Nat := [2, 3]

/-- Starts a job in the background. `start` starts its processes on contexts that are adjusted. -/
def startJob (start : (Context → Context) → Running (List ProcessId)) : Running Unit := do
  let number ← claimJobNumber
  let input ← emptyInput
  let adjust (context : Context) : Context :=
    let context := connect 0 (.file input) context
    { context with activity := { context.activity with
        ignored := keyboardSignals ++ context.activity.ignored } }
  let members ← start adjust
  let pid := members.getLast?.getD 0
  modify fun state => { state with
    jobs := state.jobs ++ [⟨number, pid, members, [], false⟩]
    context := { state.context with latest := some pid } }

/-- Runs a script and takes its output, without the line ends behind it. -/
def capture (engine : Engine) (script : Option Statement) : Running Characters := do
  match script with
  | none => return []
  | some statement =>
    let serial ← newPipe 0
    let _ ← claimJobNumber
    let saved := (← context).saved
    let pid ← fork engine false (connect 1 (.writeEnd serial)) (engine.run ⟨false, true⟩ statement)
    change fun context => { context with saved := .readEnd serial :: saved }
    let output ← Process.readAll (← context).standing (.readEnd serial) Tool.readingSize
    change fun context => { context with saved }
    let own := (← context).standing.handles
    Process.change fun kernel => kernel.release own (.readEnd serial)
    await [pid] false
    let ending ← takeEnding pid
    report ending
    change fun context => { context with outputStatus := statusOf ending }
    let written := match output with
      | .ok bytes => (Tool.characters bytes).filter (· ≠ Char.ofNat 0)
      | .error _ => []
    return (written.reverse.dropWhile (· = '\n')).reverse

end Running

end PipelineShell.Script
