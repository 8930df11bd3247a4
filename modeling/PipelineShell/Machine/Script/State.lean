/-
The state of a running script.

A script runs in a process that may start others. What belongs to one process is its context; a
process that is started gets a copy of the context of the one that starts it, and what happens to
the copy is forgotten when it ends. The steps of a script are steps of its process, so it shares the
kernel with all others and waits where they have to go on first.
-/

import PipelineShell.Machine.Script.Arithmetic
import PipelineShell.Machine.Script.Reader
import PipelineShell.Machine.Tool

namespace PipelineShell.Script

/-- A variable: its value, if it has one, whether programs see it, and whether it is fixed. -/
structure Binding where
  value : Option Characters
  exported : Bool
  fixed : Bool

/-- Something that a function changes for itself, with what it was before. -/
inductive Local where
  | binding (name : Characters) (before : Option Binding)
  | settings (before : List String)

/-- Where a program was found. -/
structure Finding where
  /-- The number of its directory in the search path. -/
  position : Nat
  /-- Whether the directory of the process was changed since then. -/
  stale : Bool
  deriving DecidableEq, Repr

/-- How far statements are skipped. -/
inductive Skip where
  | nothing
  | breaking (levels : Nat)
  | continuing (levels : Nat)
  /-- Up to the end of the function or file, with a status that was given or not. -/
  | returning (given : Bool)
  deriving DecidableEq, Repr

/-- What belongs to one process. -/
structure Context where
  activity : Activity
  /-- What else the process has open: what redirected slots will refer to again, and the outputs
  that it is reading. -/
  saved : List Handle
  /-- The process that the script was started in. -/
  root : ProcessId
  /-- The name of the script. -/
  name : Characters
  /-- The path of the directory, as it is known. -/
  directory : Characters
  /-- The path of the directory without links, if it was asked for since the last change. -/
  physical : Option Characters
  parameters : List Characters
  /-- Which parameter is looked at next for options. -/
  optionIndex : Nat
  /-- Where in a word of options the next one is. -/
  optionOffset : Option Nat
  store : List (Characters × Binding)
  /-- What the functions that are running keep for themselves, the innermost first. -/
  frames : List (List Local)
  functions : List (Characters × Nat × Statement)
  aliases : List (Characters × Characters)
  /-- The programs that were found. -/
  found : List (Characters × Finding)
  /-- What is done when a signal arrives; the number zero stands for the end. -/
  traps : List (Nat × Characters)
  /-- The signals that arrived and were not handled yet. -/
  arrived : List Nat
  /-- Whether they have to be looked at. -/
  alerted : Bool
  /-- The status before the handling of a signal. -/
  heldStatus : Option Nat
  /-- The names of the options that are set. -/
  settings : List String
  /-- The status of the last command. -/
  status : Nat
  /-- The status of the last script whose output was taken. -/
  outputStatus : Nat
  /-- The line that messages name. -/
  line : Nat
  /-- The line that reading has come to, in whatever is read now. -/
  reached : Nat
  /-- The line that reading has come to in the script itself. -/
  scriptReached : Nat
  /-- The file that the script is in. If there is none, it is the input. -/
  scriptFile : Option Handle
  /-- The command that messages name. -/
  command : Option Characters
  documents : List (Nat × Document)
  nextDocument : Nat
  /-- How many loops are running. -/
  loops : Nat
  /-- How many functions are running. -/
  calls : Nat
  skip : Skip
  /-- The process that was started last in the background. -/
  latest : Option ProcessId

/-- A job in the background, known by the last of its processes. -/
structure Job where
  /-- Its number among the jobs. -/
  number : Nat
  pid : ProcessId
  /-- Its processes. -/
  members : List ProcessId
  /-- How they ended, once all of them did. -/
  endings : List Ending
  /-- Whether it was waited for. -/
  waited : Bool

/-- Whether a job is over. -/
def Job.isOver (job : Job) : Bool := !job.endings.isEmpty

/-- The state of a running script. -/
structure State where
  context : Context
  jobs : List Job
  /-- What a command wrote to its output and did not deliver yet. -/
  held : Characters

/-- Why statements are not carried out any further. -/
inductive Stop where
  /-- The script asks for its end. -/
  | exit
  /-- The script is at its end. -/
  | finish
  /-- Something failed. -/
  | failure
  /-- The process is over. -/
  | ended (ending : Ending)
  /-- The bound on the number of steps is reached. -/
  | exhausted
  deriving DecidableEq, Repr

/-- A step of a running script. What was changed before a stop stays changed. -/
abbrev Running := ExceptT Stop (StateT State Process)

namespace Context

/-- The signals that the process ignores. -/
def ignored (context : Context) : List Nat :=
  context.activity.ignored ++ context.traps.filterMap fun (signal, action) =>
    if action.isEmpty && signal ≠ 0 then some signal else none

/-- The signals that the process handles itself. -/
def caught (context : Context) : List Nat :=
  context.traps.filterMap fun (signal, action) =>
    if action.isEmpty || signal = 0 || signal = killSignal then none else some signal

/-- What the kernel knows of the process while it waits. -/
def standing (context : Context) : Standing :=
  ⟨context.activity.handles ++ context.saved, context.ignored, context.caught,
    context.activity.allowances.fileSize⟩

end Context

namespace Running

/-- The context. -/
def context : Running Context := return (← get).context

/-- Changes the context. -/
def change (step : Context → Context) : Running Unit :=
  modify fun state => { state with context := step state.context }

/-- Sets the status of the last command. -/
def setStatus (status : Nat) : Running Unit :=
  change fun context => { context with status }

/-- Carries out a step and tells how it stopped, if it did. -/
def attempt {α : Type} (step : Running α) : Running (Except Stop α) := ExceptT.lift step.run

/-- Goes on with the outcome of an attempt. -/
def resume {α : Type} (outcome : Except Stop α) : Running α :=
  match outcome with
  | .ok value => return value
  | .error stop => throw stop

/-- Waits until a need is met. -/
def pause (need : Need) : Running Unit := do
  Process.pause (← context).standing need

/-- Notes that a signal arrived which the process handles itself. -/
def note (signal : Nat) : Running Unit :=
  change fun context => { context with
    arrived := context.arrived.insert signal
    alerted := true }

/-! ### Writing -/

/-- Writes to a stream among slots, or tells why that is not possible. A file that would become too
large comes with a signal, which may be handled. -/
def writeTo (slots : Table) (stream : Stream) (text : Characters) :
    Running (Except Errno Unit) := do
  match slots.get? stream.slot with
  | none => return .error .badDescriptor
  | some handle =>
    let standing := (← context).standing
    match ← Process.write standing handle (Tool.ofCharacters text) with
    | .ok _ => return .ok ()
    | .error errno =>
      if errno = .fileTooLarge ∧ standing.caught.contains sizeSignal then
        note sizeSignal
      return .error errno

/-- Writes to a stream, as far as possible. -/
def print (stream : Stream) (text : Characters) : Running Unit := do
  let _ ← writeTo (← context).activity.slots stream text

/-- Adds to what a command will write to its output. -/
def emit (text : Characters) : Running Unit :=
  modify fun state => { state with held := state.held ++ text }

/-- Adds a line to what a command will write to its output. -/
def emitLine (text : Characters) : Running Unit := emit (text ++ ['\n'])

/-- Delivers what a command wrote to its output. Tells whether that was possible. -/
def deliverHeld : Running Bool := do
  let state ← get
  match state.held with
  | [] => return true
  | text =>
    set { state with held := [] }
    match ← writeTo state.context.activity.slots .output text with
    | .ok _ => return true
    | .error _ => return false

/-- Writes a message: after the name of the script, the line, and the command that is running. -/
def warn (message : Characters) : Running Unit := do
  let context ← context
  let place := context.name ++ ": ".toList ++ Arithmetic.decimal context.line ++ ": ".toList
  let command := match context.command with
    | some command => command ++ ": ".toList
    | none => []
  print .errors (place ++ command ++ message ++ ['\n'])

/-- Writes a message and stops with a status. -/
def failWith {α : Type} (status : Nat) (message : Characters) : Running α := do
  setStatus status
  warn message
  let _ ← deliverHeld
  throw .failure

/-- Writes a message and stops. -/
def fail {α : Type} (message : Characters) : Running α := failWith 2 message

/-- Stops with a message about a number. -/
def badNumber {α : Type} (text : Characters) : Running α :=
  fail ("Illegal number: ".toList ++ text)

/-- The numbers from which on one is too large. -/
def naturalBound : Int := 0x80000000

/-- A text as a number that is not negative. -/
def natural (text : Characters) : Running Nat :=
  match Arithmetic.number? true text with
  | some number =>
    if 0 ≤ number ∧ number < naturalBound then return number.toNat else badNumber text
  | none => badNumber text

/-! ### Options -/

/-- Whether an option is set. -/
def isSet (option : String) : Running Bool := return (← context).settings.contains option

end Running

/-! ### Variables -/

/-- The search path of a script that has none. -/
def defaultPath : Characters :=
  "/usr/local/sbin:/usr/local/bin:/usr/sbin:/usr/bin:/sbin:/bin".toList

/-- Variables that are always there, though not always with a value. -/
def standardNames : List String :=
  ["OPTIND", "PS4", "PS2", "PS1", "PATH", "MAILPATH", "MAIL", "IFS"]

/-- White characters, which separate words unless something else is said. -/
def defaultSeparators : Characters := [' ', '\t', '\n']

namespace Context

/-- The value of a variable. -/
def value? (context : Context) (name : Characters) : Option Characters :=
  (Association.get? name context.store).bind Binding.value

/-- The characters that separate words. -/
def separators (context : Context) : Characters :=
  (context.value? "IFS".toList).getD defaultSeparators

/-- Where an entry stands among those that programs see: entries are grouped by this number. -/
def group (name : Characters) : Nat :=
  let first := (name.headD (Char.ofNat 0)).toNat
  (name.foldl (fun sum character => sum + character.toNat) (first * 16)) % 32768 % 39

/-- The entries that programs started by the script receive. -/
def environment (context : Context) : List Bytes :=
  let entries := context.store.filterMap fun (name, binding) =>
    match binding.value with
    | some value =>
      if binding.exported then some (group name, Tool.ofCharacters (name ++ '=' :: value))
      else none
    | none => none
  (entries.mergeSort fun first second => first.1 ≤ second.1).map Prod.snd

end Context

namespace Running

/-- The value of a variable. -/
def value? (name : Characters) : Running (Option Characters) :=
  return (← context).value? name

/-- Stops with a message about a name that is none. -/
def badName {α : Type} (name : Characters) : Running α :=
  fail (name ++ ": bad variable name".toList)

/-- What changing a variable does besides: the search for options starts again at the parameter that
is named by its number, and programs that were found are looked for again. -/
def noticeChange (name : Characters) (value : Option Characters) : Running Unit := do
  if name = "OPTIND".toList then
    let index ← natural (value.getD [])
    change fun context => { context with
      optionIndex := if index = 0 then 1 else index
      optionOffset := none }
  else if name = "PATH".toList then change fun context => { context with found := [] }

/-- Puts a variable into the store, unless it is fixed. -/
def bind (name : Characters) (value : Option Characters) (exported fixed : Bool) :
    Running Unit := do
  let context ← context
  let old := Association.get? name context.store
  if old.any Binding.fixed then fail (name ++ ": is read only".toList)
  noticeChange name value
  let exported := exported || old.any Binding.exported || context.settings.contains "allexport"
  change fun context => { context with
    store := Association.put name ⟨value, exported, fixed⟩ context.store }

/-- The name at the front of a word, which an equals sign ends. -/
def nameOf (word : Characters) : Running Characters :=
  let name := word.takeWhile (· ≠ '=')
  if isName name then return name else badName name

/-- Gives the variable that a word names a value. -/
def assign (word value : Characters) : Running Unit := do
  bind (← nameOf word) (some value) false false

/-- Removes the variable that a word names. One that is always there, or that a function keeps for
itself, only loses its value. -/
def unset (word : Characters) : Running Unit := do
  let name ← nameOf word
  let context ← context
  match Association.get? name context.store with
  | none => return
  | some binding =>
    if binding.fixed then fail (name ++ ": is read only".toList)
    noticeChange name none
    let isLocal := context.frames.any fun frame => frame.any fun change =>
      match change with
      | .binding other _ => other = name
      | .settings _ => false
    let store := if isLocal || standardNames.contains (String.ofList name) then
        Association.put name ⟨none, binding.exported, false⟩ context.store
      else Association.erase name context.store
    change fun context => { context with store }

/-- Lets the innermost function have a variable for itself, with a new value if one is given. The
name is not looked at if there is a value. -/
def localize (name : Characters) (value : Option Characters) (exported : Bool) :
    Running Unit := do
  let context ← context
  let old := Association.get? name context.store
  let remember : Running Unit := change fun context => { context with
    frames := match context.frames with
      | frame :: frames => (.binding name old :: frame) :: frames
      | [] => [] }
  match value, old with
  | some value, _ =>
    bind name (some value) exported false
    remember
  | none, none =>
    bind (← nameOf name) none exported false
    remember
  | none, some _ => remember

/-- Starts a frame of local variables. -/
def enterFrame : Running Unit :=
  change fun context => { context with frames := [] :: context.frames }

/-- Takes back one local change. -/
def restoreLocal : Local → Running Unit
  | .settings before => change fun context => { context with settings := before }
  | .binding word none => do
    let name ← nameOf word
    noticeChange name none
    change fun context => { context with store := Association.erase name context.store }
  | .binding name (some before) => do
    noticeChange name before.value
    change fun context => { context with store := Association.put name before context.store }

/-- Ends the innermost frames of local variables, until there are no more than some number. -/
def leaveFrames (depth : Nat) : Running Unit := do
  let frames := (← context).frames
  let left := frames.take (frames.length - depth)
  change fun context => { context with frames := frames.drop (frames.length - depth) }
  left.forM fun frame => frame.forM restoreLocal

end Running

end PipelineShell.Script
