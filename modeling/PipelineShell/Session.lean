/-
Sessions: what the shell does with a line, and with all the lines of its input.

A line is cut into words and its variables are expanded. What the line is depends on its first
word: an assignment, a command of the shell itself, or else the start of a pipeline. Whatever goes
wrong with a line is reported, and the session goes on with the next one; only `exit`, the end of
the input and input that is not text end it. The input is read in blocks, and programs that the
shell runs may take what it has not read yet.
-/

import PipelineShell.Builtin
import PipelineShell.Construction
import PipelineShell.Expansion
import PipelineShell.Supervision
import PipelineShell.Words

namespace PipelineShell

/-- What became of a line. -/
inductive Outcome where
  | empty
  | assigned
  | builtin (code : Int)
  | executed (code : Int)
  | exit (code : Int)
  deriving DecidableEq, Repr

/-- An outcome as the journal shows it. -/
def Outcome.label : Outcome → String
  | .empty => "Empty"
  | .assigned => "Assigned"
  | .builtin code => "Builtin(" ++ toString code ++ ")"
  | .executed code => "Executed(" ++ toString code ++ ")"
  | .exit code => "Exit(" ++ toString code ++ ")"

/-- What is wrong with a line. -/
inductive LineError where
  | expansion (error : UndefinedVariable)
  | construction (error : BuildError)
  | execution (error : ExecError)
  deriving DecidableEq, Repr

/-- How a failed line is reported. -/
def LineError.message : LineError → String
  | .expansion error => error.message
  | .construction error => "Parsing error: " ++ error.message
  | .execution error => "Execution error: " ++ error.message

/-- What runs a pipeline. It gets the variables, and it has to close what the pipeline owns. -/
abbrev Executor (σ : Type) :=
  Pipeline → Variables → Interpreter σ → Except ExecError Int × Interpreter σ

/-- A session: its variables and the shell's process. -/
structure Session (σ : Type) where
  store : Variables
  shell : Interpreter σ

namespace Session

variable {σ : Type}

/-- Enters something in the journal. -/
def enter (session : Session σ) (system : System σ) (level : Level) (message : String) :
    Session σ :=
  { session with shell := session.shell.enter system level message }

/-- Writes to one of the shell's own streams. -/
def write (session : Session σ) (system : System σ) (stream : Stream) (text : String) :
    Session σ :=
  { session with shell := session.shell.write system stream text }

/-- Carries out an assignment. The words after it are ignored. -/
def assign (system : System σ) (word : String) (changed : Variables) (rest : List String)
    (session : Session σ) : Session σ :=
  let session :=
    if rest = [] then session
    else
      session.enter system .warn
        ("ignoring " ++ toString rest.length ++ " token(s) after assignment '" ++ word ++ "'")
  { session with store := changed }

/-- Carries out a command of the shell itself. Its arguments end at the first operator. -/
def runBuiltin (system : System σ) (builtin : Builtin) (rest : List String) (session : Session σ) :
    Outcome × Session σ :=
  let arguments := rest.takeWhile fun word => !isOperator word
  let (status, shell) := builtin.run system arguments session.store session.shell
  let session := { session with shell }
  let session :=
    if arguments.length < rest.length then
      session.enter system .warn
        ("pipes and redirections are ignored for builtin '" ++ builtin.name ++ "'")
    else session
  match status with
  | .exit code => (.exit code, session)
  | .proceed code => (.builtin code, session)

/-- Builds a pipeline and has it run. -/
def runPipeline (system : System σ) (executor : Executor σ) (mode : OutputMode)
    (words : List String) (session : Session σ) : Except LineError Outcome × Session σ :=
  match Construction.build system mode words session.shell with
  | (.error error, shell) => (.error (.construction error), { session with shell })
  | (.ok pipeline, shell) =>
    match executor pipeline session.store (shell.record (.handed pipeline)) with
    | (.error error, shell) => (.error (.execution error), { session with shell })
    | (.ok code, shell) => (.ok (.executed code), { session with shell })

/-- Carries out a line whose words are already expanded. -/
def runWords (system : System σ) (executor : Executor σ) (mode : OutputMode)
    (words : List String) (session : Session σ) : Except LineError Outcome × Session σ :=
  match words with
  | [] => (.ok .empty, session)
  | first :: rest =>
    match session.store.assign? first with
    | some changed => (.ok .assigned, assign system first changed rest session)
    | none =>
      match Builtin.ofName? first with
      | some builtin =>
        let (outcome, session) := runBuiltin system builtin rest session
        (.ok outcome, session)
      | none => runPipeline system executor mode words session

/-- Carries out a line. -/
def runLine (system : System σ) (executor : Executor σ) (mode : OutputMode) (line : String)
    (session : Session σ) : Except LineError Outcome × Session σ :=
  match session.store.expand (Words.ofLine line) with
  | .error error => (.error (.expansion error), session)
  | .ok words =>
    runWords system executor mode words
      (session.enter system .debug ("tokens: " ++ Text.quotedList words))

/-- How the shell reports on its error stream. -/
def report (text : String) : String := shellName ++ ": " ++ text ++ "\n"

/-! ### The input -/

/-- How much of the input is read at once. -/
def inputBlock : Nat := 8192

/-- The next line of the input with its line feed, and what was read after it. `unread` was read
before; when it holds no whole line, more is read, a block at a time. There is no line at the end.
The number bounds how many blocks are read. -/
def takeLine (system : System σ) : Nat → (unread : Bytes) → σ → Option Bytes × Bytes × σ
  | 0, unread, world => (if unread = [] then none else some unread, [], world)
  | blocks + 1, unread, world =>
    let line := unread.takeWhile (· ≠ Text.lineFeed)
    match unread.drop line.length with
    | feed :: rest => (some (line ++ [feed]), rest, world)
    | [] =>
      let block := (system.input world).take inputBlock
      if block = [] then (if unread = [] then none else some unread, [], world)
      else takeLine system blocks (unread ++ block) (system.skipInput block.length world)

/-- Reads the next line of the input. -/
def readLine (system : System σ) (unread : Bytes) (session : Session σ) :
    Option Bytes × Bytes × Session σ :=
  let world := session.shell.world
  let (line, unread, world) := takeLine system ((system.input world).length + 1) unread world
  (line, unread, { session with shell := { session.shell with world } })

/-- Carries out the lines of the input, each read after a prompt, and gives the exit code. The
number bounds how many there may be. -/
def runLines (system : System σ) (executor : Executor σ) (settings : Settings) :
    Nat → (unread : Bytes) → Session σ → Int × Session σ
  | 0, _, session => (0, session)
  | lines + 1, unread, session =>
    match (session.write system .output settings.prompt).readLine system unread with
    | (none, _, session) => (0, session.write system .output "\n")
    | (some segment, unread, session) =>
      match Text.inputLine segment with
      | none =>
        (1, session.write system .errors
          (report ("cannot read input: " ++ Fault.message .notText)))
      | some line =>
        match runLine system executor settings.outputMode line session with
        | (.ok (.exit code), session) => (code, session)
        | (.ok outcome, session) =>
          runLines system executor settings lines unread
            (session.enter system .debug outcome.label)
        | (.error error, session) =>
          runLines system executor settings lines unread
            (session.write system .errors (report error.message))

/-- Carries out the input and gives the exit code. A line takes at least one byte of it. -/
def run (system : System σ) (executor : Executor σ) (settings : Settings) (session : Session σ) :
    Int × Session σ :=
  runLines system executor settings ((system.input session.shell.world).length + 1) [] session

/-- The session that starts with the variables of the process and, over them, those of the
settings. All of them are exported. -/
def start (settings : Settings) (inherited : List (String × String)) (shell : Interpreter σ) :
    Session σ where
  store := (Variables.empty.exportAll inherited).exportAll settings.definitions
  shell

end Session

end PipelineShell
