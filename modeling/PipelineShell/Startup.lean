/-
Starting the shell from the command line.

The settings come from the file that a variable names or, if there is none, from a file in the home
directory. Settings that cannot be read are reported and replaced by the default ones, and so is a
journal that cannot be opened by none at all; the session starts in any case.
-/

import PipelineShell.Machine
import PipelineShell.Session

namespace PipelineShell.Startup

/-! ### Settings -/

/-- The variable that names the settings file. -/
def settingsVariable : String := "TINY_PIPESH_CONFIG"

/-- The settings file in the home directory. -/
def settingsFile : String := ".tiny_pipeshrc"

/-- The path of the settings file in a home directory. -/
def settingsIn (home : String) : String :=
  if home = "" ∨ home.toList.getLast? = some '/' then home ++ settingsFile
  else home ++ "/" ++ settingsFile

/-- The settings file to use: the one that the variable names, whatever is there, or else the one in
the home directory if it is an ordinary file. -/
def locate (inherited : List (String × String)) (machine : Machine) : Option String :=
  match Association.get? settingsVariable inherited with
  | some path => some path
  | none =>
    match Association.get? "HOME" inherited with
    | none => none
    | some home =>
      let path := settingsIn home
      if machine.tree.isFile machine.directory (Text.encode path) then some path else none

/-- Reads a settings file. -/
def load (path : String) (machine : Machine) : Except SettingsError Settings :=
  match systemPath path with
  | .error fault => .error (.unreadable fault)
  | .ok bytes =>
    match machine.readPath .standard machine.directory bytes with
    | .error errno => .error (.unreadable (.refused errno))
    | .ok contents => Settings.ofFile contents

/-- The settings to start with, and a report about a file that does not give any. -/
def chooseSettings (inherited : List (String × String)) (machine : Machine) :
    Settings × Option String :=
  match locate inherited machine with
  | none => (.default, none)
  | some path =>
    match load path machine with
    | .ok settings => (settings, none)
    | .error error =>
      (.default, some (Session.report (path ++ ": " ++ error.message ++ "; using defaults")))

/-! ### The journal -/

/-- Why a journal cannot be kept. -/
inductive JournalError where
  | cannotOpen (fault : Fault)
  | alreadyKept
  deriving DecidableEq, Repr

/-- How a journal that cannot be kept is reported. -/
def JournalError.message : JournalError → String
  | .cannotOpen fault => "Cannot open log file: " ++ fault.message
  | .alreadyKept =>
    "Cannot install logger: attempted to set a logger after the logging system was already " ++
      "initialized"

/-- Opens a journal file at its end, creating it if it is missing. -/
def openJournalFile (path : String) (machine : Machine) :
    Except Fault (Location × Machine) :=
  match systemPath path with
  | .error fault => .error fault
  | .ok bytes =>
    let mode := FileTree.masked 0o666 machine.mask
    let access : Access := ⟨false, true, true, false, some mode⟩
    match machine.call fun kernel =>
        kernel.openFor .standard kernel.directory bytes access with
    | (.error errno, _) => .error (.refused errno)
    | (.ok handle, machine) => .ok ((machine.location? handle).getD [], machine)

/-- Lets the machine keep a journal from now on, unless it keeps one already. -/
def keepIn (sink : JournalSink) (threshold : Threshold) (machine : Machine) :
    Except JournalError Unit × Machine :=
  if machine.sink = .nowhere then (.ok (), { machine with sink, threshold })
  else (.error .alreadyKept, machine)

/-- Starts the journal that the settings ask for: in a file if they name one, and otherwise on the
error stream. -/
def startJournal (settings : Settings) (machine : Machine) : Except JournalError Unit × Machine :=
  if settings.threshold = .off then (.ok (), machine)
  else
    match settings.journalFile with
    | none => keepIn .errorStream settings.threshold machine
    | some path =>
      match openJournalFile path machine with
      | .error fault => (.error (.cannotOpen fault), machine)
      | .ok (location, machine) => keepIn (.file location) settings.threshold machine

/-! ### The whole run -/

/-- Writes a report to the error stream. -/
def complain (report : String) (machine : Machine) : Machine :=
  machine.update fun kernel => kernel.deliver (.inherited .errors) (Text.encode report)

/-- Starts the journal and reports if it cannot be kept. -/
def beginJournal (settings : Settings) (machine : Machine) : Machine :=
  match startJournal settings machine with
  | (.ok (), machine) => machine
  | (.error error, machine) => complain (Session.report error.message) machine

/-- Runs a session on a machine. -/
def runSession (settings : Settings) (inherited : List (String × String)) (machine : Machine) :
    Int × Machine :=
  let session := Session.start settings inherited (Interpreter.start machine)
  let (code, session) :=
    session.run Machine.system (Supervision.run Machine.system) settings
  (code, session.shell.world)

/-- The exit code of a process: what is left of a number in eight bits. -/
def exitStatus (code : Int) : Nat := (code % 256).toNat

/-- Runs the shell from the command line, and gives its exit code. -/
def run (inherited : List (String × String)) (machine : Machine) : Nat × Machine :=
  let (settings, problem) := chooseSettings inherited machine
  let machine := problem.elim machine fun report => complain report machine
  let (code, machine) := runSession settings inherited (beginJournal settings machine)
  (exitStatus code, machine)

end PipelineShell.Startup
