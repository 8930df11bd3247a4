/-
The commands that the shell carries out itself.
-/

import PipelineShell.Interpreter
import PipelineShell.Text.Decimal
import PipelineShell.Text.Quoted

namespace PipelineShell

/-- A command of the shell itself. -/
inductive Builtin where
  | help
  | changeDirectory
  | exit
  deriving DecidableEq, Repr

namespace Builtin

/-- The name of a command. -/
def name : Builtin → String
  | help => "help"
  | changeDirectory => "cd"
  | exit => "exit"

/-- The command with exactly this name. -/
def ofName? (text : String) : Option Builtin :=
  [help, changeDirectory, exit].find? fun builtin => builtin.name = text

/-- How a command ends: the shell goes on, or it exits. -/
inductive Status where
  | proceed (code : Int)
  | exit (code : Int)
  deriving DecidableEq, Repr

/-- What `help` prints. -/
def helpText : String :=
  "Available built-in commands:\n" ++
  "  cd [DIR]     : Change directory ($HOME without DIR)\n" ++
  "  exit [CODE]  : Exit shell\n" ++
  "  help         : Show this help\n" ++
  "  NAME=VALUE   : Set and export a variable\n"

/-- The directory that `cd` goes to: its first argument, or else home, or else the root. -/
def destination (arguments : List String) (store : Variables) : String :=
  match arguments with
  | directory :: _ => directory
  | [] => (store.get? "HOME").getD "/"

variable {σ : Type}

/-- Changes the directory, or tells why it cannot. -/
def moveTo (system : System σ) (target : String) (shell : Interpreter σ) :
    Except Fault Unit × Interpreter σ :=
  match systemPath target with
  | .error fault => (.error fault, shell)
  | .ok path =>
    match system.changeDirectory path shell.world with
    | (.ok (), world) => (.ok (), { shell with world })
    | (.error errno, world) => (.error (.refused errno), { shell with world })

/-- Carries a command out. -/
def carryOut (system : System σ) (builtin : Builtin) (arguments : List String)
    (store : Variables) (shell : Interpreter σ) : Status × Interpreter σ :=
  match builtin with
  | help => (.proceed 0, shell.write system .output helpText)
  | changeDirectory =>
    let target := destination arguments store
    match moveTo system target shell with
    | (.ok (), shell) => (.proceed 0, shell)
    | (.error fault, shell) =>
      (.proceed 1, shell.write system .errors ("cd: " ++ target ++ ": " ++ fault.message ++ "\n"))
  | exit =>
    match arguments with
    | [] => (.exit 0, shell)
    | code :: _ =>
      match Text.readCode? code with
      | some code => (.exit code, shell)
      | none =>
        (.proceed 2,
          shell.write system .errors ("exit: " ++ code ++ ": numeric argument required\n"))

/-- Carries a command out and enters it in the journal. -/
def run (system : System σ) (builtin : Builtin) (arguments : List String) (store : Variables)
    (shell : Interpreter σ) : Status × Interpreter σ :=
  carryOut system builtin arguments store
    (shell.enter system .debug ("builtin " ++ builtin.name ++ " " ++ Text.quotedList arguments))

end Builtin

end PipelineShell
