/-
What names of commands stand for.

A name is a keyword, a short name, a function, a command that the script carries out itself, or a
program. Commands of the script itself that are special end the script when they fail, and keep the
assignments in front of them.
-/

import PipelineShell.Machine.Script.Command.Moving
import PipelineShell.Machine.Script.Command.Printing
import PipelineShell.Machine.Script.Command.Reading
import PipelineShell.Machine.Script.Command.Signalling
import PipelineShell.Machine.Script.Command.Storing
import PipelineShell.Machine.Script.Command.Testing

namespace PipelineShell.Script.Command

/-- The commands that the script carries out itself and that are not special. -/
def ordinaryNames : List String :=
  ["[", "alias", "bg", "cd", "chdir", "command", "echo", "false", "fg", "getopts", "hash", "jobs",
    "kill", "printf", "pwd", "read", "test", "true", "type", "ulimit", "umask", "unalias", "wait"]

/-- Commands whose words may be assignments. -/
def assigningNames : List String := ["alias", "export", "local", "readonly"]

/-- Whether the script carries out a command itself. -/
def isOwn (name : Characters) : Bool :=
  let name := String.ofList name
  specialNames.contains name || ordinaryNames.contains name || name = "local"

/-- Whether a command is special. -/
def isSpecial (name : Characters) : Bool :=
  let name := String.ofList name
  specialNames.contains name || name = "local"

/-! ### Describing names -/

/-- Describes a program that was found. -/
def describeProgram (verbose standard : Bool) (name : Characters) : Running Nat := do
  let context ← Running.context
  let finding? := context.finding? standard name
  let position : Except Errno Nat ← match finding? with
    | some finding => pure (.ok finding.position)
    | none =>
      if name.contains '/' then do
        pure (if (← nodeAt name).isSome then .ok 0 else .error .noEntry)
      else findProgram standard name
  match position with
  | .error _ =>
    if verbose then Running.emitLine (name ++ ": not found".toList)
    return 127
  | .ok position =>
    let file := if name.contains '/' then name
      else ((candidates (context.path standard) name)[position]?).getD name
    if verbose then
      let kind := if finding?.isSome then " is a tracked alias for " else " is "
      Running.emitLine (name ++ kind.toList ++ file)
    else Running.emitLine file
    return 0

/-- Describes what a name stands for, in a sentence or so that it can be used. -/
def describe (verbose standard : Bool) (name : Characters) : Running Nat := do
  let context ← Running.context
  let say (sentence : Characters) : Running Nat := do
    Running.emitLine (if verbose then name ++ sentence else name)
    return 0
  if keywords.contains (String.ofList name) then say " is a shell keyword".toList
  else
    match Association.get? name context.aliases with
    | some text =>
      if verbose then say (" is an alias for ".toList ++ text)
      else
        Running.emitLine ("alias ".toList ++ showAlias name text)
        return 0
    | none =>
      if (Association.get? name context.functions).isSome then say " is a shell function".toList
      else if isOwn name then
        say (if isSpecial name then " is a special shell builtin".toList
          else " is a shell builtin".toList)
      else describeProgram verbose standard name

/-- Describes names. -/
def describeAll : Command := fun _ words => do
  let statuses ← words.mapM (describe true false)
  return if statuses.all (· = 0) then 0 else 127

/-- Describes a name, in the way that an option asks for. -/
def describeOne : Command := fun _ words => do
  let (found, names) ← options [('p', false), ('v', false), ('V', false)] words
  let isAsked (letter : Char) : Bool := found.any fun (other, _) => other = letter
  match names with
  | name :: _ =>
    if isAsked 'v' || isAsked 'V' then describe (isAsked 'V') (isAsked 'p') name else return 0
  | [] => return 0

/-! ### Programs that were found -/

/-- Where a program stands among those that are listed. -/
def programGroup (name : Characters) : Nat :=
  let first := (name.headD (Char.ofNat 0)).toNat
  (name.foldl (fun sum character => sum + character.toNat) (first * 16)) % 32768 % 31

/-- Looks for programs and remembers where they are, forgets that, or lists it. -/
def rememberPrograms : Command := fun _ words => do
  let (forgets, names) ← options [('r', false)] words
  if !forgets.isEmpty then
    Running.change fun context => { context with found := [] }
    return 0
  let path := (← Running.context).path false
  if names.isEmpty then
    let known := (← Running.context).found.mergeSort fun first second =>
      programGroup first.1 ≤ programGroup second.1
    known.forM fun (name, finding) => do
      Running.emit (((candidates path name)[finding.position]?).getD name)
      Running.emitLine (if finding.stale then ['*'] else [])
    return 0
  let outcomes ← names.mapM fun name => do
    let known := (Association.get? name (← Running.context).functions).isSome || isOwn name
    if known || name.contains '/' then return true
    else
      Running.change fun context => { context with
        found := Association.erase name context.found }
      match ← findProgram false name with
      | .ok _ => return true
      | .error errno =>
        Running.warn (name ++ ": ".toList ++ startReason errno)
        return false
  return if outcomes.all id then 0 else 1

end PipelineShell.Script.Command
