/-
Programs that a script starts.

A name with a slash is the file of the program. Any other name is looked for in the directories of
the search path, and where it was found is remembered. A file that is no program is run as a script
by another `sh`.
-/

import PipelineShell.Lookup
import PipelineShell.Machine.Script.Redirection

namespace PipelineShell.Script

/-- The file with a name in a directory of the search path. An empty directory adds nothing. -/
def fileIn (directory name : Characters) : Characters :=
  if directory.isEmpty then name else directory ++ '/' :: name

/-- The files to try for a program, in order. -/
def candidates (path name : Characters) : List Characters :=
  (Text.pieces (· == ':') path).map fun directory => fileIn directory name

/-- The search path: that of the script, or the standard one. -/
def Context.path (context : Context) (standard : Bool) : Characters :=
  if standard then defaultPath else (context.value? "PATH".toList).getD []

/-- Where a program was found before. Nothing is remembered about the standard path. -/
def Context.finding? (context : Context) (standard : Bool) (name : Characters) : Option Finding :=
  if standard then none else Association.get? name context.found

/-- Why a program cannot be started. -/
def startReason (errno : Errno) : Characters :=
  (if errno = .noEntry ∨ errno = .notDirectory then "not found" else errno.sentence).toList

/-- Looks for the first file that may be executed, and gives its number. If the program was found
before, files up to there that are named by absolute paths are not looked at again. -/
def searchFiles (tree : FileTree) (here : Location) (before : Option Nat) (position : Nat)
    (reason : Errno) : List Characters → Except Errno Nat
  | [] => .error reason
  | file :: rest =>
    if file.head? = some '/' && before = some position then .ok position
    else if file.head? = some '/' && before.any (position < ·) then
      searchFiles tree here before (position + 1) reason rest
    else
      match tree.find here (Tool.ofCharacters file) with
      | .error errno =>
        let reason := if errno = .noEntry ∨ errno = .notDirectory then reason else errno
        searchFiles tree here before (position + 1) reason rest
      | .ok (_, node) =>
        let isFile := match node with
          | .file _ _ => true
          | .program _ => true
          | _ => false
        if isFile && FileTree.permits FileTree.executeWay node then .ok position
        else searchFiles tree here before (position + 1) .accessDenied rest

/-- Notes where a program was found in the script's own search path, or that it was not. -/
def noteFinding (name : Characters) (found : Except Errno Nat) : Running Unit :=
  Running.change fun context => { context with
    found := match found with
      | .ok position => Association.put name ⟨position, false⟩ context.found
      | .error _ => Association.erase name context.found }

/-- Where in a search path a program is, or why it is not found. What is remembered is not looked
for again while the directory stays the same. -/
def findProgram (standard : Bool) (name : Characters) : Running (Except Errno Nat) := do
  let context ← Running.context
  match context.finding? standard name with
  | some ⟨position, false⟩ => return .ok position
  | before =>
    let tree := (← Process.kernel).tree
    let files := candidates (context.path standard) name
    let found := searchFiles tree context.activity.directory (before.map Finding.position) 0
      .noEntry files
    if !standard then noteFinding name found
    return found

/-- The file of the program that runs scripts. -/
def shellFile : Characters := "/bin/sh".toList

/-- Executes a file, or a script that the file holds. Gives the reason if that is refused. -/
def tryFile (file : Characters) (words : List Characters) : Running Errno := do
  let context ← Running.context
  let start (file : Characters) (words : List Characters) : Running Errno :=
    Process.execute (context.launched words) context.standing.handles (Tool.ofCharacters file)
  match ← start file words with
  | .badExecutable => start shellFile (shellFile :: file :: words.drop 1)
  | errno => return errno

/-- Executes the first of several files that can be executed. Gives the reason if all are
refused. -/
def tryFiles (words : List Characters) (reason : Errno) : List Characters → Running Errno
  | [] => return reason
  | file :: rest => do
    let errno ← tryFile file words
    tryFiles words (if errno = .noEntry ∨ errno = .notDirectory then reason else errno) rest

/-- Becomes a program. The process ends with a message if it cannot be started. `position` is the
number of the first directory that is tried. -/
def becomeProgram (path : Characters) (position : Nat) (words : List Characters) :
    Running Unit := do
  let name := words.headD []
  let errno ← if name.contains '/' then tryFile name words
    else tryFiles words .noEntry ((candidates path name).drop position)
  let missing := errno = .noEntry || errno = .notDirectory || errno = .nameTooLong ||
    errno = .tooManyLinks
  Running.setStatus (if missing then 127 else 126)
  Running.warn (name ++ ": ".toList ++ startReason errno)
  throw .finish

end PipelineShell.Script
