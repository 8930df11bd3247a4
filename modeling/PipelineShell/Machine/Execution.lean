/-
Executing files.

A file can be executed if it is one of the machine's own programs, or if it may be executed and its
first line names an interpreter. An interpreter is executed in its place, with the file as an
argument; it may be such a file itself, but only a few times in a row. None of these files may be
open for writing.
-/

import PipelineShell.Machine.Script.Shell
import PipelineShell.Machine.Tool.Beginning
import PipelineShell.Machine.Tool.Copying
import PipelineShell.Machine.Tool.Counting
import PipelineShell.Machine.Tool.Environment
import PipelineShell.Machine.Tool.Sorting
import PipelineShell.Machine.Tool.Replacing

namespace PipelineShell.Execution

/-! ### The space for arguments -/

/-- How much space one argument or variable may take, its end mark counted. -/
def stringLimit : Nat := 131072

/-- How much space there always is for all arguments and variables together. -/
def smallestSpace : Nat := 131072

/-- How much space there is at most. -/
def largestSpace : Nat := 6291456

/-- How much space there is: a quarter of the stack. -/
def argumentSpace (allowances : Allowances) : Nat :=
  max smallestSpace (allowances.stack.elim largestSpace fun stack => min largestSpace (stack / 4))

/-- The size of a reference to an argument or a variable. -/
def referenceSize : Nat := 8

/-- The space that texts take, each with its end mark. -/
def textSize (texts : List Bytes) : Nat :=
  texts.foldl (fun total text => total + text.length + 1) 0

/-- What a file is executed with. -/
structure Load where
  /-- The space for texts, without that for the references to them. -/
  room : Nat
  /-- What else takes space: the name of the file and the variables. -/
  others : List Bytes

/-- What a file with a name is executed with. -/
def Load.of (allowances : Allowances) (file : Bytes) (arguments environment : List Bytes) : Load :=
  ⟨argumentSpace allowances - referenceSize * (arguments.length + environment.length),
    file :: environment⟩

/-- Whether there is space for arguments. -/
def Load.fits (load : Load) (arguments : List Bytes) : Bool :=
  (arguments ++ load.others).all (·.length < stringLimit) &&
    textSize arguments + textSize load.others ≤ load.room

/-! ### Interpreters -/

/-- What a file starts with if its first line names an interpreter. -/
def interpreterMark : Bytes := Text.encode "#!"

/-- How much of a file is looked at for the name of its interpreter. -/
def headerLimit : Nat := 256

/-- A blank between the name of an interpreter and its argument. -/
def isHeaderBlank (byte : UInt8) : Bool := byte = 32 || byte = 9

/-- The interpreter that a file names, with the one argument that may follow the name. -/
structure Header where
  interpreter : Bytes
  argument : Option Bytes
  deriving DecidableEq, Repr

/-- Whether a byte ends the name of an interpreter. -/
def endsHeaderName (byte : UInt8) : Bool := isHeaderBlank byte || byte = 0

/-- What is left of a line without the blanks around it. -/
def trimHeader (line : Bytes) : Bytes :=
  (line.reverse.dropWhile isHeaderBlank).reverse.dropWhile isHeaderBlank

/-- The line that may name an interpreter, after its mark, without the blanks around it. A line that
has not ended is cut off, and it counts only if the name is sure to be complete; a short file is
followed by zeros. -/
def headerLine? (contents : Bytes) : Option Bytes :=
  let window := (contents ++ List.replicate headerLimit 0).take headerLimit
  match interpreterMark.isPrefixOf? window with
  | none => none
  | some rest =>
    if (rest.takeWhile (· ≠ 0)).contains Text.lineFeed then
      some (trimHeader (rest.takeWhile (· ≠ Text.lineFeed)))
    else if (rest.dropWhile isHeaderBlank).any endsHeaderName then
      some (trimHeader rest.dropLast)
    else none

/-- The interpreter that contents name in their first line, if they do. The name may be empty when
the line has not ended. -/
def Header.ofContents? (contents : Bytes) : Option Header :=
  match headerLine? contents with
  | none => none
  | some [] => none
  | some line =>
    let name := line.takeWhile fun byte => !endsHeaderName byte
    let rest := line.drop name.length
    let argument := (rest.dropWhile isHeaderBlank).takeWhile (· ≠ 0)
    if rest.head?.any isHeaderBlank ∧ rest.any (fun byte => !isHeaderBlank byte) then
      some ⟨name, some argument⟩
    else some ⟨name, none⟩

/-- The arguments with which an interpreter is executed for a file. -/
def Header.arguments (header : Header) (file : Bytes) (arguments : List Bytes) : List Bytes :=
  header.interpreter :: header.argument.toList ++ file :: arguments.drop 1

/-- How many interpreters may follow each other. -/
def interpreterLimit : Nat := 5

/-- What the name of a file that is to be executed leads to. The running process has `own` open. -/
def findExecutable (kernel : Kernel) (own : List Handle) (here : Location) (file : Bytes) :
    Except Errno Node :=
  match kernel.tree.find here file with
  | .error errno => .error errno
  | .ok (location, node) =>
    let isFile := match node with
      | .file _ _ => FileTree.permits FileTree.executeWay node
      | .program _ => true
      | _ => false
    if !isFile then .error .accessDenied
    else if kernel.isWritten own location then .error .fileBusy
    else .ok node

/-- Finds the interpreter that a header names. An empty name leads to the directory itself, which
cannot be executed. -/
def findInterpreter (kernel : Kernel) (own : List Handle) (here : Location) (header : Header) :
    Except Errno Node :=
  if header.interpreter = [] then .error .accessDenied
  else findExecutable kernel own here header.interpreter

/-- What executing a file comes to: one of the machine's programs, and its arguments. -/
structure Loaded where
  program : String
  arguments : List Bytes
  deriving DecidableEq, Repr

/-- Finds out what executing a file comes to, once it is found. `interpreters` is how many
interpreters may still follow; the next one is looked for even if none may. -/
def loadFound (kernel : Kernel) (own : List Handle) (here : Location) (load : Load) :
    Nat → Node → (file : Bytes) → (arguments : List Bytes) → Except Errno Loaded
  | _, .program name, _, arguments => .ok ⟨name, arguments⟩
  | interpreters, .file contents _, file, arguments =>
    match Header.ofContents? contents with
    | none => .error .badExecutable
    | some header =>
      if !load.fits (header.arguments file arguments) then .error .argumentsTooLong
      else
        match findInterpreter kernel own here header, interpreters with
        | .error errno, _ => .error errno
        | .ok _, 0 => .error .tooManyLinks
        | .ok node, interpreters + 1 =>
          loadFound kernel own here load interpreters node header.interpreter
            (header.arguments file arguments)
  | _, _, _, _ => .error .accessDenied

/-- Finds out what executing a file in a process comes to, or why it is refused. The space for the
arguments is looked at once the file is found. -/
def load (kernel : Kernel) (own : List Handle) (here : Location) (allowances : Allowances)
    (arguments environment : List Bytes) (file : Bytes) : Except Errno Loaded :=
  match findExecutable kernel own here file with
  | .error errno => .error errno
  | .ok node =>
    let load := Load.of allowances file arguments environment
    if !load.fits arguments then .error .argumentsTooLong
    else loadFound kernel own here load interpreterLimit node file arguments

/-! ### Running programs -/

/-- The program with a name, other than `sh`. -/
def tool? : String → Option Tool
  | "cat" => some Tool.concatenate
  | "echo" => some Tool.echo
  | "env" => some Tool.changeEnvironment
  | "false" => some Tool.fail
  | "head" => some Tool.beginning
  | "printenv" => some Tool.printEnvironment
  | "sort" => some Tool.sortLines
  | "tr" => some Tool.replaceCharacters
  | "true" => some Tool.succeed
  | "wc" => some Tool.count
  | _ => none

/-- The first of the libraries that a program needs. -/
def firstLibrary (program : String) : String :=
  if program = "sort" then "libcrypto.so.3" else "libc.so.6"

/-- What a program says that cannot open the libraries it needs. -/
def libraryComplaint (program : String) : String :=
  "error while loading shared libraries: " ++ firstLibrary program ++
    ": cannot open shared object file: Error " ++ toString Errno.tooManyOpen.number

/-- What a process does that executes a file which comes to this. A program opens its libraries
before anything else. -/
def Loaded.run (loaded : Loaded) (activity : Activity) : Process Ending := do
  let activity := { activity with arguments := loaded.arguments }
  if activity.mayOpen 1 then
    match tool? loaded.program with
    | some tool => return .exited (← tool activity)
    | none => Script.shell activity
  else
    activity.warn (Text.encode (libraryComplaint loaded.program))
    return .exited 127

end PipelineShell.Execution
