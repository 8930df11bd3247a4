/-
Commands about the directory of a process and the permissions of its files.

The directory is known by the path that led to it: a step to the directory above takes the last name
from that path, even if the name is a link. On request links are followed first.
-/

import PipelineShell.Machine.Script.Command

namespace PipelineShell.Script.Command

/-! ### The directory -/

/-- The path that a location spells. -/
def pathOf (location : Location) : Characters :=
  if location.isEmpty then ['/'] else location.flatMap fun name => '/' :: Tool.characters name

/-- Follows names from other names; the directory above is one name less. -/
def followNames (start names : List Characters) : List Characters :=
  names.foldl (fun reached name =>
    if name.isEmpty || name = ['.'] then reached
    else if name = ['.', '.'] then reached.dropLast
    else reached ++ [name]) start

/-- The path that another path leads to from a directory. Two slashes in front are kept. -/
def followedPath (directory path : Characters) : Characters :=
  let absolute := path.head? = some '/'
  let base := if absolute then path else directory
  let doubled : Bool := match base with
    | '/' :: '/' :: third :: _ => third ≠ '/'
    | ['/', '/'] => true
    | _ => false
  let start := if absolute then [] else followNames [] (Text.pieces (· == '/') directory)
  let names := followNames start (Text.pieces (· == '/') path)
  let front := if doubled then ['/', '/'] else ['/']
  front ++ List.intercalate ['/'] names

/-- Notes the path by which the directory is known from now on. Its path without links is kept only
if it was `asked` for. -/
def noteDirectory (path : Characters) (asked : Bool) : Running Unit := do
  let physical := pathOf (← Running.context).activity.directory
  Running.change fun context => { context with
    directory := path
    physical := if asked then some physical else none }
  Running.bind "PWD".toList (some path) true false

/-- Goes to a directory. Where programs were found is in doubt then. Tells whether that was
possible. -/
def goTo (physical : Bool) (target : Characters) : Running Bool := do
  let context ← Running.context
  let known := context.directory
  let path := if physical then target else followedPath known target
  let path := if path.isEmpty then ['.'] else path
  let here := context.activity.directory
  match (← Process.kernel).tree.directoryAt here (Tool.ofCharacters path) with
  | .error _ => return false
  | .ok directory =>
    Running.change fun context => { context with
      activity := { context.activity with directory } }
    Running.bind "OLDPWD".toList (some known) true false
    noteDirectory (if physical then pathOf directory else path) physical
    Running.change fun context => { context with
      found := context.found.map fun (name, finding) => (name, { finding with stale := true }) }
    return true

/-- Tries directories in which the target may be. Tells whether one of them was entered, and whether
that is to be shown. -/
def goWithin (physical : Bool) (target : Characters) : List Characters → Running (Option Bool)
  | [] => return none
  | base :: rest => do
    let path := fileIn base target
    let here := (← Running.context).activity.directory
    match (← Process.kernel).tree.directoryAt here (Tool.ofCharacters path) with
    | .error _ => goWithin physical target rest
    | .ok _ => if ← goTo physical path then return some (!base.isEmpty) else return none

/-- Changes the directory: to the home directory without an operand, and to the directory before
with a dash. -/
def changeDirectory : Command := fun _ words => do
  let (found, operands) ← options [('L', false), ('P', false)] words
  let physical := found.getLast?.map Prod.fst = some 'P'
  let context ← Running.context
  let back := operands.head? = some ['-']
  let target := match operands.head? with
    | none => (context.value? "HOME".toList).getD []
    | some operand => if back then (context.value? "OLDPWD".toList).getD [] else operand
  let isFixed := target.head? = some '/' ||
    [['.'], ['.', '.']].contains (target.takeWhile (· ≠ '/'))
  let target := if target.isEmpty then ['.'] else target
  let bases := if !isFixed then
      match context.value? "CDPATH".toList with
      | some path => Text.pieces (· == ':') path
      | none => []
    else []
  let entered ← goWithin physical target bases
  let entered ← match entered with
    | some shown => pure (some shown)
    | none => do if ← goTo physical target then pure (some false) else pure none
  match entered with
  | none => Running.fail ("can't cd to ".toList ++ target)
  | some shown =>
    if shown || back then Running.emitLine (← Running.context).directory
    return 0

/-- Prints the directory. -/
def printDirectory : Command := fun _ words => do
  let (found, _) ← options [('L', false), ('P', false)] words
  let context ← Running.context
  if found.getLast?.map Prod.fst = some 'P' then
    if context.physical.isNone then noteDirectory context.directory true
    Running.emitLine ((← Running.context).physical.getD context.directory)
  else Running.emitLine context.directory
  return 0

/-! ### Permissions -/

/-- The letters of the permissions of one class. -/
def permissionLetters (bits : Nat) : Characters :=
  (if bits / 4 % 2 = 1 then ['r'] else []) ++ (if bits / 2 % 2 = 1 then ['w'] else []) ++
    (if bits % 2 = 1 then ['x'] else [])

/-- The classes of users, each with the place of its bits. -/
def userClasses : List (Char × Nat) := [('u', 6), ('g', 3), ('o', 0)]

/-- Changes permissions as one sign asks for. -/
def applySign (sign : Char) (classes : List Nat) (bits mode : Nat) : Nat :=
  classes.foldl (fun mode place =>
    let changed := bits <<< place
    let kept := mode &&& (0o777 ^^^ (7 <<< place))
    match sign with
    | '+' => mode ||| changed
    | '-' => mode &&& (0o777 ^^^ changed)
    | _ => kept ||| changed) mode

/-- Whether a character says how permissions are changed. -/
def isModeSign (character : Char) : Bool := "=+-".toList.contains character

/-- The bits that a letter stands for, given the permissions from before: some of its own, or all
that a class of users has. -/
def letterBits (before : Nat) (letter : Char) : Nat :=
  match letter with
  | 'r' => 4
  | 'w' => 2
  | 'x' => 1
  | 'X' => if before &&& 0o111 = 0 then 0 else 1
  | _ => ((Association.get? letter userClasses).map fun place => (before >>> place) % 8).getD 0

/-- The places of the classes of users that letters name. All of them are meant if there is none. -/
def classPlaces (letters : Characters) : List Nat :=
  if letters.isEmpty || letters.contains 'a' then userClasses.map Prod.snd
  else userClasses.filterMap fun (letter, place) =>
    if letters.contains letter then some place else none

/-- Changes permissions as a text asks for: classes of users, then signs with permissions, and more
of the same after a comma. Nothing if the text makes no sense. `before` are the permissions from
before, and the number bounds how many signs there may be. -/
def applyMode (before : Nat) : Nat → (classes : Characters) → Characters → Nat → Option Nat
  | 0, _, _, mode | _, _, [], mode => some mode
  | steps + 1, classes, text, mode =>
    let classes := classes ++ text.takeWhile "augo".toList.contains
    match text.dropWhile "augo".toList.contains with
    | [] => none
    | sign :: rest =>
      if !isModeSign sign then none
      else
        let letters := rest.takeWhile "rwxugoXs".toList.contains
        let bits := letters.foldl (fun bits letter => bits ||| letterBits before letter) 0
        let mode := applySign sign (classPlaces classes) bits mode
        match rest.drop letters.length with
        | [] => some mode
        | ',' :: after => applyMode before steps [] after mode
        | following =>
          if following.head?.any isModeSign then applyMode before steps classes following mode
          else none

/-- The mask that a word asks for. -/
def maskOf (word : Characters) (mask : Nat) : Running Nat := do
  if word.head?.any Char.isDigit then
    if word.all fun digit => (Tool.octal? digit).isSome then
      return ((Arithmetic.digits? 8 word).map Prod.fst).getD 0 % 0o1000
    else Running.badNumber word
  else
    let before := 0o777 ^^^ mask
    match applyMode before word.length [] word before with
    | some mode => return 0o777 ^^^ mode
    | none => Running.fail ("Illegal mode: ".toList ++ word)

/-- Shows or changes the permissions that new files do not get. -/
def changeMask : Command := fun _ words => do
  let (found, operands) ← options [('S', false)] words
  let mask := (← Running.context).activity.mask
  match operands with
  | word :: _ =>
    let mask ← maskOf word mask
    Running.change fun context => { context with activity := { context.activity with mask } }
  | [] =>
    if found.isEmpty then
      let digits := Nat.toDigits 8 mask
      Running.emitLine (List.replicate (4 - digits.length) '0' ++ digits)
    else
      let shown := userClasses.map fun (letter, place) =>
        letter :: '=' :: permissionLetters (((0o777 ^^^ mask) >>> place) % 8)
      Running.emitLine (List.intercalate [','] shown)
  return 0

end PipelineShell.Script.Command
