/-
File names that a pattern stands for.

A pattern is followed name by name. A name that holds no pattern is taken as it is; any other is
compared with the names in the directory that was reached. Names that start with a point have to be
asked for. The names that were found are sorted.
-/

import PipelineShell.FileTree
import PipelineShell.Machine.Script.Fields
import PipelineShell.Machine.Tool

namespace PipelineShell.Script.Glob

/-- Whether a bracket is closed before the end of a name, with something in it. -/
def isClosed : Nat → Characters → Bool
  | 0, _ => false
  | steps + 1, text =>
    let text := match text with
      | '\\' :: rest => rest
      | _ => text
    match text with
    | [] => false
    | _ :: ']' :: _ => true
    | _ :: rest => isClosed steps rest

/-- Whether a name holds a pattern. -/
def hasPattern : Characters → Bool
  | [] => false
  | '*' :: _ => true
  | '?' :: _ => true
  | '[' :: rest =>
    let inside := match rest with
      | '!' :: after => after
      | _ => rest
    isClosed (inside.length + 1) inside || hasPattern rest
  | '\\' :: _ :: rest => hasPattern rest
  | _ :: rest => hasPattern rest

/-- A pattern without its backslashes. -/
def unescape : Characters → Characters
  | '\\' :: character :: rest => character :: unescape rest
  | character :: rest => character :: unescape rest
  | [] => []

/-- Cuts a pattern at its slashes. -/
def names : Characters → List Characters
  | [] => [[]]
  | '/' :: rest => [] :: names rest
  | '\\' :: '/' :: rest => [] :: names rest
  | '\\' :: character :: rest =>
    match names rest with
    | first :: others => ('\\' :: character :: first) :: others
    | [] => [['\\', character]]
  | character :: rest =>
    match names rest with
    | first :: others => (character :: first) :: others
    | [] => [[character]]

/-- The names in the directory that a path leads to. -/
def entries (tree : FileTree) (here : Location) (directory : Characters) : List Characters :=
  let path := if directory.isEmpty then ['.'] else directory
  match tree.directoryAt here (Tool.ofCharacters path) with
  | .error _ => []
  | .ok location =>
    let inside := tree.nodes.filterMap fun (other, _) =>
      match location.isPrefixOf? other with
      | some [name] => some (Tool.characters name)
      | _ => none
    ['.'] :: ['.', '.'] :: inside

/-- Whether a pattern for one name accepts a name. -/
def acceptsName (pattern name : Characters) : Bool :=
  let shown := match pattern with
    | '\\' :: '.' :: _ => true
    | '.' :: _ => true
    | _ => false
  (shown || name.head? ≠ some '.') && Pattern.accepts pattern name

/-- The files that the names of a pattern lead to, from a directory on. -/
def follow (tree : FileTree) (here : Location) :
    (directory : Characters) → List Characters → List Characters
  | _, [] => []
  | directory, [name] =>
    if hasPattern name then
      ((entries tree here directory).filter (acceptsName name)).map (directory ++ ·)
    else
      let path := directory ++ unescape name
      if tree.isThere here (Tool.ofCharacters path) then [path] else []
  | directory, name :: rest =>
    if hasPattern name then
      ((entries tree here directory).filter (acceptsName name)).flatMap fun found =>
        follow tree here (directory ++ found ++ ['/']) rest
    else follow tree here (directory ++ unescape name ++ ['/']) rest

/-- The files that a field stands for, or its own text if there are none. -/
def expand (tree : FileTree) (here : Location) (field : List Element) : List Characters :=
  let pattern := names (patternOf field)
  let found := if pattern.any hasPattern then follow tree here [] pattern else []
  if found.isEmpty then [textOf field]
  else found.mergeSort fun first second => !(decide (second < first))

end PipelineShell.Script.Glob
