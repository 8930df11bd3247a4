/-
The file tree.

A file is known by its location, the names that lead to it from the root. Nothing here is ever moved
or linked twice, so a location names one file for good, and the tree is a map from locations to
nodes. A path is followed name by name from the current directory or from the root; a symbolic link
on the way is replaced by what it says, at most forty times.
-/

import PipelineShell.Association
import PipelineShell.PathName
import PipelineShell.Text.Pieces

namespace PipelineShell

/-- One name of a path. -/
abbrev Name := Bytes

/-- The names that lead to a file from the root, which itself has none. -/
abbrev Location := List Name

/-- A device that keeps nothing of what is written to it. -/
inductive Device where
  /-- Always at its end. -/
  | void
  /-- An endless source of zeros. -/
  | zeros
  /-- An endless source of zeros that has no room for anything. -/
  | full
  /-- The terminal of a process. No process has one. -/
  | terminal
  deriving DecidableEq, Repr

/-- What is at a location. -/
inductive Node where
  | directory
  | file (contents : Bytes) (mode : Nat)
  | link (target : Bytes)
  | device (kind : Device)
  /-- A program that the system brings along, by name. -/
  | program (name : String)
  /-- Whatever one of the slots of the process that looks refers to. -/
  | slot (number : Nat)
  deriving DecidableEq, Repr

/-- A path, cut at its slashes. -/
structure Path where
  /-- Whether it starts at the root. -/
  absolute : Bool
  names : List Name
  /-- Whether it ends in a slash, so that it can only mean a directory. -/
  slashed : Bool
  deriving DecidableEq, Repr

/-- Cuts a path at its slashes. Slashes that follow each other count as one. -/
def Path.ofBytes (bytes : Bytes) : Path where
  absolute := bytes.head? = some slash
  names := (Text.pieces (· == slash) bytes).filter (· ≠ [])
  slashed := bytes.getLast? = some slash

/-- The files of the system. The root is there without being listed. -/
structure FileTree where
  nodes : List (Location × Node)
  deriving DecidableEq, Repr

namespace FileTree

/-- What is at a location. -/
def get? (tree : FileTree) : Location → Option Node
  | [] => some .directory
  | location => Association.get? location tree.nodes

/-- Puts a node at a location. -/
def put (tree : FileTree) (location : Location) (node : Node) : FileTree :=
  ⟨Association.put location node tree.nodes⟩

theorem get?_put_self (tree : FileTree) {location : Location} (below : location ≠ [])
    (node : Node) : (tree.put location node).get? location = some node := by
  cases location with
  | nil => exact absurd rfl below
  | cons name rest => exact Association.get?_put_self _ _ _

theorem get?_put_of_ne (tree : FileTree) {location asked : Location} (different : asked ≠ location)
    (node : Node) : (tree.put location node).get? asked = tree.get? asked := by
  cases asked with
  | nil => rfl
  | cons name rest => exact Association.get?_put_of_ne different _ _

/-- Where a path leads. -/
inductive Place where
  | found (location : Location) (node : Node)
  /-- The directory is there, and nothing in it has this name. -/
  | absent (parent : Location) (name : Name)
  deriving DecidableEq, Repr

/-- How many symbolic links may be followed on one path. -/
def linkLimit : Nat := 40

/-- How many bytes a name may have. -/
def nameLimit : Nat := 255

/-- The name of the current directory. -/
def selfName : Name := Text.encode "."

/-- The name of the directory above. -/
def parentName : Name := Text.encode ".."

/-- Follows names from a directory. `links` is how many links may still be followed, `slashed` says
whether the path ends in a slash, and `creating` whether a missing file is about to be created: a
path that ends in a slash is then refused as soon as its last name is reached. -/
def follow (tree : FileTree) (creating : Bool) (links : Nat) (here : Location) (slashed : Bool)
    (names : List Name) : Except Errno Place :=
  match names with
  | [] => .ok (.found here .directory)
  | name :: rest =>
    if name = selfName then follow tree creating links here slashed rest
    else if name = parentName then follow tree creating links here.dropLast slashed rest
    else if creating ∧ slashed ∧ rest = [] then .error .isDirectory
    else if nameLimit < name.length then .error .nameTooLong
    else
      match tree.get? (here ++ [name]) with
      | none => if rest = [] ∧ ¬slashed then .ok (.absent here name) else .error .noEntry
      | some .directory => follow tree creating links (here ++ [name]) slashed rest
      | some (.link target) =>
        match links with
        | 0 => .error .tooManyLinks
        | links + 1 =>
          let path := Path.ofBytes target
          follow tree creating links (if path.absolute then [] else here)
            (slashed || (rest = [] && path.slashed)) (path.names ++ rest)
      | some node =>
        if rest = [] ∧ ¬slashed then .ok (.found (here ++ [name]) node) else .error .notDirectory
termination_by (links, names.length)

/-- Follows a path from a directory. The path is refused at once if it is empty or overlong. -/
def resolve (tree : FileTree) (creating : Bool) (here : Location) (path : Bytes) :
    Except Errno Place :=
  if path = [] then .error .noEntry
  else if pathLimit ≤ path.length then .error .nameTooLong
  else
    let path := Path.ofBytes path
    follow tree creating linkLimit (if path.absolute then [] else here) path.slashed path.names

/-- The location of a directory that a path leads to. -/
def directoryAt (tree : FileTree) (here : Location) (path : Bytes) : Except Errno Location :=
  match tree.resolve false here path with
  | .error errno => .error errno
  | .ok (.absent _ _) => .error .noEntry
  | .ok (.found location .directory) => .ok location
  | .ok (.found _ _) => .error .notDirectory

/-! ### Opening files -/

/-- The permissions that a new file gets: those asked for, less those that the mask holds. -/
def masked (mode mask : Nat) : Nat := mode &&& (0o777 ^^^ mask)

/-- Whether a node may be used in some way: the permissions of its owner count. A number stands for
each way, four for reading, two for writing and one for executing. -/
def permits (ways : Nat) : Node → Bool
  | .file _ mode => (mode >>> 6) &&& ways = ways
  | .device _ | .slot _ => ways &&& 1 = 0
  | _ => true

/-- The permission to read. -/
def readWay : Nat := 4

/-- The permission to write. -/
def writeWay : Nat := 2

/-- The permission to execute. -/
def executeWay : Nat := 1

/-- Where the existing file that a path leads to is. -/
def find (tree : FileTree) (here : Location) (path : Bytes) : Except Errno (Location × Node) :=
  match tree.resolve false here path with
  | .error errno => .error errno
  | .ok (.absent _ _) => .error .noEntry
  | .ok (.found location node) => .ok (location, node)

/-- Whether a path leads to a link, if a link at its end is not followed. -/
def isLink (tree : FileTree) (here : Location) (bytes : Bytes) : Bool :=
  let path := Path.ofBytes bytes
  let start := if path.absolute then [] else here
  if path.slashed ∨ pathLimit ≤ bytes.length then false
  else
    match tree.follow false linkLimit start true path.names.dropLast, path.names.getLast? with
    | .ok (.found location .directory), some name =>
      match tree.get? (location ++ [name]) with
      | some (.link _) => true
      | _ => false
    | _, _ => false

/-- Whether something is where a path leads to, be it a link that leads nowhere. -/
def isThere (tree : FileTree) (here : Location) (path : Bytes) : Bool :=
  (tree.find here path).toBool || tree.isLink here path

/-- What a program that the system brings along starts with. It is not text, and the rest is of no
use to anybody but the system. -/
def programStart : Bytes := [127, 69, 76, 70, 2, 1, 1, 0, 255]

/-- The contents of a node, as reading it to the end gives them. -/
def contents : Node → Except Errno Bytes
  | .directory => .error .isDirectory
  | .file contents _ => .ok contents
  | .link _ => .ok []
  | .device _ => .ok []
  | .program _ => .ok programStart
  | .slot _ => .ok []

/-- Whether a path leads to an ordinary file. -/
def isFile (tree : FileTree) (here : Location) (path : Bytes) : Bool :=
  match tree.find here path with
  | .ok (_, .file _ _) => true
  | .ok (_, .program _) => true
  | _ => false

/-- Replaces part of some contents, from an offset on. A gap before the offset is filled with
zeros. -/
def overwrite (contents : Bytes) (offset : Nat) (bytes : Bytes) : Bytes :=
  contents.take offset ++ List.replicate (offset - contents.length) 0 ++ bytes ++
    contents.drop (offset + bytes.length)

/-- Writes into the file at a location, from an offset on. Anything else than a file takes what is
written and keeps nothing. -/
def writeAt (tree : FileTree) (location : Location) (offset : Nat) (bytes : Bytes) : FileTree :=
  match tree.get? location with
  | some (.file contents mode) => tree.put location (.file (overwrite contents offset bytes) mode)
  | _ => tree

/-- Empties the file at a location. -/
def clear (tree : FileTree) (location : Location) : FileTree :=
  match tree.get? location with
  | some (.file _ mode) => tree.put location (.file [] mode)
  | _ => tree

/-! ### Setting a tree up and comparing two -/

/-- Puts a node at a location, and directories on the way to it where there is nothing. -/
def plant (tree : FileTree) (location : Location) (node : Node) : FileTree :=
  let parents := (List.range location.length).map location.take
  let tree := parents.foldl (fun tree parent =>
    if tree.get? parent = none then tree.put parent .directory else tree) tree
  tree.put location node

/-- The location that the last of some names stands for, whatever is there: a link at its end is not
followed. The names that every directory has are none of their own. -/
def entry? (tree : FileTree) (start : Location) (names : List Name) : Option Location :=
  match names.getLast?, tree.follow false linkLimit start false names.dropLast with
  | some name, .ok (.found directory .directory) =>
    if name = selfName ∨ name = parentName ∨ nameLimit < name.length then none
    else some (directory ++ [name])
  | _, _ => none

/-- Puts a node where some names lead, provided that there is nothing yet. -/
def add? (tree : FileTree) (start : Location) (names : List Name) (node : Node) :
    Option FileTree :=
  match tree.entry? start names with
  | none => none
  | some location => if tree.get? location = none then some (tree.put location node) else none

/-- Makes the directories that some names lead through, as far as they are missing, the last name
included. -/
def makeDirectories? (tree : FileTree) (start : Location) (names : List Name) : Option FileTree :=
  (List.range names.length).foldlM (fun tree index =>
    let names := names.take (index + 1)
    match tree.follow false linkLimit start false names with
    | .ok (.found _ .directory) => some tree
    | _ => tree.add? start names .directory) tree

/-- Puts a file where some names lead, in place of a file that is there and may be written. A link
at the end is followed. -/
def replace? (tree : FileTree) (start : Location) (slashed : Bool) (names : List Name)
    (node : Node) : Option FileTree :=
  match tree.follow true linkLimit start slashed names with
  | .ok (.absent parent name) => some (tree.put (parent ++ [name]) node)
  | .ok (.found location (.file contents mode)) =>
    if permits writeWay (.file contents mode) then some (tree.put location node) else none
  | _ => none

/-- Sets something up where a path leads, after the directories on the way. There is no such tree if
something else is in the way. -/
def provide? (tree : FileTree) (here : Location) (path : Bytes) (node : Node) : Option FileTree :=
  if path.contains 0 ∨ pathLimit ≤ path.length then none
  else
    let path := Path.ofBytes path
    let start := if path.absolute then [] else here
    match tree.makeDirectories? start path.names.dropLast with
    | none => none
    | some tree =>
      match node with
      | .directory => tree.makeDirectories? start path.names
      | .file _ _ => tree.replace? start path.slashed path.names node
      | _ => if path.slashed then none else tree.add? start path.names node

/-- Whether everything below a location may be read. -/
def isReadable (tree : FileTree) (base : Location) : Bool :=
  tree.nodes.all fun (location, node) => !base.isPrefixOf location || permits readWay node

/-- The nodes below a location that are new or differ from those of an earlier tree, each with the
names that lead to it from that location. -/
def changesSince (tree earlier : FileTree) (base : Location) : List (List Name × Node) :=
  tree.nodes.filterMap fun (location, node) =>
    if base.isPrefixOf location ∧ base ≠ location ∧ earlier.get? location ≠ some node then
      some (location.drop base.length, node)
    else none

end FileTree

end PipelineShell
