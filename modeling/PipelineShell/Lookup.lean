/-
Finding the file of a program.

A program name with a slash is the file. Any other name is tried in each directory of the search
path, in order. A missing file, a missing directory and a file that may not be executed let the
search go on; anything else ends it. If no candidate starts, the refusal that is reported is denied
access when any candidate met it, and otherwise the last one met.
-/

import PipelineShell.PathName
import PipelineShell.Text.Pieces

namespace PipelineShell.Lookup

/-- The colon between the directories of a search path. -/
def colon : UInt8 := 58

/-- The search path of a program that is handed none. -/
def defaultSearchPath : Bytes := Text.encode "/bin:/usr/bin"

/-- What begins the entry that holds the search path. -/
def searchPathMark : Bytes := Text.encode "PATH="

/-- The search path that an environment holds: the first entry of that name counts. -/
def searchPath (environment : List Bytes) : Bytes :=
  (environment.findSome? searchPathMark.isPrefixOf?).getD defaultSearchPath

/-- The directories of a search path. An empty one means the current directory. -/
def directories (path : Bytes) : List Bytes :=
  (Text.pieces (· == colon) path).map fun directory =>
    if directory = [] then Text.encode "." else directory

/-- The files to try for a program, in order. -/
def candidates (program : String) (path : Bytes) : List Bytes :=
  if '/' ∈ program.toList then [Text.encode program]
  else (directories path).map fun directory => within directory (Text.encode program)

/-- How a search ends. -/
inductive Verdict where
  | started (file : Bytes)
  | refused (errno : Errno)
  deriving DecidableEq, Repr

/-- Tries files in order, when `last` is the latest refusal and `denied` says whether access was
denied so far. `refusal` tells why the system refuses a file, if it does. -/
def tryFrom (refusal : Bytes → Option Errno) (denied : Bool) (last : Errno) : List Bytes → Verdict
  | [] => .refused (if denied then .accessDenied else last)
  | file :: rest =>
    match refusal file with
    | none => .started file
    | some .accessDenied => tryFrom refusal true .accessDenied rest
    | some .noEntry => tryFrom refusal denied .noEntry rest
    | some .notDirectory => tryFrom refusal denied .notDirectory rest
    | some errno => .refused errno

/-- Tries files in order until one starts. -/
def search (refusal : Bytes → Option Errno) (files : List Bytes) : Verdict :=
  tryFrom refusal false .noEntry files

/-- The exit code of a program that was not found. -/
def notFound : Int := 127

/-- The exit code of a program that was found but could not be executed. -/
def notExecutable : Int := 126

/-- The exit code of a child whose search ended in this refusal. -/
def exitCode (errno : Errno) : Int := if errno = .noEntry then notFound else notExecutable

end PipelineShell.Lookup
