/-
Paths as the system takes them.
-/

import PipelineShell.Fault
import PipelineShell.Text.Bytes

namespace PipelineShell

/-- The slash between the names of a path. -/
def slash : UInt8 := 47

/-- The longest path, with its end mark, that the system takes. -/
def pathLimit : Nat := 4096

/-- A name within a directory. A slash is put between them, unless the directory is nothing or ends
in one. -/
def within (directory name : Bytes) : Bytes :=
  if directory = [] ∨ directory.getLast? = some slash then directory ++ name
  else directory ++ slash :: name

/-- A path as the system takes it. A zero byte, an empty path and an overlong one are refused
before anything else is looked at. -/
def systemPath (path : String) : Except Fault Bytes :=
  let bytes := Text.encode path
  if Text.nulOffset? bytes ≠ none then .error .nulInName
  else if bytes = [] then .error (.refused .noEntry)
  else if pathLimit ≤ bytes.length then .error (.refused .nameTooLong)
  else .ok bytes

end PipelineShell
