/-
Files that list the files to be read.

Instead of naming its files a tool can be told to read their names from another file, in which each
name has a zero behind it. No other files may be named then, and the names may not be empty.
-/

import PipelineShell.Machine.Tool.Options
import PipelineShell.Text.Pieces

namespace PipelineShell.Tool

/-- The names that a file lists, each with a zero behind it. -/
def listedNames (contents : Bytes) : List Bytes :=
  let names := Text.pieces (· == 0) contents
  if names.getLast? = some [] then names.dropLast else names

/-- The message about a file that is named although another one lists the files. -/
def extraListed (activity : Activity) (extra : Bytes) : Bytes :=
  Text.encode "extra operand " ++ quotedName (localeOf activity) extra ++
    Text.encode "\nfile operands cannot be combined with --files0-from"

/-- The message about an empty name, with its number if it is listed in a file. -/
def emptyName (activity : Activity) (source : Option Bytes) (number : Nat) : Bytes :=
  let place := match source with
    | none => []
    | some source =>
      shown (localeOf activity) source ++ Text.encode (":" ++ toString number ++ ": ")
  place ++ Text.encode "invalid zero-length file name"

/-- The message about the input, when it is listed as a file. -/
def inputListed (activity : Activity) : Bytes :=
  Text.encode "when reading file names from stdin, no file name of " ++
    quotedName (localeOf activity) dash ++ Text.encode " allowed"

end PipelineShell.Tool
