/-
What a process may use.

The system bounds for each process how much it uses of several resources. Of each there are two
bounds: the one that is kept, and the highest one that the process may set. It may lower both and
never raise the second. Three of them have an effect here: a file cannot be written to beyond the
bound on its size, no more files are opened than may be open at once, and the arguments of a program
have to fit into a part of its stack.
-/

import PipelineShell.Association
import PipelineShell.Fault

namespace PipelineShell

/-- How much of a resource may be used. A bound that is missing is never reached. -/
structure Allowance where
  /-- The bound that is kept. -/
  kept : Option Nat
  /-- The highest bound that may be set. -/
  highest : Option Nat
  deriving DecidableEq, Repr

namespace Allowance

/-- As much as one wants. -/
def unlimited : Allowance := ⟨none, none⟩

/-- Whether a bound is at most another one. -/
def isWithin : Option Nat → Option Nat → Bool
  | _, none => true
  | none, some _ => false
  | some bound, some other => bound ≤ other

/-- Why an allowance cannot be replaced by another one, if it cannot. -/
def refusal (before after : Allowance) : Option Errno :=
  if !isWithin after.kept after.highest then some .invalidArgument
  else if !isWithin after.highest before.highest then some .notPermitted
  else none

end Allowance

/-- Something that is used. -/
structure Resource where
  letter : Char
  name : String
  /-- In which portions it is counted. -/
  unit : Nat
  /-- What a process starts with. -/
  initial : Allowance
  deriving DecidableEq, Repr

/-- The resources. -/
def resources : List Resource :=
  [⟨'t', "time(seconds)", 1, .unlimited⟩,
    ⟨'f', "file(blocks)", 512, .unlimited⟩,
    ⟨'d', "data(kbytes)", 1024, .unlimited⟩,
    ⟨'s', "stack(kbytes)", 1024, ⟨some 8388608, none⟩⟩,
    ⟨'c', "coredump(blocks)", 512, .unlimited⟩,
    ⟨'m', "memory(kbytes)", 1024, .unlimited⟩,
    ⟨'l', "locked memory(kbytes)", 1024, .unlimited⟩,
    ⟨'p', "process", 1, .unlimited⟩,
    ⟨'n', "nofiles", 1, ⟨some 1048576, some 1048576⟩⟩,
    ⟨'v', "vmemory(kbytes)", 1024, .unlimited⟩,
    ⟨'w', "locks", 1, .unlimited⟩,
    ⟨'r', "rtprio", 1, ⟨some 0, some 0⟩⟩]

/-- The allowances that a process changed, by the letters of the resources. -/
abbrev Allowances := List (Char × Allowance)

/-- What a process may use of a resource. -/
def Allowances.get (allowances : Allowances) (resource : Resource) : Allowance :=
  (Association.get? resource.letter allowances).getD resource.initial

/-- The bound that a process keeps to for the resource with a letter. -/
def Allowances.bound (allowances : Allowances) (letter : Char) : Option Nat :=
  (resources.find? fun resource => resource.letter = letter).bind fun resource =>
    (allowances.get resource).kept

/-- How many files may be open at once. -/
def Allowances.openFiles (allowances : Allowances) : Option Nat := allowances.bound 'n'

/-- How large the stack may become. -/
def Allowances.stack (allowances : Allowances) : Option Nat := allowances.bound 's'

/-- The first size that no file can have. A bound from there on is as good as zero. -/
def sizeRange : Nat := 0x8000000000000000

/-- How large a file may become. -/
def Allowances.fileSize (allowances : Allowances) : Option Nat :=
  ((Association.get? 'f' allowances).bind Allowance.kept).map fun bound =>
    if bound < sizeRange then bound else 0

end PipelineShell
