/-
Descriptors and the tables that hold them.

A process knows its open files by the numbers of the slots in its table. A slot refers to a stream
that the process was started with, to an opened file, or to one end of a pipe; files and pipes are
told apart by a serial number. Descriptors 0, 1 and 2 are the standard streams, and a newly opened
file gets a number that is not in use.

Which one it gets differs from a real table. There it is the lowest free number, here it is one
above all those in use. The two part ways once a number between others is freed, as a redirection
does that takes the place of an earlier one. Nothing that the shell does or shows depends on it:
numbers are only used to refer to what was opened, room for more is a matter of how many are in use,
and programs get none but the first three.
-/

import PipelineShell.Association

namespace PipelineShell

/-- The number of a slot in a process's table. -/
abbrev Descriptor := Nat

/-- The streams that a process starts with. -/
inductive Stream where
  | input
  | output
  | errors
  deriving DecidableEq, Repr

/-- The slot in which a process finds a stream. -/
def Stream.slot : Stream → Descriptor
  | .input => 0
  | .output => 1
  | .errors => 2

/-- What a slot refers to. -/
inductive Handle where
  /-- A stream that the shell itself was started with. -/
  | inherited (stream : Stream)
  /-- A file opened by a redirection. -/
  | file (serial : Nat)
  /-- The end of a pipe that is read from. -/
  | readEnd (serial : Nat)
  /-- The end of a pipe that is written to. -/
  | writeEnd (serial : Nat)
  deriving DecidableEq, Repr

/-- The serial number of a file or a pipe. The streams have none. -/
def Handle.serial? : Handle → Option Nat
  | .inherited _ => none
  | .file serial | .readEnd serial | .writeEnd serial => some serial

/-- A process's descriptors and what they refer to. -/
structure Table where
  slots : List (Descriptor × Handle)
  deriving DecidableEq, Repr

namespace Table

/-- The table that the shell starts with: the three standard streams. -/
def standard : Table :=
  ⟨[.input, .output, .errors].map fun stream => (stream.slot, .inherited stream)⟩

/-- The descriptors in use. -/
def descriptors (table : Table) : List Descriptor := Association.keys table.slots

/-- What the descriptors refer to. -/
def handles (table : Table) : List Handle := table.slots.map Prod.snd

/-- What a descriptor refers to. -/
def get? (table : Table) (descriptor : Descriptor) : Option Handle :=
  Association.get? descriptor table.slots

/-- Makes a descriptor refer to something, whatever it referred to before. -/
def put (table : Table) (descriptor : Descriptor) (handle : Handle) : Table :=
  ⟨Association.put descriptor handle table.slots⟩

/-- Frees a descriptor. -/
def erase (table : Table) (descriptor : Descriptor) : Table :=
  ⟨Association.erase descriptor table.slots⟩

/-- The number that the next opened file gets: above the standard streams and all in use. It stands
for the lowest free number of a real table, from which it differs when there is a gap. -/
def fresh (table : Table) : Descriptor := table.descriptors.foldl max Stream.errors.slot + 1

theorem le_foldl_max (numbers : List Nat) (start : Nat) :
    start ≤ numbers.foldl max start ∧ ∀ number ∈ numbers, number ≤ numbers.foldl max start := by
  induction numbers generalizing start with
  | nil => simp
  | cons head rest inductionHypothesis =>
    have step := inductionHypothesis (max start head)
    refine ⟨by simp only [List.foldl_cons]; omega, ?_⟩
    intro number mem
    rcases List.mem_cons.mp mem with rfl | later
    · simp only [List.foldl_cons]
      omega
    · exact step.2 number later

/-- The next descriptor is none of the standard streams. -/
theorem slot_lt_fresh (table : Table) (stream : Stream) : stream.slot < table.fresh := by
  have bound := (le_foldl_max table.descriptors Stream.errors.slot).1
  have small : stream.slot ≤ Stream.errors.slot := by cases stream <;> decide
  exact Nat.lt_succ_of_le (Nat.le_trans small bound)

/-- The next descriptor is not in use. -/
theorem fresh_notMem (table : Table) : table.fresh ∉ table.descriptors := by
  intro mem
  have bound := (le_foldl_max table.descriptors Stream.errors.slot).2 _ mem
  exact Nat.not_succ_le_self _ bound

/-! ### The serial numbers in use -/

/-- Whether the serial numbers of all files and pipes that a table refers to are below a bound. -/
def IsBelow (bound : Nat) (table : Table) : Prop :=
  ∀ handle ∈ table.handles, ∀ serial ∈ handle.serial?, serial < bound

theorem isBelow_standard : standard.IsBelow 0 := by
  intro handle mem serial has
  simp only [standard, handles, List.map_cons, List.map_nil, List.mem_cons,
    List.not_mem_nil, or_false] at mem
  rcases mem with rfl | rfl | rfl <;> cases has

theorem IsBelow.mono {table : Table} {bound higher : Nat} (below : table.IsBelow bound)
    (le : bound ≤ higher) : table.IsBelow higher :=
  fun handle mem serial has => Nat.lt_of_lt_of_le (below handle mem serial has) le

theorem IsBelow.put {table : Table} {bound : Nat} (below : table.IsBelow bound)
    (descriptor : Descriptor) {handle : Handle}
    (isNew : ∀ serial ∈ handle.serial?, serial < bound) :
    (table.put descriptor handle).IsBelow bound := by
  intro other mem
  obtain ⟨pair, placed, rfl⟩ := List.mem_map.mp mem
  rcases Association.eq_or_mem_of_mem_put placed with rfl | old
  · exact isNew
  · exact below pair.2 (List.mem_map_of_mem old)

theorem IsBelow.erase {table : Table} {bound : Nat} (below : table.IsBelow bound)
    (descriptor : Descriptor) : (table.erase descriptor).IsBelow bound := by
  intro other mem
  obtain ⟨pair, kept, rfl⟩ := List.mem_map.mp mem
  exact below pair.2 (List.mem_map_of_mem (List.mem_filter.mp kept).1)

end Table

end PipelineShell
