/-
The shell's process.

The interpreter is the shell as a process: its descriptor table, how many descriptors it may have
open, a history of what it did, and the world around it. The operations here are the only ones that
touch the table. Each records what it did, so a statement about the history is a statement about
every descriptor that was opened or closed and every process that was started or waited for.
-/

import PipelineShell.PathName
import PipelineShell.Pipeline
import PipelineShell.System

namespace PipelineShell

/-- A process that the shell started, as its history keeps it. -/
structure Start where
  pid : ProcessId
  stage : Stage
  /-- The table that the process inherits. -/
  inherited : Table
  /-- The descriptors that it closes, in order. -/
  closed : List Descriptor
  /-- The table that it executes its program with. -/
  slots : Table
  deriving DecidableEq, Repr

/-- Something that the interpreter did. -/
inductive Event where
  /-- The system was asked for a file, which is known by the serial number if it is opened. -/
  | requested (path : String) (truncate : Bool) (serial : Nat)
  | opened (descriptor : Descriptor) (handle : Handle)
  | closed (descriptor : Descriptor)
  /-- Two neighbouring stages, as they were when they were about to be joined by a pipe. -/
  | joined (left right : Stage)
  /-- A pipeline was given away to be run. -/
  | handed (pipeline : Pipeline)
  | started (start : Start)
  | awaited (pid : ProcessId)
  | entered (entry : Entry)
  | wrote (stream : Stream) (text : String)
  deriving DecidableEq, Repr

/-- The shell's process, in a world of type `σ`. -/
structure Interpreter (σ : Type) where
  table : Table
  /-- How many descriptors may be open at once; nothing means that there is no bound. -/
  limit : Option Nat
  /-- How many files and pipes were opened so far; the next one gets this serial number. -/
  minted : Nat
  /-- What the interpreter did, the latest first. -/
  past : List Event
  world : σ
  /-- Serial numbers in use were given out before, so the next one is new. -/
  known : table.IsBelow minted

namespace Interpreter

variable {σ : Type}

/-- A new interpreter, with the standard streams open. -/
def start (world : σ) : Interpreter σ where
  table := .standard
  limit := none
  minted := 0
  past := []
  world
  known := Table.isBelow_standard

/-- The history: what the interpreter did, the earliest first. -/
def events (shell : Interpreter σ) : List Event := shell.past.reverse

/-- Adds to the history. -/
def record (shell : Interpreter σ) (event : Event) : Interpreter σ :=
  { shell with past := event :: shell.past }

/-- Enters something in the journal. -/
def enter (system : System σ) (level : Level) (message : String) (shell : Interpreter σ) :
    Interpreter σ :=
  { shell.record (.entered ⟨level, message⟩) with
    world := system.enter ⟨level, message⟩ shell.world }

/-- Writes to one of the shell's own streams. -/
def write (system : System σ) (stream : Stream) (text : String) (shell : Interpreter σ) :
    Interpreter σ :=
  { shell.record (.wrote stream text) with world := system.write stream text shell.world }

/-- Whether so many more descriptors may be opened. -/
def hasRoom (shell : Interpreter σ) (count : Nat) : Bool :=
  match shell.limit with
  | none => true
  | some limit => shell.table.slots.length + count ≤ limit

/-- Gives out the next serial number. -/
def mint (shell : Interpreter σ) : Interpreter σ :=
  { shell with
    minted := shell.minted + 1
    known := shell.known.mono (Nat.le_succ _) }

/-- Gives what was just opened the next descriptor. -/
def install (shell : Interpreter σ) (handle : Handle)
    (isMinted : ∀ serial ∈ handle.serial?, serial < shell.minted) : Descriptor × Interpreter σ :=
  let descriptor := shell.table.fresh
  (descriptor,
    { shell.record (.opened descriptor handle) with
      table := shell.table.put descriptor handle
      known := shell.known.put descriptor isMinted })

/-- Opens a file for a redirection. The path is looked at first, then the number of open
descriptors, and then the file. -/
def openFile (system : System σ) (path : String) (truncate : Bool) (shell : Interpreter σ) :
    Except Fault Descriptor × Interpreter σ :=
  match systemPath path with
  | .error fault => (.error fault, shell)
  | .ok bytes =>
    if shell.hasRoom 1 then
      let serial := shell.minted
      let shell := shell.record (.requested path truncate serial)
      match system.openFile bytes truncate serial shell.world with
      | (.error errno, world) => (.error (.refused errno), { shell with world })
      | (.ok (), world) =>
        let file := { shell with world }.mint.install (.file serial)
          (by simp [Handle.serial?, mint, record, shell, serial])
        (.ok file.1, file.2)
    else (.error (.refused .tooManyOpen), shell)

/-- The two descriptors of a pipe. -/
structure PipeEnds where
  readEnd : Descriptor
  writeEnd : Descriptor
  deriving DecidableEq, Repr

/-- Makes a pipe, which takes two descriptors. -/
def makePipe (system : System σ) (shell : Interpreter σ) : Except Errno PipeEnds × Interpreter σ :=
  if shell.hasRoom 2 then
    match system.makePipe shell.minted shell.world with
    | (.error errno, world) => (.error errno, { shell with world })
    | (.ok (), world) =>
      let serial := shell.minted
      let reading := { shell with world }.mint.install (.readEnd serial)
        (by simp [Handle.serial?, mint, serial])
      let writing := reading.2.install (.writeEnd serial)
        (by simp [Handle.serial?, install, mint, record, reading, serial])
      (.ok ⟨reading.1, writing.1⟩, writing.2)
  else (.error .tooManyOpen, shell)

/-- Closes a descriptor. -/
def close (shell : Interpreter σ) (descriptor : Descriptor) : Interpreter σ :=
  { shell.record (.closed descriptor) with
    table := shell.table.erase descriptor
    known := shell.known.erase descriptor }

/-- Closes descriptors in order. -/
def closeAll (shell : Interpreter σ) (descriptors : List Descriptor) : Interpreter σ :=
  descriptors.foldl close shell

/-- Closes what was opened for a stage. -/
def release (shell : Interpreter σ) (stage : Stage) : Interpreter σ := shell.closeAll stage.owned

/-- Closes what was opened for stages, in order. -/
def releaseAll (shell : Interpreter σ) (stages : List Stage) : Interpreter σ :=
  shell.closeAll (stages.flatMap Stage.owned)

/-- Lets a stage use a descriptor, and closes the one that it used before in its place. -/
def attach (shell : Interpreter σ) (stage : Stage) (direction : Direction)
    (descriptor : Descriptor) : Stage × Interpreter σ :=
  (stage.connect direction (.owned descriptor),
    shell.closeAll (stage.endpoint direction).owned?.toList)

/-! ### What each operation leaves alone -/

@[simp] theorem events_record (shell : Interpreter σ) (event : Event) :
    (shell.record event).events = shell.events ++ [event] :=
  List.reverse_cons

@[simp] theorem fst_install (shell : Interpreter σ) (handle : Handle)
    (isMinted : ∀ serial ∈ handle.serial?, serial < shell.minted) :
    (shell.install handle isMinted).1 = shell.table.fresh := rfl

theorem slots_install (shell : Interpreter σ) (handle : Handle)
    (isMinted : ∀ serial ∈ handle.serial?, serial < shell.minted) :
    (shell.install handle isMinted).2.table.slots =
      shell.table.slots ++ [(shell.table.fresh, handle)] :=
  Association.put_of_notMem shell.table.fresh_notMem handle

@[simp] theorem events_install (shell : Interpreter σ) (handle : Handle)
    (isMinted : ∀ serial ∈ handle.serial?, serial < shell.minted) :
    (shell.install handle isMinted).2.events =
      shell.events ++ [.opened shell.table.fresh handle] :=
  List.reverse_cons

@[simp] theorem table_close (shell : Interpreter σ) (descriptor : Descriptor) :
    (shell.close descriptor).table = shell.table.erase descriptor := rfl

@[simp] theorem events_close (shell : Interpreter σ) (descriptor : Descriptor) :
    (shell.close descriptor).events = shell.events ++ [.closed descriptor] :=
  List.reverse_cons

/-- Closing descriptors in order erases each of them from the table. -/
theorem table_closeAll (shell : Interpreter σ) (descriptors : List Descriptor) :
    (shell.closeAll descriptors).table = descriptors.foldl Table.erase shell.table := by
  induction descriptors generalizing shell with
  | nil => rfl
  | cons first rest inductionHypothesis => exact inductionHypothesis (shell.close first)

theorem minted_closeAll (shell : Interpreter σ) (descriptors : List Descriptor) :
    (shell.closeAll descriptors).minted = shell.minted := by
  induction descriptors generalizing shell with
  | nil => rfl
  | cons first rest inductionHypothesis => exact inductionHypothesis (shell.close first)

/-- The world does not notice that descriptors are closed. -/
theorem world_closeAll (shell : Interpreter σ) (descriptors : List Descriptor) :
    (shell.closeAll descriptors).world = shell.world := by
  induction descriptors generalizing shell with
  | nil => rfl
  | cons first rest inductionHypothesis => exact inductionHypothesis (shell.close first)

/-! ### What a history shows -/

/-- What is picked from the history, in order. -/
def recorded {α : Type} (pick : Event → Option α) (shell : Interpreter σ) : List α :=
  shell.events.filterMap pick

theorem recorded_record {α : Type} (pick : Event → Option α) (shell : Interpreter σ)
    (event : Event) :
    (shell.record event).recorded pick = shell.recorded pick ++ (pick event).toList := by
  rw [recorded, events_record, List.filterMap_append, recorded]
  cases found : pick event <;> simp [found]

theorem recorded_record_of_none {α : Type} {pick : Event → Option α} {event : Event}
    (unpicked : pick event = none) (shell : Interpreter σ) :
    (shell.record event).recorded pick = shell.recorded pick := by
  rw [recorded_record, unpicked]
  exact List.append_nil _

theorem recorded_closeAll {α : Type} {pick : Event → Option α}
    (unpicked : ∀ descriptor, pick (.closed descriptor) = none) (shell : Interpreter σ)
    (descriptors : List Descriptor) :
    (shell.closeAll descriptors).recorded pick = shell.recorded pick := by
  induction descriptors generalizing shell with
  | nil => rfl
  | cons first rest inductionHypothesis =>
    exact (inductionHypothesis (shell.close first)).trans
      (recorded_record_of_none (unpicked first) shell)

end Interpreter

end PipelineShell
