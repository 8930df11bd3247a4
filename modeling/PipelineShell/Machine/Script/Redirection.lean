/-
Redirections.

The words of redirections are expanded first, all of them. The redirections are then carried out in
order, on the slots of the process. When a command is over, the slots that it redirected are what
they were before.
-/

import PipelineShell.Machine.Script.Expansion

namespace PipelineShell.Script

/-- What a slot is made to refer to. -/
inductive Target where
  | file (kind : RedirectKind) (path : Characters)
  /-- What another slot refers to, or nothing. -/
  | copy (source : Option Nat)
  /-- A here-document. -/
  | document (number : Nat)

/-- A redirection whose word was expanded. -/
structure Direction where
  slot : Nat
  target : Target

/-- Expands the word of a redirection. -/
def expandRedirect (engine : Engine) : Redirect → Running Direction
  | .file slot kind name => do
    return ⟨slot, .file kind (← expandText engine .text true name)⟩
  | .copy slot source => return ⟨slot, .copy source⟩
  | .copyNamed slot source => do
    match ← expandText engine .text true source with
    | ['-'] => return ⟨slot, .copy none⟩
    | [digit] =>
      if digit.isDigit then return ⟨slot, .copy (some (digit.toNat - '0'.toNat))⟩ else badSlot
    | _ => badSlot
  | .document slot number => return ⟨slot, .document number⟩
where
  /-- Complains about a word that names no slot. The message names the line that reading has come
  to, as those about the form of a script do. -/
  badSlot : Running Direction := do
    Running.change fun context => { context with line := context.reached }
    Running.fail "Syntax error: Bad fd number".toList

/-! ### Carrying out -/

/-- Why a file cannot be opened. -/
def openReason (errno : Errno) : String :=
  if errno = .noEntry ∨ errno = .notDirectory then "No such file" else errno.sentence

/-- Why a file cannot be created. -/
def createReason (errno : Errno) : String :=
  if errno = .noEntry ∨ errno = .notDirectory then "Directory nonexistent" else errno.sentence

/-- Complains about a file that cannot be opened. -/
def cannotOpen (path : Characters) (errno : Errno) : Running Unit :=
  Running.fail ("cannot open ".toList ++ path ++ ": ".toList ++ (openReason errno).toList)

/-- Complains about a file that cannot be created. -/
def cannotCreate (path : Characters) (errno : Errno) : Running Unit :=
  Running.fail ("cannot create ".toList ++ path ++ ": ".toList ++ (createReason errno).toList)

/-- Opens a file for a slot, or complains. -/
def openSlot (slot : Nat) (path : Characters) (access : Access)
    (complain : Characters → Errno → Running Unit) : Running Unit := do
  match ← (← Running.context).activity.openFile (Tool.ofCharacters path) access with
  | .ok handle => Running.change (Running.connect slot handle)
  | .error errno => complain path errno

/-- Opens a file that is written to, or creates it. -/
def openForWriting (slot : Nat) (path : Characters) (reads appends truncates : Bool) :
    Running Unit := do
  let mode := FileTree.masked 0o666 (← Running.context).activity.mask
  openSlot slot path ⟨reads, true, appends, truncates, mode⟩ cannotCreate

/-- Opens a file that is written to without touching what other files hold: it is created, and a
link in its place is not followed. Only what is no ordinary file is opened as it is. -/
def openUntaken (slot : Nat) (path : Characters) : Running Unit := do
  let activity := (← Running.context).activity
  let kernel ← Process.kernel
  let bytes := Tool.ofCharacters path
  match kernel.find activity.slots activity.directory bytes with
  | .ok (_, .file _ _) | .ok (_, .program _) => cannotCreate path .alreadyThere
  | .ok _ => openSlot slot path ⟨false, true, false, false, none⟩ cannotOpen
  | .error _ =>
    if kernel.tree.isLink activity.directory bytes then cannotCreate path .alreadyThere
    else openForWriting slot path false false false

/-- Opens the file of a redirection. -/
def openTarget (slot : Nat) (kind : RedirectKind) (path : Characters) : Running Unit := do
  match kind with
  | .read =>
    openSlot slot path .reading cannotOpen
  | .write =>
    if ← Running.isSet "noclobber" then openUntaken slot path
    else openForWriting slot path false false true
  | .clobber => openForWriting slot path false false true
  | .append => openForWriting slot path false true false
  | .readWrite => openForWriting slot path true false false

/-- Lets a slot read a here-document. -/
def openDocument (engine : Engine) (slot number : Nat) : Running Unit := do
  let text ← match Association.get? number (← Running.context).documents with
    | none => pure []
    | some document =>
      if document.expands then expandText engine .document false document.text
      else pure (writtenText document.text)
  if !(← Running.context).activity.mayOpen 2 then Running.fail "Pipe call failed".toList
  let serial ← Process.call fun kernel => kernel.installPipe (.ofBytes (Tool.ofCharacters text))
  Running.change (Running.connect slot (.readEnd serial))

/-- Carries out a redirection. -/
def direct (engine : Engine) (direction : Direction) : Running Unit := do
  match direction.target with
  | .file kind path => openTarget direction.slot kind path
  | .document number => openDocument engine direction.slot number
  | .copy none => Running.change (Running.disconnect direction.slot)
  | .copy (some source) =>
    if source ≠ direction.slot then
      match (← Running.context).activity.slots.get? source with
      | some handle => Running.change (Running.connect direction.slot handle)
      | none => Running.fail (Arithmetic.decimal source ++ ": Bad file descriptor".toList)

/-! ### Keeping what slots refer to -/

/-- What the slots of some directions refer to. -/
def directedHandles (slots : Table) (directions : List Direction) : List Handle :=
  directions.filterMap fun direction => slots.get? direction.slot

/-- The first number for what is kept. Scripts themselves use lower numbers only. -/
def firstKept : Nat := 10

/-- Why nothing more can be kept if some number of slots is, or nothing. -/
def keepingRefusal (kept : Nat) (allowances : Allowances) : Option Errno :=
  allowances.openFiles.bind fun bound =>
    if bound ≤ firstKept then some .invalidArgument
    else if bound ≤ firstKept + kept then some .tooManyOpen
    else none

/-- The first slot that is not in use. -/
def firstFree (slots : Table) : Nat :=
  let used := slots.descriptors
  ((List.range used.length).find? fun number => !used.contains number).getD used.length

/-- Gives up a slot whose meaning cannot be kept: it is closed, and what it was to refer to stays
open in another slot. `before` are the slots before the redirection. -/
def giveUp (before : Table) (direction : Direction) (errno : Errno) : Running Unit := do
  let slot := direction.slot
  let handle := (← Running.context).activity.slots.get? slot
  let opened := match direction.target with
    | .copy _ => none
    | _ => handle
  Running.change (Running.disconnect slot)
  opened.forM fun handle => Running.change (Running.connect (firstFree before) handle)
  let complaint : Running Unit :=
    Running.fail (Arithmetic.decimal slot ++ ": ".toList ++ errno.sentence.toList)
  let _ ← Running.attempt complaint

/-- Carries out redirections in order. A slot that is redirected for the first time is closed before
it becomes what another one is, so a complaint about the other one has nowhere to go if the slot is
that of the error stream. `redirected` are the slots that were redirected already, and `kept` is how
many things are kept. Gives the slot whose meaning cannot be kept, if there is one. -/
def directInOrder (engine : Engine) :
    (kept : Nat) → (redirected : List Nat) → List Direction → Running (Option Nat)
  | _, _, [] => return none
  | kept, redirected, direction :: rest => do
    let slot := direction.slot
    let activity := (← Running.context).activity
    let isNew := !redirected.contains slot
    let keeps := isNew && (activity.slots.get? slot).isSome
    let refusal := if keeps then keepingRefusal kept activity.allowances else none
    match direction.target with
    | .copy (some source) =>
      if source = slot then directInOrder engine kept redirected rest
      else
        if isNew then Running.change (Running.disconnect slot)
        match refusal with
        | some errno =>
          giveUp activity.slots direction errno
          return some slot
        | none =>
          direct engine direction
          directInOrder engine (if keeps then kept + 1 else kept) (slot :: redirected) rest
    | _ =>
      direct engine direction
      match refusal with
      | some errno =>
        giveUp activity.slots direction errno
        return some slot
      | none =>
        directInOrder engine (if keeps then kept + 1 else kept) (slot :: redirected) rest

/-- Closes what the process has not open any more. -/
def releaseAll (handles : List Handle) : Running Unit := do
  let own := (← Running.context).standing.handles
  Process.change fun kernel => handles.foldl (fun kernel => kernel.release own) kernel

/-- Makes the slots that were redirected what they were in the context before. -/
def restoreSlots (before : Context) (directions : List Direction) : Running Unit := do
  let directed := directedHandles (← Running.context).activity.slots directions
  Running.change fun context =>
    let slots := directions.foldl (fun slots direction =>
      match before.activity.slots.get? direction.slot with
      | some handle => slots.put direction.slot handle
      | none => slots.erase direction.slot) context.activity.slots
    { context with activity := { context.activity with slots }, saved := before.saved }
  releaseAll directed

/-- Carries out redirections, and keeps what the slots referred to. If one of them is not possible,
the slots are what they were before, but for one whose meaning cannot be kept. Tells whether all of
them were possible. -/
def directAll (engine : Engine) (directions : List Direction) : Running Bool := do
  let before ← Running.context
  Running.change fun context => { context with
    saved := directedHandles context.activity.slots directions ++ context.saved }
  match ← Running.attempt (directInOrder engine before.saved.length [] directions) with
  | .ok none => return true
  | .ok (some slot) =>
    restoreSlots before (directions.filter fun direction => direction.slot ≠ slot)
    releaseAll (before.activity.slots.get? slot).toList
    return false
  | .error .failure =>
    restoreSlots before directions
    return false
  | .error stop => throw stop

/-- Lets the slots stay redirected, and forgets what they were in the context before. -/
def forgetSlots (before : Context) (directions : List Direction) : Running Unit := do
  Running.change fun context => { context with saved := before.saved }
  releaseAll (directedHandles before.activity.slots directions)

end PipelineShell.Script
