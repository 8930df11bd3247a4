/-
The tool that copies its input: `cat`. On the way it may number lines, leave out repeated empty
ones, and make visible what cannot be printed.
-/

import PipelineShell.Machine.Tool.Options

namespace PipelineShell.Tool

/-- How lines are changed on the way. -/
structure CopyStyle where
  numbersAll : Bool
  /-- Numbers the lines that are not empty, and those only. -/
  numbersFilled : Bool
  squeezes : Bool
  marksEnds : Bool
  marksTabs : Bool
  /-- Makes characters visible that cannot be printed. -/
  visible : Bool
  deriving DecidableEq

/-- Copies everything as it is. -/
def CopyStyle.plain : CopyStyle := ⟨false, false, false, false, false, false⟩

/-- The options of `cat`. -/
def copyOptions : OptionTable where
  letters := "AbeEnstTuv".toList.map fun letter => (letter, .nothing)
  words := [("number-nonblank", .nothing, "b"), ("number", .nothing, "n"),
    ("squeeze-blank", .nothing, "s"), ("show-nonprinting", .nothing, "v"),
    ("show-ends", .nothing, "E"), ("show-tabs", .nothing, "T"), ("show-all", .nothing, "A"),
    ("help", .nothing, "help"), ("version", .nothing, "version")]
  ordered := false

/-- What an option adds to a style. -/
def CopyStyle.withOption (style : CopyStyle) (key : String) : CopyStyle :=
  match key with
  | "A" => { style with visible := true, marksEnds := true, marksTabs := true }
  | "b" => { style with numbersFilled := true }
  | "e" => { style with visible := true, marksEnds := true }
  | "E" => { style with marksEnds := true }
  | "n" => { style with numbersAll := true }
  | "s" => { style with squeezes := true }
  | "t" => { style with visible := true, marksTabs := true }
  | "T" => { style with marksTabs := true }
  | "v" => { style with visible := true }
  | _ => style

/-- A byte of at most seven bits made visible. -/
def visibleLow (byte : UInt8) : Bytes :=
  if byte < 32 then [94, byte + 64] else if byte = 127 then Text.encode "^?" else [byte]

/-- A byte as a style shows it within a line. -/
def CopyStyle.byte (style : CopyStyle) (byte : UInt8) : Bytes :=
  if byte = 9 then if style.marksTabs then Text.encode "^I" else [byte]
  else if style.visible then
    if byte < 128 then visibleLow byte else Text.encode "M-" ++ visibleLow (byte - 128)
  else [byte]

/-- The text of a line as a style shows it. Where ends are marked, a carriage return before the end
is made visible, too. -/
def CopyStyle.text (style : CopyStyle) (ended : Bool) (line : Bytes) : Bytes :=
  if style.marksEnds ∧ ended ∧ line.getLast? = some 13 then
    line.dropLast.flatMap style.byte ++ Text.encode "^M"
  else line.flatMap style.byte

/-- What copying remembers from line to line: the number of lines, whether the last line has not
ended, whether it was empty, and what is kept of it until more is known. -/
structure CopyState where
  count : Nat
  unfinished : Bool
  empty : Bool
  kept : Bytes

/-- A line number, before its line. -/
def lineNumber (number : Nat) : Bytes :=
  let digits := toString number
  Text.encode (String.ofList (List.replicate (6 - digits.length) ' ') ++ digits ++ "\t")

/-- Copies one line, which may lack its end and may go on with the line before it. One without an
end has something in it, even if that comes later. -/
def CopyStyle.line (style : CopyStyle) (state : CopyState) (line : Bytes) : Bytes × CopyState :=
  let ended : Bool := line.getLast? = some Text.lineFeed
  let inside := if ended then line.dropLast else line
  let fresh := !state.unfinished
  let empty := fresh && ended && inside.isEmpty
  if style.squeezes && empty && state.empty then ([], state)
  else
    let numbers := fresh && if style.numbersFilled then !empty else style.numbersAll
    let count := if numbers then state.count + 1 else state.count
    ((if numbers then lineNumber count else []) ++ style.text ended inside ++
        (if ended then (if style.marksEnds then Text.encode "$" else []) ++ [Text.lineFeed]
          else []),
      { state with count, unfinished := !ended, empty })

/-- Copies lines in order. -/
def CopyStyle.lines (style : CopyStyle) (state : CopyState) : List Bytes → Bytes × CopyState
  | [] => ([], state)
  | line :: rest =>
    let (first, state) := style.line state line
    let (others, state) := style.lines state rest
    (first ++ others, state)

/-- How much is copied at once. -/
def copySize : Nat := 131072

/-- Keeps a carriage return that may belong to the end of a line. The number of the line is written
at once. -/
def CopyStyle.keep (style : CopyStyle) (state : CopyState) : Bytes × CopyState :=
  let (text, state) := style.line state []
  (text, { state with kept := [13] })

/-- Copies one block. A carriage return at its end may belong to the end of a line, so it is kept
for the next block, even that of another file, if ends are marked and it would not be made visible
anyway. -/
def CopyStyle.block (style : CopyStyle) (state : CopyState) (block : Bytes) : Bytes × CopyState :=
  if style = .plain then (block, state)
  else
    let bytes := state.kept ++ block
    let state := { state with kept := [] }
    if style.marksEnds && !style.visible && bytes.getLast? = some 13 then
      let (text, state) := style.lines state (Text.cutAfter Text.lineFeed bytes.dropLast)
      let (front, state) := style.keep state
      (text ++ front, state)
    else style.lines state (Text.cutAfter Text.lineFeed bytes)

/-- How copying a file ends. -/
inductive CopyResult where
  | copied (state : CopyState)
  | unreadable (errno : Errno)
  | unwritable (errno : Errno)

/-- Copies what can be read through a handle, block by block. The number bounds how many blocks
there may be. -/
def copyBlocks (activity : Activity) (style : CopyStyle) (handle : Handle) :
    Nat → CopyState → Process CopyResult
  | 0, state => return .copied state
  | steps + 1, state => do
    match ← Process.read activity.standing handle copySize with
    | .error errno => return .unreadable errno
    | .ok [] => return .copied state
    | .ok bytes =>
      let (text, state) := style.block state bytes
      match ← activity.write .output text with
      | .error errno => return .unwritable errno
      | .ok _ => copyBlocks activity style handle steps state

/-- Whether copying a file to the output would copy it to itself: it is the file behind the output,
and something in it is still to be read. -/
def copiesToItself (activity : Activity) (handle : Handle) (kernel : Kernel) : Bool :=
  match kernel.location? handle, activity.location? .output kernel with
  | some input, some output =>
    input = output && (kernel.size? handle).any (kernel.position handle < ·)
  | _, _ => false

/-- Whether the system copies a file to the output by itself: both are files, and the output is not
only added to. A failure is then a failure of the file. -/
def copiesDirectly (activity : Activity) (style : CopyStyle) (handle : Handle)
    (kernel : Kernel) : Bool :=
  style = .plain && (kernel.size? handle).isSome &&
    (activity.slots.get? Stream.output.slot).any fun output =>
      (kernel.size? output).isSome && !kernel.isAppending output

/-- Copies files to the output in order, and fails if one of them cannot be copied. When the output
takes no more, copying is over. What was kept of the last line is written at the end. -/
def copyOperands (activity : Activity) (style : CopyStyle) :
    CopyState → Int → List Bytes → Process Int
  | state, code, [] => do
    match ← activity.write .output state.kept with
    | .ok _ => return code
    | .error errno =>
      activity.warn (Text.encode ("write error: " ++ errno.sentence))
      return 1
  | state, code, file :: rest => do
    match ← openOperand activity file with
    | .error errno =>
      activity.warn (aboutFile activity file errno.sentence)
      copyOperands activity style state 1 rest
    | .ok handle =>
      if copiesToItself activity handle (← Process.kernel) then
        activity.warn (aboutFile activity file "input file is output file")
        closeOperand activity handle
        copyOperands activity style state 1 rest
      else
        let directly := copiesDirectly activity style handle (← Process.kernel)
        let result ← copyBlocks activity style handle Process.patience state
        closeOperand activity handle
        match result, directly with
        | .copied state, _ => copyOperands activity style state code rest
        | .unreadable errno, _ | .unwritable errno, true =>
          activity.warn (aboutFile activity file errno.sentence)
          copyOperands activity style state 1 rest
        | .unwritable errno, false =>
          activity.warn (Text.encode ("write error: " ++ errno.sentence))
          return 1

/-- Copies its files, or its input if it has none, to its output. -/
def concatenate : Tool := fun activity => do
  let events := optionEvents copyOptions activity
  match collectOptions (fun style key _ => .ok (CopyStyle.withOption style key)) .plain events with
  | .error (message, _) => (·.1) <$> (Work.refuse activity message 1).run .new
  | .ok style =>
    if (activity.slots.get? Stream.output.slot).isNone then
      activity.warn (Text.encode "standard output: Bad file descriptor")
      return 1
    let files := operandsOf events
    let files := if files = [] then [dash] else files
    let code ← copyOperands activity style ⟨0, false, false, []⟩ 0 files
    if inputIsClosed activity files then
      activity.warn (Text.encode "closing standard input: Bad file descriptor")
      return 1
    return code

end PipelineShell.Tool
