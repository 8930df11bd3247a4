/-
Commands that read: a line of the input, and options among the parameters.
-/

import PipelineShell.Machine.Script.Command

namespace PipelineShell.Script.Command

/-! ### Lines -/

/-- A line that was read: its segments, and whether it was complete. -/
structure ReadLine where
  segments : List Segment
  complete : Bool

/-- Divides a line. Unless it is read raw, a backslash makes the character after it an ordinary one
and joins a line with the next. Stretches without backslashes are split later. -/
def takeLine (raw : Bool) (stretch : Characters) : Characters → ReadLine
  | [] => ⟨[splits stretch], false⟩
  | '\n' :: _ => ⟨[splits stretch], true⟩
  | '\\' :: rest =>
    if raw then takeLine raw (stretch ++ ['\\']) rest
    else
      match rest with
      | [] => ⟨[splits stretch], false⟩
      | '\n' :: after =>
        let line := takeLine raw [] after
        { line with segments := splits stretch :: line.segments }
      | character :: after =>
        let line := takeLine raw [] after
        { line with
          segments := splits stretch :: ⟨.fixed, [.character character false]⟩ :: line.segments }
  | character :: rest =>
    if character = border then takeLine raw stretch rest
    else takeLine raw (stretch ++ [character]) rest
where
  /-- The segment of a stretch. -/
  splits (stretch : Characters) : Segment :=
    ⟨.splits, stretch.map fun character => .character character false⟩

/-- How many characters belong to a line, its end included, and whether a backslash is open behind
them; nothing of that sort if the line ends among them. -/
def lineLength (raw : Bool) (escaping : Bool) : Characters → Nat × Option Bool
  | [] => (0, some escaping)
  | character :: rest =>
    if character = '\n' && !escaping then (1, none)
    else
      let (count, after) := lineLength raw (!raw && character = '\\' && !escaping) rest
      (count + 1, after)

/-- How much of the input is looked at at once. -/
def lookahead : Nat := 256

/-- Takes the rest of a line from the input, and nothing behind it. The number bounds how often the
input is looked at. -/
def takeInput (raw : Bool) (handle : Handle) : Nat → (escaping : Bool) → Running Characters
  | 0, _ => return []
  | steps + 1, escaping => do
    match ← Process.peek (← Running.context).standing handle lookahead with
    | .error _ | .ok [] => return []
    | .ok bytes =>
      let (count, after) := lineLength raw escaping (Tool.characters bytes)
      let text := Tool.characters (← Process.call fun kernel => kernel.take handle count)
      match after with
      | none => return text
      | some escaping => return text ++ (← takeInput raw handle steps escaping)

/-- Gives fields to variables. Variables without a field become empty. -/
def assignFields : List Characters → List Characters → Running Unit
  | [], _ => return
  | name :: names, fields => do
    Running.assign name (fields.headD [])
    assignFields names (fields.drop 1)

/-- Reads a line of the input into variables. -/
def readLineInto : Command := fun _ words => do
  let (found, names) ← options [('p', true), ('r', false)] words
  if names.isEmpty then Running.fail "arg count".toList
  let raw := found.any fun (letter, _) => letter = 'r'
  let input ← match (← Running.context).activity.slots.get? Stream.input.slot with
    | none => pure []
    | some handle => takeInput raw handle Process.patience false
  let line := takeLine raw [] input
  let separators := (← Running.context).separators
  let fields := splitFields separators (some names.length) line.segments
  assignFields names (fields.map textOf)
  return if line.complete then 0 else 1

/-! ### Options -/

/-- Remembers where the search for options goes on. -/
def goOnAt (index : Nat) (offset : Option Nat) : Running Unit :=
  Running.change fun context => { context with optionIndex := index, optionOffset := offset }

/-- Sets the variable that tells which parameter is next, without starting again. -/
def setOptionIndex (index : Nat) : Running Unit := do
  let name := "OPTIND".toList
  let known := Association.get? name (← Running.context).store
  if known.any Binding.fixed then Running.fail (name ++ ": is read only".toList)
  Running.change fun context => { context with
    store := Association.put name
      ⟨some (Arithmetic.decimal index), known.any Binding.exported, false⟩ context.store }

/-- What an option of a description needs: nothing if it is not described. -/
def described? (letter : Char) : Characters → Option Bool
  | [] => none
  | first :: ':' :: rest => if first = letter then some true else described? letter rest
  | first :: rest => if first = letter then some false else described? letter rest

/-- What looking for an option gives: the letter, the value for `OPTARG` if there is one, and where
to go on. -/
structure FoundOption where
  letter : Char
  value : Option Characters
  message : Option Characters
  next : Nat
  offset : Option Nat

/-- Looks at a letter of a word of options. `next` is the number of the parameter behind the word,
and `offset` is where in the word the letter behind this one is. -/
def lookAtLetter (description : Characters) (parameters : List Characters) (letter : Char)
    (rest : Characters) (next offset : Nat) : FoundOption :=
  let quiet := description.head? = some ':'
  let goOn : Option Nat := some offset
  match described? letter description with
  | none =>
    if quiet then ⟨'?', some [letter], none, next, goOn⟩
    else ⟨'?', none, some ("Illegal option -".toList ++ [letter]), next, goOn⟩
  | some false => ⟨letter, some [], none, next, goOn⟩
  | some true =>
    if !rest.isEmpty then ⟨letter, some rest, none, next, none⟩
    else
      match parameters[next - 1]? with
      | some argument => ⟨letter, some argument, none, next + 1, none⟩
      | none =>
        if quiet then ⟨':', some [letter], none, next, none⟩
        else
          ⟨'?', none, some ("No arg for -".toList ++ letter :: " option".toList), next, none⟩

/-- Looks for the next option, from the parameter with a number on. -/
def nextOption? (description : Characters) (parameters : List Characters) (index : Nat)
    (offset : Option Nat) : Except Nat FoundOption :=
  let inWord := match offset with
    | some offset => if index ≤ 1 then [] else ((parameters[index - 2]?).getD []).drop offset
    | none => []
  match inWord with
  | letter :: rest =>
    .ok (lookAtLetter description parameters letter rest index (offset.getD 0 + 1))
  | [] =>
    match parameters[index - 1]? with
    | some ['-', '-'] => .error (index + 1)
    | some ('-' :: letter :: rest) =>
      .ok (lookAtLetter description parameters letter rest (index + 1) 2)
    | _ => .error index

/-- Finds the next option among the parameters, or among words that are given. If it cannot be
stored, the search starts again. -/
def getOption : Command := fun _ words => do
  match words with
  | description :: name :: given =>
    let context ← Running.context
    let parameters := if given.isEmpty then context.parameters else given
    let restarts := parameters.length + 1 < context.optionIndex
    let index := if restarts then 1 else context.optionIndex
    let offset := if restarts then none else context.optionOffset
    goOnAt 1 none
    match nextOption? description parameters index offset with
    | .error next =>
      setOptionIndex next
      Running.assign name ['?']
      goOnAt next none
      return 1
    | .ok found =>
      match found.message with
      | some message => Running.print .errors (message ++ ['\n'])
      | none => pure ()
      match found.value with
      | some value => Running.assign "OPTARG".toList value
      | none => Running.unset "OPTARG".toList
      setOptionIndex found.next
      Running.assign name [found.letter]
      goOnAt found.next found.offset
      return 0
  | _ => Running.fail "Usage: getopts optstring var [arg...]".toList

end PipelineShell.Script.Command
