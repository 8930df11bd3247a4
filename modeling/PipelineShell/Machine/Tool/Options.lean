/-
Options.

An option is a letter after a dash, together with other letters if it takes no value, or a word
after two dashes, which may be cut short as long as no other word starts the same. A value follows
at once, after an equals sign if the option is a word, or as the next argument. Two dashes alone end
the options. Reading the arguments gives a list of events, which a tool goes through in order, so
that the first thing that is wrong is the one reported.
-/

import PipelineShell.Machine.Tool.Quoting

namespace PipelineShell.Tool

/-- Whether an option takes a value. -/
inductive Takes where
  | nothing
  | value
  /-- A value that follows at once, or none. -/
  | optional
  deriving DecidableEq, Repr

/-- The options of a tool. Words share their key with the letter that means the same. -/
structure OptionTable where
  letters : List (Char × Takes)
  words : List (String × Takes × String)
  /-- Whether the first argument that is no option ends the options. -/
  ordered : Bool

/-- What an argument turns out to be. -/
inductive OptionEvent where
  | option (key : String) (value : Option Bytes)
  | operand (argument : Bytes)
  | problem (message : Bytes)
  deriving DecidableEq, Repr

/-- How reading an option ends: whether it is followed by a value that the next argument holds. -/
structure OptionReading where
  events : List OptionEvent
  /-- The option that takes the next argument as its value, and what to report if there is none. -/
  waiting : Option (String × Bytes)

/-- Reads the letters after a dash. -/
def readLetters (table : OptionTable) : List Char → OptionReading
  | [] => ⟨[], none⟩
  | letter :: rest =>
    let key := String.ofList [letter]
    let quotedLetter := ofCharacters [singleQuote, letter, singleQuote]
    match Association.get? letter table.letters with
    | none => ⟨[.problem (Text.encode "invalid option -- " ++ quotedLetter)], none⟩
    | some .nothing =>
      let reading := readLetters table rest
      { reading with events := .option key none :: reading.events }
    | some .optional =>
      ⟨[.option key (if rest = [] then none else some (ofCharacters rest))], none⟩
    | some .value =>
      if rest = [] then
        ⟨[], some (key, Text.encode "option requires an argument -- " ++ quotedLetter)⟩
      else ⟨[.option key (some (ofCharacters rest))], none⟩

/-- The words of a table that an abbreviation may mean: the word itself, or all that start so. -/
def candidates (table : OptionTable) (written : String) : List (String × Takes × String) :=
  match table.words.find? fun entry => entry.1 = written with
  | some entry => [entry]
  | none => table.words.filter fun entry => written.toList.isPrefixOf entry.1.toList

/-- Reads the word after two dashes. -/
def readWord (table : OptionTable) (written : List Char) : OptionReading :=
  let name := String.ofList (written.takeWhile (· ≠ '='))
  let value := match written.drop name.length with
    | [] => none
    | _ :: value => some (ofCharacters value)
  let quotedWord (word : List Char) : Bytes :=
    ofCharacters ([singleQuote, '-', '-'] ++ word ++ [singleQuote])
  let problem (text : Bytes) : OptionReading := ⟨[.problem text], none⟩
  match candidates table name with
  | [] => problem (Text.encode "unrecognized option " ++ quotedWord written)
  | (word, takes, key) :: others =>
    if others.any fun other => other.2 ≠ (takes, key) then
      problem (Text.encode "option " ++ quotedWord written ++
        Text.encode " is ambiguous; possibilities:" ++
        (word :: others.map (·.1)).flatMap fun other =>
          Text.encode " " ++ quotedWord other.toList)
    else
      match takes, value with
      | .nothing, some _ =>
        problem (Text.encode "option " ++ quotedWord word.toList ++
          Text.encode " doesn't allow an argument")
      | .value, none =>
        ⟨[], some (key, Text.encode "option " ++ quotedWord word.toList ++
          Text.encode " requires an argument")⟩
      | _, _ => ⟨[.option key value], none⟩

/-- Reads arguments. `waiting` is the option whose value comes next. -/
def readArguments (table : OptionTable) :
    Option (String × Bytes) → List Bytes → List OptionEvent
  | none, [] => []
  | some (_, missing), [] => [.problem missing]
  | some (key, _), value :: rest =>
    .option key (some value) :: readArguments table none rest
  | none, argument :: rest =>
    match characters argument with
    | ['-', '-'] => rest.map .operand
    | '-' :: '-' :: word =>
      let reading := readWord table word
      reading.events ++ readArguments table reading.waiting rest
    | '-' :: letter :: more =>
      let reading := readLetters table (letter :: more)
      reading.events ++ readArguments table reading.waiting rest
    | _ =>
      if table.ordered then .operand argument :: rest.map .operand
      else .operand argument :: readArguments table none rest

/-- The arguments of a process as events. A variable asks for operands to end the options. -/
def optionEvents (table : OptionTable) (activity : Activity) : List OptionEvent :=
  let ordered := table.ordered || (activity.setting? "POSIXLY_CORRECT").isSome
  readArguments { table with ordered } none activity.operands

/-- The operands among events. -/
def operandsOf (events : List OptionEvent) : List Bytes :=
  events.filterMap fun
    | .operand argument => some argument
    | _ => none

/-- Goes through events in order, collecting what the options say, up to the first problem. -/
def collectOptions {σ : Type} (read : σ → String → Option Bytes → Except Bytes σ) :
    σ → List OptionEvent → Except (Bytes × Bool) σ
  | options, [] => .ok options
  | options, .operand _ :: rest => collectOptions read options rest
  | _, .problem message :: _ => .error (message, true)
  | options, .option key value :: rest =>
    match read options key value with
    | .error message => .error (message, false)
    | .ok options => collectOptions read options rest

end PipelineShell.Tool
