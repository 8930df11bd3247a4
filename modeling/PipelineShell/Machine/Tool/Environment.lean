/-
The tool that runs a program in another environment: `env`.

It takes entries out of its environment and puts others in, and then becomes the program that the
operands name, or shows the environment if they name none. An option holds a whole command line in
one argument, which is split into words the way a shell does it.
-/

import PipelineShell.Lookup
import PipelineShell.Machine.Tool.Options

namespace PipelineShell.Tool

/-! ### Environments -/

/-- The name of an entry. -/
def entryName (entry : Bytes) : Bytes := entry.takeWhile (· ≠ 61)

/-- Takes the entries with a name out of an environment. -/
def removeEntry (environment : List Bytes) (name : Bytes) : List Bytes :=
  environment.filter fun entry => entryName entry ≠ name

/-- Puts an entry into an environment, in the place of one with the same name if there is one. -/
def putEntry (environment : List Bytes) (entry : Bytes) : List Bytes :=
  if environment.any fun other => entryName other = entryName entry then
    environment.map fun other => if entryName other = entryName entry then entry else other
  else environment ++ [entry]

/-! ### Splitting a command line -/

/-- How far a text was split into words. -/
structure Splitting where
  /-- The words so far, the last one first and each of them backward. -/
  words : List (List Char)
  /-- Whether the next character starts a word. -/
  between : Bool
  /-- The quote that is open. -/
  quote : Option Char

namespace Splitting

/-- Starts a word unless one is open. -/
def start (splitting : Splitting) : Splitting :=
  if splitting.between then
    { splitting with words := [] :: splitting.words, between := false }
  else splitting

/-- Adds a character to the word. -/
def add (splitting : Splitting) (character : Char) : Splitting :=
  match splitting.start with
  | ⟨word :: words, between, quote⟩ => ⟨(character :: word) :: words, between, quote⟩
  | started => started

/-- Opens a quote or closes it. -/
def turn (splitting : Splitting) (quote : Char) : Splitting :=
  { splitting.start with quote := if splitting.quote.isSome then none else some quote }

end Splitting

/-- The character that a letter after a backslash stands for in a command line. -/
def splitEscape? (letter : Char) : Option Char :=
  if ['#', '$', '\\', singleQuote, doubleQuote].contains letter then some letter
  else if ['f', 'n', 'r', 't', 'v'].contains letter then escapedControl letter
  else none
where
  /-- The control character with a letter. -/
  escapedControl : Char → Option Char
    | 'f' => some (Char.ofNat 12)
    | 'n' => some '\n'
    | 'r' => some '\r'
    | 't' => some '\t'
    | _ => some (Char.ofNat 11)

/-- Whether a character separates words. -/
def isSplitBlank (character : Char) : Bool :=
  character = ' ' || (9 ≤ character.toNat && character.toNat ≤ 13)

/-- The name of a variable in braces at the front of a text. -/
def bracedName? : List Char → Option (List Char)
  | '\x7b' :: first :: rest =>
    let isInside (character : Char) : Bool := character.isAlphanum || character = '_'
    let name := first :: rest.takeWhile isInside
    if (first.isAlpha || first = '_') && (rest.drop (name.length - 1)).head? = some '\x7d' then
      some name
    else none
  | _ => none

/-- Splits a text into words. `read` is how many characters belong to what was read before them. -/
def splitAfter (environment : List Bytes) :
    Splitting → (read : Nat) → List Char → Except Bytes Splitting
  | splitting, _, [] =>
    if splitting.quote.isSome then .error (Text.encode "no terminating quote in -S string")
    else .ok splitting
  | splitting, read + 1, _ :: rest => splitAfter environment splitting read rest
  | splitting, 0, character :: rest =>
    let strong : Bool := splitting.quote = some singleQuote
    let weak : Bool := splitting.quote = some doubleQuote
    let plainly := splitAfter environment (splitting.add character) 0 rest
    if character = singleQuote then
      if weak then plainly else splitAfter environment (splitting.turn character) 0 rest
    else if character = doubleQuote then
      if strong then plainly else splitAfter environment (splitting.turn character) 0 rest
    else if isSplitBlank character then
      if strong || weak then plainly
      else splitAfter environment { splitting with between := true } 0 rest
    else if character = '#' && splitting.between then .ok splitting
    else if character = '\\' then
      match rest.head? with
      | none => .error (Text.encode "invalid backslash at end of string in -S")
      | some letter =>
        if strong && letter ≠ '\\' && letter ≠ singleQuote then plainly
        else if letter = '_' then
          if weak then splitAfter environment (splitting.add ' ') 1 rest
          else splitAfter environment { splitting with between := true } 1 rest
        else if letter = 'c' then
          if weak then
            .error (Text.encode "'\\c' must not appear in double-quoted -S string")
          else .ok splitting
        else
          match splitEscape? letter with
          | some meant => splitAfter environment (splitting.add meant) 1 rest
          | none =>
            .error (Text.encode "invalid sequence '\\" ++ ofCharacters [letter] ++
              Text.encode "' in -S")
    else if character = '$' && !strong then
      match bracedName? rest with
      | none =>
        .error (Text.encode "only $\x7bVARNAME\x7d expansion is supported, error at: " ++
          ofCharacters (character :: rest))
      | some name =>
        let value := environment.findSome? (ofCharacters name ++ Text.encode "=").isPrefixOf?
        let splitting := match value with
          | some value => (characters value).foldl Splitting.add splitting.start
          | none => splitting
        splitAfter environment splitting (name.length + 2) rest
    else plainly

/-- Splits a command line into words. -/
def splitLine (environment : List Bytes) (line : Bytes) : Except Bytes (List Bytes) :=
  (splitAfter environment ⟨[], true, none⟩ 0 (characters line)).map fun splitting =>
    splitting.words.reverse.map fun word => ofCharacters word.reverse

/-! ### Options -/

/-- What the options ask for. -/
structure EnvironmentOptions where
  /-- Whether the environment is empty at first. -/
  bare : Bool
  removed : List Bytes
  directory : Option Bytes
  lineEnd : UInt8
  /-- Whether every step is reported. -/
  reports : Bool
  ignored : List Nat

/-- The options of `env`. Blanks count as options because the first line of a script may hold
several of them in one argument. -/
def environmentTable : OptionTable where
  letters := "iv0 \t".toList.map (fun letter => (letter, Takes.nothing)) ++
    "CSu".toList.map fun letter => (letter, Takes.value)
  words := [("ignore-environment", .nothing, "i"), ("null", .nothing, "0"),
    ("unset", .value, "u"), ("chdir", .value, "C"),
    ("default-signal", .optional, "default-signal"),
    ("ignore-signal", .optional, "ignore-signal"),
    ("block-signal", .optional, "block-signal"),
    ("list-signal-handling", .nothing, "list-signal-handling"), ("debug", .nothing, "v"),
    ("split-string", .value, "S"), ("help", .nothing, "help"), ("version", .nothing, "version")]
  ordered := true

/-- A problem with the arguments: a message, another one about the first line of a script, and
whether a hint follows. -/
structure EnvironmentProblem where
  message : Bytes
  inFirstLine : Bool
  hinted : Bool

/-- The number of a signal, by name or as it is. -/
def signalNumber? (written : Bytes) : Option Nat :=
  let text := characters written
  if text ≠ [] ∧ text.all Char.isDigit then
    let number := text.foldl (fun value digit => value * 10 + (digit.toNat - '0'.toNat)) 0
    if 0 < number ∧ number ≤ 64 then some number else none
  else
    let name := String.ofList (("SIG".toList.isPrefixOf? text).getD text)
    let index := Signal.names.idxOf name
    if index < Signal.names.length then some (index + 1) else none

/-- The signals that an option names, or all of them. -/
def signalsOf (locale : Locale) : Option Bytes → Except EnvironmentProblem (List Nat)
  | none => .ok ((List.range Signal.names.length).map (· + 1))
  | some written =>
    ((Text.pieces (· == 44) written).filter (· ≠ [])).mapM fun piece =>
      match signalNumber? piece with
      | some number => .ok number
      | none => .error ⟨quotedText locale piece ++ Text.encode ": invalid signal", false, true⟩

/-- Reads an option. -/
def EnvironmentOptions.withOption (locale : Locale) (options : EnvironmentOptions) (key : String)
    (value : Option Bytes) : Except EnvironmentProblem EnvironmentOptions :=
  match key with
  | "i" => .ok { options with bare := true }
  | "v" => .ok { options with reports := true }
  | "0" => .ok { options with lineEnd := 0 }
  | "u" => .ok { options with removed := options.removed ++ value.toList }
  | "C" => .ok { options with directory := value }
  | "ignore-signal" => do
    return { options with ignored := (← signalsOf locale value) ++ options.ignored }
  | "default-signal" => do
    let signals ← signalsOf locale value
    return { options with ignored := options.ignored.filter fun signal => !signals.contains signal }
  | "block-signal" => do
    let _ ← signalsOf locale value
    return options
  | " " | "\t" =>
    .error ⟨Text.encode ("invalid option -- '" ++ key ++ "'"), true, true⟩
  | _ => .ok options

/-- What one argument with options comes to: options, and words that are to be read next in place of
it. -/
def readEnvironmentOptions (activity : Activity) :
    EnvironmentOptions → List OptionEvent → Except EnvironmentProblem
      (EnvironmentOptions × List Bytes)
  | options, [] => .ok (options, [])
  | _, .problem message :: _ => .error ⟨message, false, true⟩
  | options, .operand _ :: rest => readEnvironmentOptions activity options rest
  | options, .option key value :: rest =>
    if key = "S" then
      match splitLine activity.environment (value.getD []) with
      | .ok words => .ok (options, words)
      | .error message => .error ⟨message, false, false⟩
    else do
      readEnvironmentOptions activity
        (← options.withOption (localeOf activity) key value) rest

/-- Reads arguments up to the first one that is no option, and gives it with those behind it. A
command line that an option holds is read in place of the option. The number bounds how many
arguments there may be. -/
def readEnvironmentArguments (activity : Activity) :
    Nat → EnvironmentOptions → List Bytes → Except EnvironmentProblem
      (EnvironmentOptions × List Bytes)
  | 0, options, arguments => .ok (options, arguments)
  | _, options, [] => .ok (options, [])
  | steps + 1, options, argument :: rest =>
    let goOn (reading : OptionReading) : Except EnvironmentProblem
        (EnvironmentOptions × List Bytes) := do
      let (events, rest) := match reading.waiting, rest with
        | none, rest => (reading.events, rest)
        | some (_, missing), [] => (reading.events ++ [.problem missing], [])
        | some (key, _), value :: rest => (reading.events ++ [.option key (some value)], rest)
      let (options, words) ← readEnvironmentOptions activity options events
      readEnvironmentArguments activity steps options (words ++ rest)
    match characters argument with
    | ['-', '-'] => .ok (options, rest)
    | '-' :: '-' :: word => goOn (readWord environmentTable word)
    | '-' :: letter :: more => goOn (readLetters environmentTable (letter :: more))
    | _ => .ok (options, argument :: rest)

/-! ### The tool -/

/-- The hint about options in the first line of a script. -/
def firstLineHint : Bytes := Text.encode "use -[v]S to pass options in shebang lines"

/-- The program that runs a file which cannot be executed by itself. -/
def scriptProgram : Bytes := Text.encode "/bin/sh"

/-- The files that may be meant by the name of a program. -/
def programFiles (environment : List Bytes) (program : Bytes) : List Bytes :=
  if program.contains slash then [program]
  else if program = [] then []
  else
    (Text.pieces (· == Lookup.colon) (Lookup.searchPath environment)).map fun directory =>
      if directory = [] then program else directory ++ slash :: program

/-- Becomes the program in the first of some files that can be executed. A file that holds neither a
program nor the name of an interpreter is run as a script. Gives the reason if no file can be
executed. -/
def becomeFirst (activity : Activity) (denied : Bool) (last : Errno) :
    List Bytes → Process Errno
  | [] => return if denied then .accessDenied else last
  | file :: rest => do
    match ← Process.execute activity activity.handles file with
    | .badExecutable =>
      let arguments := scriptProgram :: file :: activity.operands
      Process.execute { activity with arguments } activity.handles scriptProgram
    | .accessDenied => becomeFirst activity true .accessDenied rest
    | .noEntry => becomeFirst activity denied .noEntry rest
    | .notDirectory => becomeFirst activity denied .notDirectory rest
    | errno => return errno

/-- The exit code if something is wrong with the arguments. -/
def environmentFailure : Int := 125

/-- Runs a program in an environment. -/
def runInside (activity : Activity) (options : EnvironmentOptions) (environment : List Bytes)
    (program : Bytes) (arguments : List Bytes) : Work Int := do
  let locale := localeOf activity
  let directory ← match options.directory with
    | none => pure (Except.ok activity.directory)
    | some path => do
      pure ((← Process.kernel).tree.directoryAt activity.directory path)
  match directory with
  | .error errno =>
    Work.warn activity (Text.encode "cannot change directory to " ++
      quotedName locale (options.directory.getD []) ++ Text.encode (": " ++ errno.sentence))
    return environmentFailure
  | .ok directory =>
    if options.reports then
      activity.print .errors (Text.encode "executing: " ++ program ++ [Text.lineFeed])
      let numbered := (program :: arguments).zip (List.range (arguments.length + 1))
      numbered.forM fun (argument, index) =>
        activity.print .errors (Text.encode ("   arg[" ++ toString index ++ "]= ") ++
          quotedText locale argument ++ [Text.lineFeed])
    let inside := { activity with
      directory, environment, arguments := program :: arguments, ignored := options.ignored }
    let errno ← becomeFirst inside false .noEntry (programFiles environment program)
    Work.warn activity (quotedText locale program ++ Text.encode (": " ++ errno.sentence))
    if errno = .noEntry ∧ (characters program).any isSplitBlank then
      Work.warn activity firstLineHint
    return Lookup.exitCode errno

/-- Runs a program in a changed environment, or shows the environment. -/
def changeEnvironment : Tool := Work.tool environmentFailure fun activity => do
  let locale := localeOf activity
  let start : EnvironmentOptions := ⟨false, [], none, Text.lineFeed, false, activity.ignored⟩
  match readEnvironmentArguments activity Process.patience start activity.operands with
  | .error problem =>
    Work.warn activity problem.message
    if problem.inFirstLine then Work.warn activity firstLineHint
    if problem.hinted then
      activity.print .errors
        (Text.encode "Try '" ++ activity.name ++ Text.encode " --help' for more information.\n")
    return environmentFailure
  | .ok (options, words) =>
    let bare := options.bare || words.head? = some dash
    let words := if words.head? = some dash then words.drop 1 else words
    let entries := words.takeWhile fun word => word.contains 61
    let reported (step : String) (text : Bytes) : Work Unit := do
      if options.reports then
        activity.print .errors (Text.encode step ++ text ++ [Text.lineFeed])
    if bare then reported "cleaning environ" []
    else
      match options.removed.find? fun name => name = [] || name.contains 61 with
      | some name =>
        Work.warn activity (Text.encode "cannot unset " ++ quotedText locale name ++
          Text.encode ": Invalid argument")
        return environmentFailure
      | none => options.removed.forM (reported "unset:    ")
    entries.forM (reported "setenv:   ")
    let environment := if bare then [] else options.removed.foldl removeEntry activity.environment
    let environment := entries.foldl putEntry environment
    match words.drop entries.length, options.directory with
    | [], some _ =>
      Work.refuse activity (Text.encode "must specify command with --chdir (-C)")
        environmentFailure
    | [], none =>
      environment.forM fun entry => Work.print activity (entry ++ [options.lineEnd])
      return 0
    | program :: arguments, _ =>
      if options.lineEnd = 0 then
        Work.refuse activity (Text.encode "cannot specify --null (-0) with command")
          environmentFailure
      else runInside activity options environment program arguments

end PipelineShell.Tool
