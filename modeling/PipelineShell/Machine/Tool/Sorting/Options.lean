/-
The options of `sort`.

An option may be followed by files and other options. Some of them take numbers, whose units have to
be known though they do not matter here. A key may also be written the old way, as two arguments
after a plus sign and a dash.
-/

import PipelineShell.Machine.Tool.Sorting.Keys

namespace PipelineShell.Tool

/-- How lines are sorted. -/
structure SortOptions where
  style : KeyStyle
  keys : List SortKey
  separator : Option Char
  unique : Bool
  stable : Bool
  merges : Bool
  /-- Whether the keys are explained. -/
  explains : Bool
  /-- The letter with which it was asked whether the input is sorted. -/
  checks : Option Char
  outputFile : Option Bytes
  /-- The file that lists the files to be sorted. -/
  source : Option Bytes
  /-- The program that is to shorten files that are put aside. -/
  compressor : Option Bytes
  /-- The file that random numbers are taken from. -/
  randomSource : Option Bytes
  /-- What random orders depend on. -/
  chance : Chance
  /-- How many orders are worked on at once. -/
  workers : Nat
  lineEnd : UInt8
  files : List Bytes

/-- What is asked for without any options. -/
def SortOptions.default : SortOptions where
  style := .plain
  keys := []
  separator := none
  unique := false
  stable := false
  merges := false
  explains := false
  checks := none
  outputFile := none
  source := none
  compressor := none
  randomSource := none
  chance := ⟨[], []⟩
  workers := 1
  lineEnd := Text.lineFeed
  files := []

/-- The options of `sort`. -/
def sortTable : OptionTable where
  letters := "bcCdfghimMnrRsuVz".toList.map (fun letter => (letter, Takes.nothing)) ++
    "kotSTy".toList.map fun letter => (letter, Takes.value)
  words := [("ignore-leading-blanks", .nothing, "b"), ("check", .optional, "check"),
    ("compress-program", .value, "compress-program"), ("debug", .nothing, "debug"),
    ("dictionary-order", .nothing, "d"), ("ignore-case", .nothing, "f"),
    ("files0-from", .value, "files0-from"), ("general-numeric-sort", .nothing, "g"),
    ("ignore-nonprinting", .nothing, "i"), ("key", .value, "k"), ("merge", .nothing, "m"),
    ("month-sort", .nothing, "M"), ("numeric-sort", .nothing, "n"),
    ("human-numeric-sort", .nothing, "h"), ("version-sort", .nothing, "V"),
    ("random-sort", .nothing, "R"), ("random-source", .value, "random-source"),
    ("sort", .value, "sort"), ("output", .value, "o"), ("reverse", .nothing, "r"),
    ("stable", .nothing, "s"), ("batch-size", .value, "batch-size"),
    ("buffer-size", .value, "buffer-size"), ("field-separator", .value, "t"),
    ("temporary-directory", .value, "T"), ("unique", .nothing, "u"),
    ("zero-terminated", .nothing, "z"), ("parallel", .value, "parallel"),
    ("help", .nothing, "help"), ("version", .nothing, "version")]
  ordered := false

/-- The words for orders. -/
def orderWords : List (String × Char) :=
  [("general-numeric", 'g'), ("human-numeric", 'h'), ("month", 'M'), ("numeric", 'n'),
    ("random", 'R'), ("version", 'V')]

/-- The words for ways to check. -/
def checkWords : List (String × Char) :=
  [("quiet", 'C'), ("silent", 'C'), ("diagnose-first", 'c')]

/-- The meaning of a word that an option takes, which may be cut short. -/
def readChoice (locale : Locale) (option : String) (choices : List (String × Char))
    (groups : List (List String)) (written : Bytes) : Except Bytes Char :=
  let found := choices.filter fun choice => written.isPrefixOf (Text.encode choice.1)
  match (choices.find? fun choice => Text.encode choice.1 = written).or found.head? with
  | some (_, letter) =>
    if found.all (fun choice => choice.2 = letter) ∨
        choices.any (fun choice => Text.encode choice.1 = written) then .ok letter
    else .error (report "ambiguous")
  | none => .error (report "invalid")
where
  /-- The message about a word that is not known. -/
  report (problem : String) : Bytes :=
    Text.encode (problem ++ " argument ") ++ quotedText locale written ++ Text.encode " for " ++
      quotedText locale (Text.encode ("--" ++ option)) ++
      Text.encode "\nValid arguments are:" ++
      groups.flatMap fun words =>
        Text.encode "\n  - " ++ List.intercalate (Text.encode ", ")
          (words.map fun word => quotedText locale (Text.encode word))

/-- The message about options that exclude each other. -/
def incompatible (letters : String) : Bytes :=
  Text.encode ("options '-" ++ letters ++ "' are incompatible")

/-- Reads the separator of fields. -/
def SortOptions.withSeparator (locale : Locale) (options : SortOptions) (written : List Char) :
    Except Bytes SortOptions :=
  let accept (mark : Char) : Except Bytes SortOptions :=
    if options.separator.any (· ≠ mark) then .error (Text.encode "incompatible tabs")
    else .ok { options with separator := some mark }
  match written with
  | [] => .error (Text.encode "empty tab")
  | [mark] => accept mark
  | ['\\', '0'] => accept (Char.ofNat 0)
  | _ => .error (Text.encode "multi-character tab " ++ quotedText locale (ofCharacters written))

/-! ### Numbers -/

/-- What is wrong with a number. -/
inductive SizeProblem where
  | malformed
  | badUnit
  | tooLarge
  deriving DecidableEq, Repr

/-- Reads a number that may be followed by one of some units, and tells what follows it. -/
def readSize (units : List Char) (text : List Char) : Except SizeProblem (Nat × List Char) :=
  let unsigned := text.dropWhile isSpace
  let unsigned := match unsigned with
    | '+' :: rest => rest
    | _ => unsigned
  let digits := unsigned.takeWhile Char.isDigit
  let (number, rest) := if digits = [] then (1, text) else
    (decimalValue digits, unsigned.drop digits.length)
  match rest with
  | [] => if digits = [] then .error .malformed else bounded number []
  | unit :: after =>
    if units.contains unit then
      let power := if unit = 'g' then 3 else if unit = 't' then 4 else (unitPower? unit).getD 0
      bounded (number * Nat.pow 1024 power) after
    else if digits = [] then .error .malformed
    else bounded number rest
where
  /-- A number, unless it is too large to count with. -/
  bounded (number : Nat) (rest : List Char) : Except SizeProblem (Nat × List Char) :=
    if number < countLimit then .ok (number, rest)
    else if rest = [] then .error .tooLarge else .error .badUnit

/-- Reads a number that nothing follows. -/
def readWholeSize (units : List Char) (text : List Char) : Except SizeProblem Nat :=
  match readSize units text with
  | .error problem => .error problem
  | .ok (number, []) => .ok number
  | .ok _ => .error .badUnit

/-- The message about a number that an option takes. -/
def sizeMessage (option : String) (written : Bytes) : SizeProblem → Bytes
  | .malformed => Text.encode ("invalid " ++ option ++ " argument '") ++ written ++ Text.encode "'"
  | .badUnit =>
    Text.encode ("invalid suffix in " ++ option ++ " argument '") ++ written ++ Text.encode "'"
  | .tooLarge => Text.encode (option ++ " argument '") ++ written ++ Text.encode "' too large"

/-- How many percents of the memory are too many to count. -/
def percentLimit : Nat := 200000000000

/-- What is wrong with the size of the memory that is to be used, if something is. -/
def memoryProblem? (text : List Char) : Option SizeProblem :=
  let bare := text.takeWhile (· ≠ '%')
  match readSize "EgGkKmMPtTYZ".toList text with
  | .error problem => some problem
  | .ok (number, []) =>
    if text.getLast?.any Char.isDigit ∧ countLimit ≤ number * 1024 then some .tooLarge else none
  | .ok (number, [mark]) =>
    let digit := (text.dropLast.getLast?).any Char.isDigit
    if mark = 'b' ∧ digit then none
    else if mark = '%' ∧ digit ∧ bare.length + 1 = text.length then
      if number < percentLimit then none else some .tooLarge
    else some .badUnit
  | .ok _ => some .badUnit

/-! ### Reading arguments -/

/-- A problem with the arguments: messages, and the code to end with if a hint follows. -/
structure SortProblem where
  messages : List Bytes
  hint : Option Int

/-- How many files a process always has open. -/
def usualFiles : Nat := 3

/-- Looks at how many files are to be merged at once, when a process may have so many open. -/
def checkBatch (locale : Locale) (openLimit : Nat) (written : Bytes) : Except SortProblem Unit :=
  let named (message : String) (text : Bytes) (rest : String) : Bytes :=
    Text.encode message ++ quotedText locale text ++ Text.encode rest
  let tooLarge : Except SortProblem Unit :=
    .error ⟨[named "--batch-size argument " written " too large",
      Text.encode ("maximum --batch-size argument with current rlimit is " ++
        toString (openLimit - usualFiles))], none⟩
  match readWholeSize [] (characters written) with
  | .ok count =>
    if count < 2 then
      .error ⟨[named "invalid --batch-size argument " written "",
        named "minimum --batch-size argument is " (Text.encode "2") ""], none⟩
    else if openLimit < count + usualFiles then tooLarge
    else .ok ()
  | .error .tooLarge => tooLarge
  | .error problem => .error ⟨[sizeMessage "--batch-size" written problem], none⟩

/-- Reads how many orders are to be worked on at once. -/
def readWorkers (written : Bytes) : Except SortProblem Nat :=
  match readWholeSize [] (characters written) with
  | .ok 0 => .error ⟨[Text.encode "number in parallel must be nonzero"], none⟩
  | .ok number => .ok number
  | .error .tooLarge => .ok countLimit
  | .error problem => .error ⟨[sizeMessage "--parallel" written problem], none⟩

/-- Reads an option. A process may have so many files open. -/
def SortOptions.withOption (locale : Locale) (openLimit : Nat) (options : SortOptions)
    (key : String) (value : Option Bytes) : Except SortProblem SortOptions :=
  let plainly {α : Type} : Except Bytes α → Except SortProblem α :=
    Except.mapError fun message => ⟨[message], none⟩
  let hinted {α : Type} : Except Bytes α → Except SortProblem α :=
    Except.mapError fun message => ⟨[message], some 1⟩
  let written := value.getD []
  let checking (letter : Char) : Except SortProblem SortOptions :=
    if options.checks.any (· ≠ letter) then plainly (.error (incompatible "cC"))
    else .ok { options with checks := some letter }
  let memory (option : String) : Except SortProblem SortOptions :=
    match memoryProblem? (characters written) with
    | some problem => plainly (.error (sizeMessage option written problem))
    | none => .ok options
  /- Takes a value that may be given only once. -/
  let once (before : Option Bytes) (things : String) (after : SortOptions) :
      Except SortProblem SortOptions :=
    if before.any (· ≠ written) then
      plainly (.error (Text.encode ("multiple " ++ things ++ " specified")))
    else .ok after
  match key with
  | "c" => checking 'c'
  | "C" => checking 'C'
  | "check" =>
    match value with
    | none => checking 'c'
    | some word => do
      checking (← hinted (readChoice locale "check" checkWords
        [["quiet", "silent"], ["diagnose-first"]] word))
  | "sort" => do
    let letter ← hinted (readChoice locale "sort" orderWords
      (orderWords.map fun word => [word.1]) written)
    return { options with style := (options.style.withLetter? .both letter).getD options.style }
  | "k" => do
    let sortKey ← plainly (SortKey.read locale (characters written))
    return { options with keys := options.keys ++ [sortKey] }
  | "m" => .ok { options with merges := true }
  | "o" => once options.outputFile "output files" { options with outputFile := value }
  | "compress-program" =>
    once options.compressor "compress programs" { options with compressor := value }
  | "random-source" =>
    once options.randomSource "random sources" { options with randomSource := value }
  | "debug" => .ok { options with explains := true }
  | "files0-from" => .ok { options with source := value }
  | "batch-size" => do
    checkBatch locale openLimit written
    return options
  | "parallel" => do
    return { options with workers := ← readWorkers written }
  | "S" => memory "-S"
  | "buffer-size" => memory "--buffer-size"
  | "s" => .ok { options with stable := true }
  | "t" => plainly (options.withSeparator locale (characters written))
  | "u" => .ok { options with unique := true }
  | "z" => .ok { options with lineEnd := 0 }
  | _ =>
    match key.toList with
    | [letter] =>
      .ok { options with style := (options.style.withLetter? .both letter).getD options.style }
    | _ => .ok options

/-- Goes through what one argument turns out to be. -/
def readSortEvents (locale : Locale) (openLimit : Nat) :
    SortOptions → List OptionEvent → Except SortProblem SortOptions
  | options, [] => .ok options
  | options, .operand _ :: rest => readSortEvents locale openLimit options rest
  | _, .problem message :: _ => .error ⟨[message], some 2⟩
  | options, .option key value :: rest => do
    readSortEvents locale openLimit (← options.withOption locale openLimit key value) rest

/-- Whether a word is an option only by its first character: its end may belong to a key. -/
def endsKey : List Char → Bool
  | '-' :: digit :: _ => digit.isDigit
  | _ => false

/-- Goes through the arguments in order. If `strict` is set, the first file ends the options, unless
one about the output follows. The number bounds how many arguments there may be. -/
def readSortArguments (locale : Locale) (openLimit : Nat) (strict : Bool) :
    Nat → SortOptions → List Bytes → Except SortProblem SortOptions
  | 0, options, _ => .ok options
  | _, options, [] => .ok options
  | steps + 1, options, argument :: rest =>
    let goOn (reading : OptionReading) : Except SortProblem SortOptions := do
      let (events, rest) := match reading.waiting, rest with
        | none, rest => (reading.events, rest)
        | some (_, missing), [] => (reading.events ++ [.problem missing], [])
        | some ("y", _), value :: after =>
          (reading.events, if (characters value).all Char.isDigit then after else rest)
        | some (key, _), value :: after =>
          (reading.events ++ [.option key (some value)], after)
      let options ← readSortEvents locale openLimit options events
      readSortArguments locale openLimit strict steps options rest
    let asFile : Except SortProblem SortOptions :=
      readSortArguments locale openLimit strict steps
        { options with files := options.files ++ [argument] } rest
    let isLate : Bool := match characters argument with
      | '-' :: 'o' :: more => options.checks.isNone && (!more.isEmpty || !rest.isEmpty)
      | _ => false
    if strict && !options.files.isEmpty && !isLate then asFile
    else
      match characters argument with
      | ['-', '-'] => .ok { options with files := options.files ++ rest }
      | '-' :: '-' :: word => goOn (readWord sortTable word)
      | '-' :: letter :: more => goOn (readLetters sortTable (letter :: more))
      | '+' :: written =>
        match SortKey.readOld? written, rest with
        | none, _ => asFile
        | some key, [] =>
          readSortArguments locale openLimit strict steps
            { options with keys := options.keys ++ [key] } []
        | some key, next :: after =>
          if endsKey (characters next) then
            match key.withOldEnd locale (characters next) with
            | .error message => .error ⟨[message], none⟩
            | .ok key =>
              readSortArguments locale openLimit strict steps
                { options with keys := options.keys ++ [key] } after
          else
            readSortArguments locale openLimit strict steps
              { options with keys := options.keys ++ [key] } rest
      | _ => asFile

/-- Gives keys without a style the one of all, and makes a key of it if there is none. -/
def SortOptions.completed (options : SortOptions) : SortOptions :=
  let keys := options.keys.map fun key =>
    if key.style.isDefault && !key.style.reverse then { key with style := options.style } else key
  let whole : SortKey := ⟨options.style, 0, 0, none, 0, false⟩
  { options with keys := if keys.isEmpty && !options.style.isDefault then [whole] else keys }

end PipelineShell.Tool
