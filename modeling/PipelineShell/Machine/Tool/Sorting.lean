/-
The tool that sorts lines: `sort`.

Lines are compared by the keys in order and then as a whole. Lines that compare as equal keep their
order.
-/

import PipelineShell.Machine.Tool.Listing
import PipelineShell.Machine.Tool.Sorting.Explaining

namespace PipelineShell.Tool

/-! ### Comparing and sorting -/

/-- A line with its parts that are compared. -/
structure SortLine where
  text : Bytes
  parts : List (KeyStyle × List Char)

/-- A line, with its parts cut out. -/
def SortOptions.line (options : SortOptions) (text : Bytes) : SortLine :=
  ⟨text, options.keys.map fun key => (key.style, key.part options.separator (characters text))⟩

/-- Compares the parts of two lines in order. -/
def compareLineParts (chance : Chance) :
    List (KeyStyle × List Char) → List (KeyStyle × List Char) → Ordering
  | (style, first) :: firstRest, (_, second) :: secondRest =>
    (style.compare chance first second).then (compareLineParts chance firstRest secondRest)
  | _, _ => .eq

/-- Compares two lines. -/
def SortOptions.compare (options : SortOptions) (first second : SortLine) : Ordering :=
  let order := compareLineParts options.chance first.parts second.parts
  if order ≠ .eq ∨ (!options.keys.isEmpty ∧ (options.unique ∨ options.stable)) then order
  else
    let order := compareTexts (characters first.text) (characters second.text)
    if options.style.reverse then order.swap else order

/-- Whether a line may stand before another one. -/
def SortOptions.before (options : SortOptions) (first second : SortLine) : Bool :=
  options.compare first second ≠ .gt

/-- Keeps the first of lines that follow each other and count as the same. -/
def dropRepeats (options : SortOptions) : List SortLine → List SortLine
  | first :: second :: rest =>
    if options.compare first second = .eq then dropRepeats options (first :: rest)
    else first :: dropRepeats options (second :: rest)
  | lines => lines
termination_by lines => lines.length

/-- The lines of some contents, without their ends. -/
def plainLines (lineEnd : UInt8) (contents : Bytes) : List Bytes :=
  (Text.cutAfter lineEnd contents).map fun line =>
    if line.getLast? = some lineEnd then line.dropLast else line

/-- Merges lists of lines: of the first lines the least one comes first, and of equal ones that of
the earliest list. -/
def mergeLists (options : SortOptions) (lists : List (List SortLine)) : List SortLine :=
  lists.foldl (fun merged list => List.merge merged list options.before) []

/-- The first line that stands behind one it should stand before, with its number. -/
def firstDisorder? (options : SortOptions) : Nat → List SortLine → Option (Nat × Bytes)
  | number, first :: second :: rest =>
    let order := options.compare first second
    if order = .gt ∨ (options.unique ∧ order = .eq) then some (number + 1, second.text)
    else firstDisorder? options (number + 1) (second :: rest)
  | _, _ => none

/-! ### The tool -/

/-- Ends with a message about a file. -/
def sortFailure (activity : Activity) (problem : String) (file : Bytes) (errno : Errno) :
    Work Int := do
  Work.warn activity (Text.encode (problem ++ ": ") ++ aboutFile activity file errno.sentence)
  return 2

/-- Reads files in order, or tells which one cannot be read. -/
def readSorted (activity : Activity) (options : SortOptions) :
    List Bytes → Process (Except (Bytes × Errno) (List (List SortLine)))
  | [] => return .ok []
  | file :: rest => do
    match ← readOperand activity file with
    | .error errno => return .error (file, errno)
    | .ok contents =>
      match ← readSorted activity options rest with
      | .error problem => return .error problem
      | .ok others =>
        return .ok ((plainLines options.lineEnd contents).map options.line :: others)

/-- Sorts lists of lines, or merges them if they are sorted already. -/
def SortOptions.arrange (options : SortOptions) (lists : List (List SortLine)) :
    List SortLine :=
  let sorted :=
    if options.merges then mergeLists options lists
    else lists.flatten.mergeSort options.before
  if options.unique then dropRepeats options sorted else sorted

/-- Tells whether a file is sorted. -/
def checkOrder (activity : Activity) (options : SortOptions) (letter : Char) (file : Bytes) :
    Work Int := do
  match ← readSorted activity options [file] with
  | .error (file, .isDirectory) => sortFailure activity "read failed" file .isDirectory
  | .error (file, errno) => sortFailure activity "open failed" file errno
  | .ok lists =>
    match firstDisorder? options 1 lists.flatten with
    | none => return 0
    | some (number, line) =>
      if letter = 'c' then
        activity.print .errors (activity.name ++ Text.encode ": " ++ file ++
          Text.encode (":" ++ toString number ++ ": disorder: ") ++ line ++ [options.lineEnd])
      return 1

/-- Writes sorted lines to the output, which messages call by a name. When it takes no more, sorting
is over. -/
def writeLines (activity : Activity) (options : SortOptions) (name : Bytes) :
    List SortLine → Work Int
  | [] => do
    match ← Work.flush activity with
    | none => return 0
    | some errno => sortFailure activity "fflush failed" name errno
  | line :: rest => do
    let written :=
      if options.explains then options.explained (localeOf activity) line.text
      else line.text ++ [options.lineEnd]
    match ← Work.put activity written with
    | none => writeLines activity options name rest
    | some errno => sortFailure activity "write failed" name errno

/-- Empties the file that takes the place of the output, if there is one. -/
def clearSorted (activity : Activity) (options : SortOptions) : Work Unit := do
  if options.outputFile.isSome then
    Process.change fun kernel =>
      (activity.location? .output kernel).elim kernel kernel.clearFile

/-- Writes the sorted lines to the output. A file that takes the place of the output is emptied
first. -/
def writeSorted (activity : Activity) (options : SortOptions) (lines : List SortLine) :
    Work Int := do
  clearSorted activity options
  writeLines activity options (options.outputFile.getD (Text.encode "standard output")) lines

/-- The first file that cannot be read, and why. -/
def firstUnreadable? (activity : Activity) (kernel : Kernel) :
    List Bytes → Option (Bytes × Errno)
  | [] => none
  | file :: rest =>
    match if file = dash then none
      else
        match kernel.find activity.slots activity.directory file with
        | .error errno => some (file, errno)
        | .ok (_, node) =>
          if FileTree.permits FileTree.readWay node then none else some (file, .accessDenied) with
    | some problem => some problem
    | none => firstUnreadable? activity kernel rest

/-- Lets the file that the sorted lines are written to, if there is one, take the place of the
output. -/
def openSorted (activity : Activity) (file : Option Bytes) : Process (Except Errno Activity) := do
  match file with
  | none => return .ok activity
  | some file =>
    let mode := FileTree.masked 0o666 activity.mask
    match ← activity.openFile file (.writing mode) with
    | .error errno => return .error errno
    | .ok handle =>
      return .ok { activity with slots := activity.slots.put Stream.output.slot handle }

/-- How many workers take more memory than there is. -/
def workerLimit : Nat := 0x100000000

/-- Sorts files, once the options are read. Files that are merged are read while the output is
written, so it is empty by the time reading fails. -/
def sortFiles (activity : Activity) (options : SortOptions) (files : List Bytes) :
    Work Int := do
  match firstUnreadable? activity (← Process.kernel) files with
  | some (file, errno) => sortFailure activity "cannot read" file errno
  | none =>
    match ← openSorted activity options.outputFile with
    | .error errno =>
      sortFailure activity "open failed" (options.outputFile.getD []) errno
    | .ok activity =>
      match ← readSorted activity options files with
      | .error (file, errno) =>
        let problem :=
          if inputIsClosed activity [file] then "stat failed"
          else if errno = .isDirectory || errno = .badDescriptor then "read failed"
          else "open failed"
        if options.merges && problem = "read failed" then clearSorted activity options
        sortFailure activity problem file errno
      | .ok lists =>
        let isMany := 1 < (lists.map List.length).foldl (· + ·) 0
        if workerLimit ≤ options.workers && isMany && !options.merges then
          Work.warn activity (Text.encode "memory exhausted")
          return 2
        writeSorted activity options (options.arrange lists)

/-- What is wrong with the names that a file lists, if something is. -/
def listedProblem? (activity : Activity) (source : Bytes) (names : List Bytes) :
    Option Bytes :=
  let numbered := names.zip (List.range names.length)
  if names.isEmpty then
    some (Text.encode "no input from " ++ quotedName (localeOf activity) source)
  else
    numbered.findSome? fun (name, index) =>
      if name = dash then some (inputListed activity)
      else if name.isEmpty then some (emptyName activity (some source) (index + 1))
      else none

/-- How many bytes random orders depend on. -/
def seedSize : Nat := 16

/-- Reads what random orders depend on, if that is needed. -/
def readSeed (activity : Activity) (options : SortOptions) : Work (Except Int SortOptions) := do
  match options.randomSource, options.keys.any fun key => key.style.random with
  | some file, true =>
    match ← openOperand activity file with
    | .error errno => return .error (← sortFailure activity "open failed" file errno)
    | .ok handle =>
      let seed ← Process.read activity.standing handle seedSize
      closeOperand activity handle
      let refused (problem : String) : Work (Except Int SortOptions) := do
        Work.warn activity (quotedText (localeOf activity) file ++ Text.encode problem)
        return .error 2
      match seed with
      | .error errno => refused (": read error: " ++ errno.sentence)
      | .ok seed =>
        if seed.length < seedSize then refused ": end of file"
        else
          let ending := if isOrdered activity then [0] else []
          return .ok { options with chance := ⟨seed, ending⟩ }
  | _, _ => return .ok options

/-- Sorts files or checks their order, once it is known which. -/
def sortOperands (activity : Activity) (options : SortOptions) (files : List Bytes) :
    Work Int := do
  let failed (message : Bytes) : Work Int := do
    Work.warn activity message
    return 2
  let completed := options.completed
  match completed.keys.find? fun key => 1 < key.style.orders with
  | some key => failed (incompatible key.style.letters)
  | none =>
    if options.explains then
      match options.checks.or (options.outputFile.map fun _ => 'o') with
      | some letter => return ← failed (incompatible (String.ofList [letter] ++ " --debug"))
      | none => (options.remarks activity).forM (Work.warn activity)
    match ← readSeed activity completed with
    | .error code => return code
    | .ok options =>
      match options.checks, files with
      | none, _ => sortFiles activity options files
      | some letter, _ :: extra :: _ =>
        failed (Text.encode "extra operand " ++ quotedName (localeOf activity) extra ++
          Text.encode " not allowed with -" ++ ofCharacters [letter])
      | some letter, _ =>
        if options.outputFile.isSome then failed (incompatible (String.ofList [letter, 'o']))
        else checkOrder activity options letter (files.headD dash)

/-- How many files a process may have open. -/
def openLimitOf (activity : Activity) : Nat := activity.allowances.openFiles.getD countLimit

/-- Sorts the lines of its files, or of its input if it has none, by their bytes or as it is
told. -/
def sortLines : Tool := Work.tool 2 fun activity => do
  let failed (message : Bytes) : Work Int := do
    Work.warn activity message
    return 2
  let strict := (activity.setting? "POSIXLY_CORRECT").isSome
  match readSortArguments (localeOf activity) (openLimitOf activity) strict
      (activity.operands.length + 1) .default activity.operands with
  | .error ⟨messages, hint⟩ =>
    match hint with
    | some code => Work.refuse activity messages.flatten code
    | none =>
      messages.forM (Work.warn activity)
      return 2
  | .ok options =>
    match options.source, options.files with
    | some _, extra :: _ => Work.refuse activity (extraListed activity extra) 2
    | some source, [] =>
      match ← readOperand activity source with
      | .error .isDirectory =>
        failed (Text.encode "cannot read file names from " ++
          quotedName (localeOf activity) source)
      | .error errno => sortFailure activity "open failed" source errno
      | .ok contents =>
        let names := listedNames contents
        match listedProblem? activity source names with
        | some problem => failed problem
        | none => sortOperands activity options names
    | none, [] => sortOperands activity options [dash]
    | none, files => sortOperands activity options files

end PipelineShell.Tool
