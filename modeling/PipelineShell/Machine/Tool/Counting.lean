/-
The tool that counts lines, words and bytes: `wc`.
-/

import PipelineShell.Machine.Tool.Listing

namespace PipelineShell.Tool

/-! ### Counts -/

/-- What is counted in a file. -/
structure Counts where
  lines : Nat
  words : Nat
  characters : Nat
  bytes : Nat
  /-- The length of the longest line. -/
  longest : Nat

/-- No counts at all. -/
def Counts.none : Counts := ⟨0, 0, 0, 0, 0⟩

/-- Adds counts up; of the longest lines the longer one counts. -/
def Counts.add (first second : Counts) : Counts :=
  ⟨first.lines + second.lines, first.words + second.words, first.characters + second.characters,
    first.bytes + second.bytes, max first.longest second.longest⟩

/-- What is remembered while counting: the counts so far, the place in the line, and whether a word
has begun. -/
structure Tally where
  counts : Counts
  place : Nat
  inside : Bool

namespace Tally

/-- Ends a word, if one has begun. -/
def endWord (tally : Tally) : Tally := { tally with inside := false }

/-- Ends a line. -/
def endLine (tally : Tally) : Tally :=
  { tally.endWord with
    counts := { tally.counts with longest := max tally.counts.longest tally.place }
    place := 0 }

/-- Begins a word, or goes on with it. -/
def addToWord (tally : Tally) : Tally :=
  let words := if tally.inside then tally.counts.words else tally.counts.words + 1
  { tally with counts := { tally.counts with words }, inside := true }

/-- Counts a character: tabs go to the next multiple of eight, and what cannot be printed neither
begins a word nor takes a place. -/
def addCode (tally : Tally) (code : Nat) : Tally :=
  let tally := { tally with
    counts := { tally.counts with characters := tally.counts.characters + 1 } }
  match code with
  | 10 =>
    let ended := tally.endLine
    { ended with counts := { ended.counts with lines := ended.counts.lines + 1 } }
  | 12 | 13 => tally.endLine
  | 9 => { tally.endWord with place := tally.place + 8 - tally.place % 8 }
  | 32 => { tally.endWord with place := tally.place + 1 }
  | 11 => tally.endWord
  | _ =>
    if isPrintableCode code then
      let tally := { tally with place := tally.place + placesOf code }
      if isBlankCode code then tally.endWord else tally.addToWord
    else tally

/-- Counts a glyph. In a text of characters, a byte that is not part of one counts as a byte
only. -/
def add (locale : Locale) (tally : Tally) (glyph : Glyph) : Tally :=
  let tally := { tally with
    counts := { tally.counts with bytes := tally.counts.bytes + glyph.bytes.length } }
  match glyph.code?, locale with
  | some code, _ => tally.addCode code
  | none, .bytes =>
    { tally with counts := { tally.counts with characters := tally.counts.characters + 1 } }
  | none, .unicode => tally

/-- Counts the glyphs of a text. The number bounds how many there may be. -/
def addAll (locale : Locale) : Nat → Tally → Bytes → Tally
  | 0, tally, _ => tally
  | _, tally, [] => tally
  | steps + 1, tally, first :: rest =>
    match if locale = .unicode then encoded? first rest else none with
    | some glyph =>
      addAll locale steps (tally.add locale glyph) (rest.drop (glyph.bytes.length - 1))
    | none => addAll locale steps (tally.add locale (.ofByte first)) rest

end Tally

/-- Counts in some contents. -/
def Counts.ofBytes (locale : Locale) (contents : Bytes) : Counts :=
  (Tally.addAll locale contents.length ⟨.none, 0, false⟩ contents).endLine.counts

/-! ### Options -/

/-- Which counts are shown, and the file that names the files to be read. -/
structure CountOptions where
  lines : Bool
  words : Bool
  characters : Bool
  bytes : Bool
  longest : Bool
  source : Option Bytes

/-- The options of `wc`. -/
def countTable : OptionTable where
  letters := "clLmw".toList.map fun letter => (letter, .nothing)
  words := [("bytes", .nothing, "c"), ("chars", .nothing, "m"), ("lines", .nothing, "l"),
    ("words", .nothing, "w"), ("debug", .nothing, "debug"),
    ("files0-from", .value, "files0-from"), ("max-line-length", .nothing, "L"),
    ("help", .nothing, "help"), ("version", .nothing, "version")]
  ordered := false

/-- Reads an option. -/
def CountOptions.withOption (options : CountOptions) (key : String) (value : Option Bytes) :
    Except Bytes CountOptions :=
  match key with
  | "l" => .ok { options with lines := true }
  | "w" => .ok { options with words := true }
  | "m" => .ok { options with characters := true }
  | "c" => .ok { options with bytes := true }
  | "L" => .ok { options with longest := true }
  | "files0-from" => .ok { options with source := value }
  | _ => .ok options

/-- The counts that are shown, in their fixed order. -/
def CountOptions.select (options : CountOptions) (counts : Counts) : List Nat :=
  (if options.lines then [counts.lines] else []) ++
    (if options.words then [counts.words] else []) ++
    (if options.characters then [counts.characters] else []) ++
    (if options.bytes then [counts.bytes] else []) ++
    (if options.longest then [counts.longest] else [])

/-- The three usual counts where none was asked for. -/
def CountOptions.completed (options : CountOptions) : CountOptions :=
  if options.select .none = [] then { options with lines := true, words := true, bytes := true }
  else options

/-- Whether the size of a file is all that is asked for. -/
def CountOptions.asksSize (options : CountOptions) (locale : Locale) : Bool :=
  !options.lines && !options.words && !options.longest &&
    !(options.characters && locale = .unicode)

/-! ### Printing -/

/-- A number, padded with spaces on the left. -/
def padded (width number : Nat) : String :=
  let digits := toString number
  String.ofList (List.replicate (width - digits.length) ' ') ++ digits

/-- A line of counts, with the name of the file if there is one. A name of several lines is
quoted. -/
def countLine (locale : Locale) (options : CountOptions) (width : Nat) (counts : Counts)
    (name : Option Bytes) : Bytes :=
  Text.encode (String.intercalate " " ((options.select counts).map (padded width))) ++
    (match name with
      | none => []
      | some name =>
        Text.encode " " ++ if name.contains Text.lineFeed then shown locale name else name) ++
    [Text.lineFeed]

/-- The size of a file; pipes and other things have none. A file that is missing counts as empty. -/
def operandSize? (activity : Activity) (file : Bytes) (kernel : Kernel) : Option Nat :=
  if file = dash then
    match activity.slots.get? Stream.input.slot with
    | none => some 0
    | some handle => kernel.size? handle
  else
    match kernel.find activity.slots activity.directory file with
    | .ok (_, .file contents _) => some contents.length
    | .ok _ => none
    | .error _ => some 0

/-- The width of the numbers: one if a single number is shown, and otherwise as wide as the size of
all files together, but at least seven if something without a size is read. -/
def countWidth (activity : Activity) (options : CountOptions) (files : List Bytes)
    (kernel : Kernel) : Nat :=
  if files.length = 1 ∧ (options.select .none).length = 1 then 1
  else
    let sizes := files.map fun file => operandSize? activity file kernel
    let total := (sizes.filterMap id).foldl (· + ·) 0
    max (toString total).length (if sizes.all Option.isSome then 1 else 7)

/-! ### The tool -/

/-- The size of a page. A file with a size that is no multiple of it is not read if its size is all
that is asked for. -/
def pageSize : Nat := 4096

/-- How much is left of a file whose size tells enough. -/
def sizeLeft? (kernel : Kernel) (handle : Handle) : Option Nat :=
  match kernel.size? handle with
  | none => none
  | some size => if size % pageSize = 0 then none else some (size - kernel.position handle)

/-- Counts in a file. -/
def countFile (activity : Activity) (options : CountOptions) (file : Bytes) :
    Process (Except Errno Counts) := do
  let locale := localeOf activity
  match ← openOperand activity file with
  | .error errno => return .error errno
  | .ok handle =>
    let kernel ← Process.kernel
    let known := if options.asksSize locale then sizeLeft? kernel handle else none
    let counts ← match known with
      | some size => pure (.ok { Counts.none with bytes := size, characters := size })
      | none =>
        (fun contents => contents.map (Counts.ofBytes locale)) <$>
          Process.readAll activity.standing handle readingSize
    closeOperand activity handle
    return counts

/-- Counts in files in order, adding up as it goes. `number` is that of the next file. -/
def countOperands (activity : Activity) (options : CountOptions) (width : Nat) (unnamed : Bool) :
    (number : Nat) → Int → Counts → List Bytes → Work (Int × Counts)
  | _, code, total, [] => return (code, total)
  | number, code, total, file :: rest => do
    let name := if unnamed then none else some file
    let printed (counts : Counts) : Work Unit :=
      Work.printNow activity (countLine (localeOf activity) options width counts name)
    if file = [] then
      Work.warn activity (emptyName activity options.source number)
      countOperands activity options width unnamed (number + 1) 1 total rest
    else if options.source = some dash ∧ file = dash then
      Work.warn activity (inputListed activity)
      countOperands activity options width unnamed (number + 1) 1 total rest
    else
      match ← countFile activity options file with
      | .error errno =>
        let named := if unnamed then Text.encode "standard input" else file
        Work.warn activity (aboutFile activity named errno.sentence)
        if errno = .isDirectory ∨ file = dash then printed .none
        countOperands activity options width unnamed (number + 1) 1 total rest
      | .ok counts =>
        printed counts
        countOperands activity options width unnamed (number + 1) code (total.add counts) rest

/-- Counts in files and shows the total of several. `unnamed` tells whether the input is read only
because no file was named. -/
def countAll (activity : Activity) (options : CountOptions) (unnamed : Bool)
    (files : List Bytes) : Work Int := do
  let width := countWidth activity options files (← Process.kernel)
  let (code, total) ← countOperands activity options width unnamed 1 0 .none files
  if 1 < files.length then
    Work.printNow activity
      (countLine (localeOf activity) options width total (some (Text.encode "total")))
  if inputIsClosed activity files then
    Work.warn activity (Text.encode "-: Bad file descriptor")
    return 1
  return code

/-- Counts in the files that another file lists. -/
def countListed (activity : Activity) (options : CountOptions) (source : Bytes) :
    List Bytes → Work Int
  | extra :: _ => Work.refuse activity (extraListed activity extra) 1
  | [] => do
    match ← readOperand activity source with
    | .error .isDirectory =>
      Work.warn activity (aboutFile activity source "read error: Is a directory")
      return 1
    | .error errno =>
      Work.warn activity (Text.encode "cannot open " ++
        quotedName (localeOf activity) source ++
        Text.encode (" for reading: " ++ errno.sentence))
      return 1
    | .ok contents => countAll activity options false (listedNames contents)

/-- Counts lines, words and bytes of its files, or of its input if it has none. -/
def count : Tool := Work.tool 1 fun activity => do
  let events := optionEvents countTable activity
  match collectOptions CountOptions.withOption ⟨false, false, false, false, false, none⟩
      events with
  | .error (message, _) => Work.refuse activity message 1
  | .ok options =>
    let options := options.completed
    match options.source, operandsOf events with
    | some source, files => countListed activity options source files
    | none, [] => countAll activity options true [dash]
    | none, files => countAll activity options false files

end PipelineShell.Tool
