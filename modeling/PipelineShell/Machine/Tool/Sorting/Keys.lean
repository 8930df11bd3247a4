/-
Sort keys.

A key names the part of a line that is compared and how it is compared. It starts and ends at a
field, counted from one, or at a character of a field. Fields end before a blank that follows
something else, unless a separator is given.
-/

import PipelineShell.Machine.Tool.Digest
import PipelineShell.Machine.Tool.Sorting.Order

namespace PipelineShell.Tool

/-- How texts are compared. -/
structure KeyStyle where
  skipsStartBlanks : Bool
  skipsEndBlanks : Bool
  /-- Only blanks, letters and digits count. -/
  dictionary : Bool
  /-- Only characters that can be printed count. -/
  printable : Bool
  folds : Bool
  general : Bool
  units : Bool
  month : Bool
  numeric : Bool
  random : Bool
  version : Bool
  reverse : Bool
  deriving DecidableEq

/-- Compares all of a text by its bytes. -/
def KeyStyle.plain : KeyStyle :=
  ⟨false, false, false, false, false, false, false, false, false, false, false, false⟩

/-- A key: the style, and where it starts and ends. Fields and characters are counted from zero, and
a key without an end goes on to the end of the line. -/
structure SortKey where
  style : KeyStyle
  startField : Nat
  startCharacter : Nat
  endField : Option Nat
  /-- How many characters of the last field belong to the key; zero stands for all. -/
  endCharacter : Nat
  /-- Whether the key is written the old way. -/
  old : Bool

/-- Which end of a key the letters of a style are given for. -/
inductive KeyEnd where
  | first
  | last
  | both
  deriving DecidableEq

/-- What a letter adds to a style. -/
def KeyStyle.withLetter? (style : KeyStyle) (place : KeyEnd) : Char → Option KeyStyle
  | 'b' => some { style with
      skipsStartBlanks := style.skipsStartBlanks || place ≠ .last
      skipsEndBlanks := style.skipsEndBlanks || place ≠ .first }
  | 'd' => some { style with dictionary := true, printable := false }
  | 'f' => some { style with folds := true }
  | 'g' => some { style with general := true }
  | 'h' => some { style with units := true }
  | 'i' => some { style with printable := !style.dictionary }
  | 'M' => some { style with month := true }
  | 'n' => some { style with numeric := true }
  | 'R' => some { style with random := true }
  | 'r' => some { style with reverse := true }
  | 'V' => some { style with version := true }
  | _ => none

/-- Reads the letters of a style, and gives what follows them. -/
def KeyStyle.readLetters (style : KeyStyle) (place : KeyEnd) :
    List Char → KeyStyle × List Char
  | [] => (style, [])
  | letter :: rest =>
    match style.withLetter? place letter with
    | some style => style.readLetters place rest
    | none => (style, letter :: rest)

/-- Whether a style leaves the comparison as it is, the direction apart. -/
def KeyStyle.isDefault (style : KeyStyle) : Bool :=
  { style with reverse := false } = KeyStyle.plain

/-- How many orders a style asks for that exclude each other. -/
def KeyStyle.orders (style : KeyStyle) : Nat :=
  style.numeric.toNat + style.general.toNat + style.units.toNat + style.month.toNat +
    (style.version || style.random || style.dictionary || style.printable).toNat

/-- The letters of a style, without those that exclude nothing. -/
def KeyStyle.letters (style : KeyStyle) : String :=
  String.ofList <|
    (if style.dictionary then ['d'] else []) ++ (if style.folds then ['f'] else []) ++
    (if style.general then ['g'] else []) ++ (if style.units then ['h'] else []) ++
    (if style.printable then ['i'] else []) ++ (if style.month then ['M'] else []) ++
    (if style.numeric then ['n'] else []) ++ (if style.random then ['R'] else []) ++
    (if style.version then ['V'] else [])

/-! ### Reading keys -/

/-- Reads a count, after blanks and a plus sign. -/
def position? (text : List Char) : Option (Nat × List Char) :=
  let unsigned := text.dropWhile isSpace
  let unsigned := match unsigned with
    | '+' :: rest => rest
    | _ => unsigned
  let digits := unsigned.takeWhile Char.isDigit
  if digits = [] then none else some (decimalValue digits, unsigned.drop digits.length)

/-- Reads a count, or tells what was expected. -/
def readPosition (locale : Locale) (expected : String) (text : List Char) :
    Except Bytes (Nat × List Char) :=
  match position? text with
  | some found => .ok found
  | none =>
    .error (Text.encode (expected ++ ": invalid count at start of ") ++
      quotedText locale (ofCharacters text))

/-- The message about a key that makes no sense. -/
def badKey (locale : Locale) (problem : String) (written : List Char) : Bytes :=
  Text.encode (problem ++ ": invalid field specification ") ++
    quotedText locale (ofCharacters written)

/-- Reads a count that may not be zero. -/
def readPositive (locale : Locale) (expected zero : String) (written text : List Char) :
    Except Bytes (Nat × List Char) := do
  let (count, rest) ← readPosition locale expected text
  if count = 0 then throw (badKey locale zero written) else return (count - 1, rest)

/-- Reads a key. -/
def SortKey.read (locale : Locale) (written : List Char) : Except Bytes SortKey := do
  let (startField, rest) ←
    readPositive locale "invalid number at field start" "field number is zero" written written
  let (startCharacter, rest) ← match rest with
    | '.' :: rest =>
      readPositive locale "invalid number after '.'" "character offset is zero" written rest
    | _ => pure (0, rest)
  let (style, rest) := KeyStyle.plain.readLetters .first rest
  let (key, rest) : SortKey × List Char ← match rest with
    | ',' :: rest => do
      let (endField, rest) ←
        readPositive locale "invalid number after ','" "field number is zero" written rest
      let (endCharacter, rest) ← match rest with
        | '.' :: rest => readPosition locale "invalid number after '.'" rest
        | _ => pure (0, rest)
      let (style, rest) := style.readLetters .last rest
      pure (⟨style, startField, startCharacter, some endField, endCharacter, false⟩, rest)
    | _ => pure (⟨style, startField, startCharacter, none, 0, false⟩, rest)
  if rest = [] then return key else throw (badKey locale "stray character in field spec" written)

/-- The start of a key that is written the old way, after the plus sign. Fields and characters are
counted from zero. -/
def SortKey.readOld? (written : List Char) : Option SortKey := do
  let (startField, rest) ← position? written
  let (startCharacter, rest) ← match rest with
    | '.' :: rest => position? rest
    | _ => some (0, rest)
  let (style, rest) := KeyStyle.plain.readLetters .first rest
  if rest = [] then some ⟨style, startField, startCharacter, none, 0, true⟩ else none

/-- Adds the end of a key that is written the old way, with its dash. The field that it names
belongs to the key only if characters of it do. -/
def SortKey.withOldEnd (locale : Locale) (key : SortKey) (written : List Char) :
    Except Bytes SortKey := do
  let (field, rest) ← readPosition locale "invalid number after '-'" (written.drop 1)
  let (endCharacter, rest) ← match rest with
    | '.' :: rest => readPosition locale "invalid number after '.'" rest
    | _ => pure (0, rest)
  let (style, rest) := key.style.readLetters .last rest
  let endField := if endCharacter = 0 then field - 1 else field
  if rest = [] then return { key with style, endField := some endField, endCharacter }
  else throw (badKey locale "stray character in field spec" written)

/-! ### The part of a line that a key names -/

/-- What follows a field and, if there is a separator, the separator behind it. -/
def skipField (separator : Option Char) (text : List Char) : List Char :=
  match separator with
  | some mark => (text.dropWhile (· ≠ mark)).drop 1
  | none => (text.dropWhile isFieldBlank).dropWhile fun character => !isFieldBlank character

/-- What follows some fields. -/
def skipFields (separator : Option Char) : Nat → List Char → List Char
  | 0, text => text
  | fields + 1, text =>
    if text = [] then [] else skipFields separator fields (skipField separator text)

/-- What follows the last field of a key. The separator behind it is left. -/
def afterFields (separator : Option Char) : Nat → List Char → List Char
  | 0, text => text
  | 1, text =>
    match separator with
    | some mark => text.dropWhile (· ≠ mark)
    | none => skipField none text
  | fields + 1, text =>
    if text = [] then [] else afterFields separator fields (skipField separator text)

/-- What is left of a line where a key starts. -/
def SortKey.fromStart (key : SortKey) (separator : Option Char) (line : List Char) : List Char :=
  let start := skipFields separator key.startField line
  let start := if key.style.skipsStartBlanks then start.dropWhile isFieldBlank else start
  start.drop key.startCharacter

/-- What is left of a line where a key ends. -/
def SortKey.fromEnd (key : SortKey) (separator : Option Char) (line : List Char) : List Char :=
  match key.endField with
  | none => []
  | some field =>
    if key.endCharacter = 0 then afterFields separator (field + 1) line
    else
      let last := skipFields separator field line
      let last := if key.style.skipsEndBlanks then last.dropWhile isFieldBlank else last
      last.drop key.endCharacter

/-- The part of a line that a key names. -/
def SortKey.part (key : SortKey) (separator : Option Char) (line : List Char) : List Char :=
  let start := key.fromStart separator line
  start.take (start.length - (key.fromEnd separator line).length)

/-- The characters of a text that count, as they count. -/
def KeyStyle.relevant (style : KeyStyle) (text : List Char) : List Char :=
  let kept :=
    if style.dictionary then
      text.filter fun character => character.isAlphanum || isFieldBlank character
    else if style.printable then text.filter isPlain
    else text
  if style.folds then kept.map Char.toUpper else kept

/-- What a random order depends on: texts are compared by their digests, each after a seed and,
unless it is empty, with an ending. -/
structure Chance where
  seed : Bytes
  ending : Bytes

/-- Compares texts by their digests, and by themselves if those are the same. -/
def Chance.compare (chance : Chance) (first second : List Char) : Ordering :=
  let digest (text : List Char) : List Char :=
    characters (Digest.ofBytes (chance.seed ++ ofCharacters text ++
      if text = [] then [] else chance.ending))
  (compareTexts (digest first) (digest second)).then (compareTexts first second)

/-- Compares two parts of lines. -/
def KeyStyle.compare (style : KeyStyle) (chance : Chance) (first second : List Char) : Ordering :=
  let first := style.relevant first
  let second := style.relevant second
  let order :=
    if style.numeric then compareNumbers first second
    else if style.general then (GeneralNumber.read first).order (GeneralNumber.read second)
    else if style.units then compareWithUnits first second
    else if style.month then Ord.compare (monthNumber first) (monthNumber second)
    else if style.random then chance.compare first second
    else if style.version then compareVersions first second
    else compareTexts first second
  if style.reverse then order.swap else order

end PipelineShell.Tool
