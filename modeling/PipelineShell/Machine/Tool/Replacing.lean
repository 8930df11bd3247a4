/-
The tool that replaces characters: `tr`.

A set of characters is written as a sequence of parts: single characters, ranges, named classes,
equivalence classes and repeated characters. When characters are replaced, the two sets are gone
through side by side, and a class of letters in the second has to stand opposite one in the first.
-/

import PipelineShell.Machine.Tool.Beginning
import PipelineShell.Machine.Tool.Printing

namespace PipelineShell.Tool

/-! ### Parts of a set -/

/-- The two classes that stand opposite each other when letters change their case. -/
inductive LetterCase where
  | upper
  | lower
  deriving DecidableEq, Repr

/-- A part of a set. -/
inductive SetPart where
  | single (character : Char)
  | range (low high : Char)
  | named (name : String)
  | equivalent (character : Char)
  /-- A character several times; without a count, as often as there is room. -/
  | repeated (character : Char) (count : Nat)
  deriving DecidableEq, Repr

/-- All characters. -/
def allCharacters : List Char := (List.range 256).map Char.ofNat

/-- Whether a character belongs to a named class; nothing if there is no such class. -/
def classMember? : String → Option (Char → Bool)
  | "alnum" => some Char.isAlphanum
  | "alpha" => some Char.isAlpha
  | "blank" => some fun character => character = ' ' || character = '\t'
  | "cntrl" => some fun character => character.toNat < 32 || character.toNat = 127
  | "digit" => some Char.isDigit
  | "graph" => some fun character => isPlain character && character ≠ ' '
  | "lower" => some Char.isLower
  | "print" => some isPlain
  | "punct" => some fun character =>
    isPlain character && character ≠ ' ' && !character.isAlphanum
  | "space" => some isSpace
  | "upper" => some Char.isUpper
  | "xdigit" => some fun character => (hexadecimal? character).isSome
  | _ => none

/-- The characters from one to another. -/
def characterRange (low high : Char) : List Char :=
  (List.range (high.toNat + 1 - low.toNat)).map fun step => Char.ofNat (low.toNat + step)

/-- The members of a part. -/
def SetPart.members : SetPart → List Char
  | .single character => [character]
  | .range low high => characterRange low high
  | .named name => ((classMember? name).map fun belongs => allCharacters.filter belongs).getD []
  | .equivalent character => [character]
  | .repeated character count => List.replicate count character

/-- The case of the letters in a part, if it is a class of them. -/
def SetPart.letterCase? : SetPart → Option LetterCase
  | .named "upper" => some .upper
  | .named "lower" => some .lower
  | _ => none

/-! ### Reading sets -/

/-- A character of a set as it was written: whether it came from an escape. -/
structure SetCharacter where
  character : Char
  escaped : Bool
  deriving DecidableEq, Repr

/-- Whether a character is a certain one and has its special meaning. -/
def SetCharacter.is (written : SetCharacter) (character : Char) : Bool :=
  written.character = character && !written.escaped

/-- Reads escapes. Octal numbers have up to three digits but stay below 256. Gives the characters
and warnings. `read` is how many characters belong to the escape before them. -/
def readEscapesAfter : (read : Nat) → List Char → List SetCharacter × List Bytes
  | _, [] => ([], [])
  | read + 1, _ :: rest => readEscapesAfter read rest
  | 0, ['\\'] =>
    ([⟨'\\', false⟩],
      [Text.encode "warning: an unescaped backslash at end of string is not portable"])
  | 0, '\\' :: letter :: rest =>
    match octal? letter with
    | none =>
      let (others, warnings) := readEscapesAfter 0 rest
      (⟨if letter = 'e' then 'e' else (escaped? letter).getD letter, true⟩ :: others, warnings)
    | some _ =>
      let (value, count) := countedDigits octal? 8 3 (letter :: rest)
      if value < 256 then
        let (others, warnings) := readEscapesAfter (count - 1) rest
        (⟨Char.ofNat value, true⟩ :: others, warnings)
      else
        let (value, count) := countedDigits octal? 8 2 (letter :: rest)
        let (others, warnings) := readEscapesAfter (count - 1) rest
        let digits := (letter :: rest).take 2
        let third := (letter :: rest).drop 2 |>.take 1
        (⟨Char.ofNat value, true⟩ :: others,
          ofCharacters ("warning: the ambiguous octal escape \\".toList ++ digits ++ third ++
            " is being\n\tinterpreted as the 2-byte sequence \\0".toList ++ digits ++
            ", ".toList ++ third) :: warnings)
  | 0, character :: rest =>
    let (others, warnings) := readEscapesAfter 0 rest
    (⟨character, false⟩ :: others, warnings)

/-- Reads the escapes of a text. -/
def readEscapes (text : List Char) : List SetCharacter × List Bytes := readEscapesAfter 0 text

/-- A character as messages about sets show it. -/
def printableCharacter (character : Char) : List Char :=
  if isPlain character then [character] else '\\' :: octalDigitsOf (UInt8.ofNat character.toNat)

/-- A text as messages about sets show it. -/
def printableText (text : List Char) : List Char :=
  text.flatMap fun character =>
    if character = '\\' then ['\\', '\\']
    else if isPlain character then [character]
    else characters (escapeOf (UInt8.ofNat character.toNat))

/-- The text between a mark and the same mark before a closing bracket, and what follows. -/
def untilDelimiter (mark : Char) :
    List SetCharacter → Option (List SetCharacter × List SetCharacter)
  | first :: second :: rest =>
    if first.is mark && second.is ']' then some ([], rest)
    else (untilDelimiter mark (second :: rest)).map fun (inside, after) => (first :: inside, after)
  | _ => none

/-- Reads a class between its marks: a named one or an equivalence class. Nothing if it is
neither. -/
def readClass (mark : Char) (inside : List Char) : Except Bytes (Option SetPart) :=
  match inside with
  | [] =>
    .error (Text.encode
      (if mark = ':' then "missing character class name '[::]'"
        else "missing equivalence class character '[==]'"))
  | [character] =>
    if mark = '=' then .ok (some (.equivalent character)) else .ok none
  | _ =>
    let name := String.ofList inside
    .ok (if mark = ':' ∧ (classMember? name).isSome then some (.named name) else none)

/-- The message about a class that is none. -/
def badClass (locale : Locale) (mark : Char) (inside : List Char) : Bytes :=
  let text := printableText inside
  if mark = ':' then
    Text.encode "invalid character class " ++ quotedText locale (ofCharacters text)
  else ofCharacters text ++ Text.encode ": equivalence class operand must be a single character"

/-- The value of a count: octal if it starts with zero. -/
def repeatCount? (digits : List Char) : Option Nat :=
  match digits with
  | '0' :: _ =>
    if digits.all fun digit => (octal? digit).isSome then
      some (digitsOf octal? 8 digits.length 0 digits).1
    else none
  | _ => if digits.all Char.isDigit then some (decimalValue digits) else none

/-- Reads a repeated character after its opening bracket. Nothing if it is none. -/
def readRepeated (locale : Locale) :
    List SetCharacter → Except Bytes (Option (SetPart × List SetCharacter))
  | first :: star :: rest =>
    if star.is '*' then
      let digits := rest.takeWhile fun written => !written.escaped && written.character ≠ ']'
      match rest.drop digits.length with
      | close :: after =>
        if close.is ']' then
          let text := digits.map (·.character)
          match if text = [] then some 0 else repeatCount? text with
          | some count =>
            if count < countLimit then .ok (some (.repeated first.character count, after))
            else .error (badCount text)
          | none => .error (badCount text)
        else .ok none
      | [] => .ok none
    else .ok none
  | _ => .ok none
where
  /-- The message about a count that is none. -/
  badCount (text : List Char) : Bytes :=
    Text.encode "invalid repeat count " ++
      quotedText locale (ofCharacters (printableText text)) ++
      Text.encode " in [c*n] construct"

/-- Whether a repeated character follows with nothing but digits as its count. -/
def looksRepeated : List SetCharacter → Bool
  | star :: rest =>
    star.is '*' &&
      ((rest.dropWhile fun written => written.character.isDigit).head?.any fun written =>
        written.is ']')
  | [] => false

/-- The part that starts with an opening bracket, if it is more than the bracket. -/
def readBracket (locale : Locale) (rest : List SetCharacter) :
    Except Bytes (Option (SetPart × List SetCharacter)) :=
  match rest with
  | mark :: inner =>
    if mark.is ':' || mark.is '=' then
      match untilDelimiter mark.character inner with
      | none => readRepeated locale rest
      | some (inside, after) => do
        let text := inside.map (·.character)
        match ← readClass mark.character text with
        | some part => return some (part, after)
        | none =>
          if looksRepeated inner then readRepeated locale rest
          else throw (badClass locale mark.character text)
    else readRepeated locale rest
  | [] => .ok none

/-- The parts of a set. The first argument bounds the number of steps. -/
def readParts (locale : Locale) : Nat → List SetCharacter → Except Bytes (List SetPart)
  | 0, _ => .ok []
  | steps + 1, written =>
    match written with
    | first :: second :: third :: rest => do
      let bracketed ←
        if first.is '[' then readBracket locale (second :: third :: rest) else pure none
      match bracketed with
      | some (part, after) => return part :: (← readParts locale steps after)
      | none =>
        if second.is '-' then
          if third.character < first.character then
            throw (ofCharacters ("range-endpoints of '".toList ++
              printableCharacter first.character ++ ['-'] ++ printableCharacter third.character ++
              "' are in reverse collating sequence order".toList))
          else return .range first.character third.character :: (← readParts locale steps rest)
        else return .single first.character :: (← readParts locale steps (second :: third :: rest))
    | short => .ok (short.map fun written => .single written.character)

/-! ### Checking sets -/

/-- How many characters parts stand for, those without a count apart. -/
def partsLength (parts : List SetPart) : Nat :=
  parts.foldl (fun total part => total + part.members.length) 0

/-- Whether a part is a repeated character without a count. -/
def SetPart.isIndefinite : SetPart → Bool
  | .repeated _ 0 => true
  | _ => false

/-- The characters that parts stand for. -/
def membersOf (parts : List SetPart) : List Char := parts.flatMap SetPart.members

/-- Gives a repeated character without a count all the room that is left. -/
def fillIndefinite (room : Nat) (parts : List SetPart) : List SetPart :=
  parts.map fun part =>
    match part with
    | .repeated character 0 => .repeated character (room - partsLength parts)
    | _ => part

/-- Two sets side by side, and what they come to: pairs of characters, how many characters are left
over in the first, or nothing if classes of letters do not stand opposite each other. The flags tell
whether the part at the front has just been reached. -/
structure Alignment where
  pairs : List (Char × Char)
  /-- The lengths, with classes that stand opposite each other counted once. -/
  firstLength : Nat
  secondLength : Nat

/-- The pairs that a class opposite another one gives. -/
def casePairs (first second : LetterCase) : List (Char × Char) :=
  match first, second with
  | .lower, .upper =>
    (allCharacters.filter Char.isLower).map fun character => (character, character.toUpper)
  | .upper, .lower =>
    (allCharacters.filter Char.isUpper).map fun character => (character, character.toLower)
  | _, _ => []

/-- A part that is being gone through: the members that are left, the class if it is one, and
whether none was taken yet. -/
structure PartView where
  members : List Char
  letterCase : Option LetterCase
  fresh : Bool

/-- The views of parts that have members. -/
def views (parts : List SetPart) : List PartView :=
  (parts.filter fun part => part.members ≠ []).map fun part =>
    ⟨part.members, part.letterCase?, true⟩

/-- Moves past the first member of the first part. -/
def advance : List PartView → List PartView
  | ⟨_ :: next :: members, letterCase, _⟩ :: rest => ⟨next :: members, letterCase, false⟩ :: rest
  | _ :: rest => rest
  | [] => []

/-- Goes through two sets side by side. The first argument bounds the number of steps. -/
def align : Nat → List PartView → List PartView → Option Alignment
  | 0, _, _ => some ⟨[], 0, 0⟩
  | steps + 1, first, second =>
    let left (views : List PartView) : Nat :=
      views.foldl (fun total view => total + view.members.length) 0
    match first, second with
    | one :: firstRest, two :: secondRest =>
      match two.letterCase with
      | some case =>
        match one.letterCase with
        | some other =>
          if two.fresh && !one.fresh then none
          else
            (align steps firstRest secondRest).map fun alignment =>
              ⟨casePairs other case ++ alignment.pairs, alignment.firstLength + 1,
                alignment.secondLength + 1⟩
        | none => none
      | none =>
        (align steps (advance first) (advance second)).map fun alignment =>
          ⟨(one.members.headD ' ', two.members.headD ' ') :: alignment.pairs,
            alignment.firstLength + 1, alignment.secondLength + 1⟩
    | [], two :: _ =>
      if two.letterCase.isSome && two.fresh then none else some ⟨[], 0, left second⟩
    | _, [] => some ⟨[], left first, 0⟩

/-! ### What to do -/

/-- What `tr` was asked for. -/
structure ReplaceOptions where
  complements : Bool
  deletes : Bool
  squeezes : Bool
  truncates : Bool

/-- The options of `tr`. -/
def replaceTable : OptionTable where
  letters := "AcCdst".toList.map fun letter => (letter, .nothing)
  words := [("complement", .nothing, "c"), ("delete", .nothing, "d"),
    ("squeeze-repeats", .nothing, "s"), ("truncate-set1", .nothing, "t"),
    ("help", .nothing, "help"), ("version", .nothing, "version")]
  ordered := true

/-- Reads an option. -/
def ReplaceOptions.withOption (options : ReplaceOptions) (key : String) : ReplaceOptions :=
  match key with
  | "c" => { options with complements := true }
  | "C" => { options with complements := true }
  | "d" => { options with deletes := true }
  | "s" => { options with squeezes := true }
  | "t" => { options with truncates := true }
  | _ => options

/-- The character that fills up the second set: the last one of it. -/
def filler (parts : List SetPart) : Except Bytes (List Char) :=
  match parts.getLast? with
  | none => .ok []
  | some (.named _) =>
    .error (Text.encode ("when translating with string1 longer than string2,\n" ++
      "the latter string must not end with a character class"))
  | some (.repeated character _) => .ok [character]
  | some part => .ok part.members.getLast?.toList

/-- The pairs by which characters are replaced, or what is wrong with the sets. -/
def ReplaceOptions.pairs (options : ReplaceOptions) (first second : List SetPart) :
    Except Bytes (List (Char × Char)) := do
  let isClass (part : SetPart) : Bool := match part with
    | .named _ => true
    | _ => false
  let source := membersOf first
  let domain := if options.complements then
      allCharacters.filter fun character => !source.contains character
    else source
  let firstLength := if options.complements then domain.length else source.length
  if 1 < (second.filter SetPart.isIndefinite).length then
    throw (Text.encode "only one [c*] repeat construct may appear in string2")
  let second := fillIndefinite firstLength second
  if second.any fun part => match part with
      | .equivalent _ => true
      | _ => false then
    throw (Text.encode "[=c=] expressions may not appear in string2 when translating")
  if second.any fun part => isClass part && part.letterCase?.isNone then
    throw (Text.encode ("when translating, the only character classes that may appear in\n" ++
      "string2 are 'upper' and 'lower'"))
  let bound := firstLength + partsLength second + 1
  let firstViews :=
    if options.complements then domain.map fun character => ⟨[character], none, true⟩
    else views first
  let secondParts : List PartView := if options.complements then
      (membersOf second).map fun character => ⟨[character], none, true⟩
    else views second
  match align bound firstViews secondParts with
  | none => throw (Text.encode "misaligned [:upper:] and/or [:lower:] construct")
  | some alignment => do
    let missing := alignment.firstLength - alignment.secondLength
    let extended : List PartView ← if missing = 0 ∨ options.truncates then pure secondParts
      else if membersOf second = [] then
        throw (Text.encode "when not truncating set1, string2 must be non-empty")
      else do
        let fill ← filler second
        pure (secondParts ++ (List.replicate missing fill).flatten.map fun character =>
          ⟨[character], none, true⟩)
    let targets := extended.flatMap (·.members)
    let uniform := targets.all fun character => some character = targets.head?
    if options.complements ∧ first.any isClass ∧
        !(uniform && targets.length = firstLength) then
      throw (Text.encode ("when translating with complemented character classes,\n" ++
        "string2 must map all characters in the domain to one"))
    else return ((align (bound + missing) firstViews extended).map (·.pairs)).getD []

/-- Leaves one of each run of the same character, if it is in the set. -/
def squeeze (set : List Char) (previous : Option Char) : List Char → List Char
  | [] => []
  | character :: rest =>
    if previous = some character ∧ set.contains character then squeeze set previous rest
    else character :: squeeze set (some character) rest

/-- Replaces a character by its partner; the last pair for a character counts. -/
def partner (pairs : List (Char × Char)) (character : Char) : Char :=
  match pairs.find? fun pair => pair.1 = character with
  | some pair => pair.2
  | none => character

/-- What happens to the input: characters are replaced or dropped, and then runs of the same
character may be squeezed, if it is in a set. -/
structure Change where
  replaced : List Char → List Char
  squeezed : Option (List Char)

/-- Changes a part of the input. `previous` is the last character before it, as it was before runs
were squeezed. -/
def Change.apply (change : Change) (previous : Option Char) (text : List Char) :
    List Char × Option Char :=
  let replaced := change.replaced text
  match change.squeezed with
  | none => (replaced, none)
  | some set => (squeeze set previous replaced, replaced.getLast?.or previous)

/-- What happens to the input, or what is wrong with the sets. -/
def ReplaceOptions.change (options : ReplaceOptions) (first : List SetPart)
    (second : Option (List SetPart)) : Except Bytes Change := do
  if first.any SetPart.isIndefinite then
    throw (Text.encode "the [c*] repeat construct may not appear in string1")
  let source := membersOf first
  let isSource (character : Char) : Bool := source.contains character != options.complements
  let remaining (text : List Char) : List Char := text.filter fun character => !isSource character
  match second with
  | none =>
    if options.deletes then return ⟨remaining, none⟩
    else return ⟨id, some (allCharacters.filter isSource)⟩
  | some second =>
    if options.deletes then
      if second.any SetPart.isIndefinite then
        throw (Text.encode (if 1 < (second.filter SetPart.isIndefinite).length then
            "only one [c*] repeat construct may appear in string2"
          else "the [c*] construct may appear in string2 only when translating"))
      else return ⟨remaining, some (membersOf second)⟩
    else
      let pairs := (← options.pairs first second).reverse
      let table := (allCharacters.map (partner pairs)).toArray
      let replaced (text : List Char) : List Char :=
        text.map fun character => (table[character.toNat]?).getD character
      let targets := pairs.map (·.2) ++ membersOf second
      return ⟨replaced, if options.squeezes then some targets else none⟩

/-! ### The tool -/

/-- What is wrong with the number of sets, if something is. -/
def ReplaceOptions.operandProblem? (locale : Locale) (options : ReplaceOptions)
    (sets : List Bytes) : Option Bytes :=
  let least := if options.deletes = options.squeezes then 2 else 1
  let most := if options.deletes ∧ ¬options.squeezes then 1 else 2
  if sets.length < least then
    some (match sets.getLast? with
      | none => Text.encode "missing operand"
      | some last => Text.encode "missing operand after " ++ quotedText locale last ++
        Text.encode ("\nTwo strings must be given when " ++
          (if options.squeezes then "both deleting and squeezing repeats." else "translating.")))
  else
    match sets.drop most with
    | [] => none
    | extra :: _ =>
      some (Text.encode "extra operand " ++ quotedText locale extra ++
        Text.encode (if sets.length = 2 then
          "\nOnly one string may be given when deleting without squeezing repeats." else ""))

/-- Reads a set, with the warnings about it written to the error stream. -/
def readSet (activity : Activity) (argument : Bytes) : Work (Except Bytes (List SetPart)) := do
  let (written, warnings) := readEscapes (characters argument)
  warnings.forM (Work.warn activity)
  return readParts (localeOf activity) (written.length + 1) written

/-- Reads the second set, if there is one. -/
def readSecondSet (activity : Activity) :
    List Bytes → Work (Except Bytes (Option (List SetPart)))
  | [] => return .ok none
  | argument :: _ => return (← readSet activity argument).map some

/-- How much is read at once. -/
def replaceSize : Nat := 8192

/-- Ends with a message. -/
def replaceFailure (activity : Activity) (message : Bytes) : Work Int := do
  Work.warn activity message
  return 1

/-- Changes the input, block by block. The number bounds how many blocks there may be. -/
def replaceBlocks (activity : Activity) (change : Change) :
    Nat → (previous : Option Char) → Work Int
  | 0, _ => return 0
  | steps + 1, previous => do
    match ← activity.read replaceSize with
    | .error errno => replaceFailure activity (Text.encode ("read error: " ++ errno.sentence))
    | .ok [] => return 0
    | .ok bytes =>
      let (text, previous) := change.apply previous (characters bytes)
      match ← Work.put activity (ofCharacters text) with
      | some errno =>
        replaceFailure activity (Text.encode ("write error: " ++ errno.sentence))
      | none => replaceBlocks activity change steps previous

/-- Replaces, deletes or squeezes the characters of its input. -/
def replaceCharacters : Tool := Work.tool 1 fun activity => do
  let events := optionEvents replaceTable activity
  match collectOptions (fun options key _ => .ok (ReplaceOptions.withOption options key))
      ⟨false, false, false, false⟩ events with
  | .error (message, _) => Work.refuse activity message 1
  | .ok options =>
    let sets := operandsOf events
    match options.operandProblem? (localeOf activity) sets with
    | some problem => Work.refuse activity problem 1
    | none =>
      match ← readSet activity (sets.headD []) with
      | .error message => replaceFailure activity message
      | .ok first =>
        match ← readSecondSet activity (sets.drop 1) with
        | .error message => replaceFailure activity message
        | .ok second =>
          match options.change first second with
          | .error message => replaceFailure activity message
          | .ok change => replaceBlocks activity change Process.patience none

end PipelineShell.Tool
