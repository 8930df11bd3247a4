/-
The tools that print what they are given: `echo` and `printenv`.
-/

import PipelineShell.Machine.Tool.Options

namespace PipelineShell.Tool

/-! ### Escapes -/

/-- The value of an octal digit. -/
def octal? (character : Char) : Option Nat :=
  if '0' ≤ character ∧ character ≤ '7' then some (character.toNat - '0'.toNat) else none

/-- The value of a hexadecimal digit. -/
def hexadecimal? (character : Char) : Option Nat :=
  if character.isDigit then some (character.toNat - '0'.toNat)
  else if 'a' ≤ character ∧ character ≤ 'f' then some (character.toNat - 'a'.toNat + 10)
  else if 'A' ≤ character ∧ character ≤ 'F' then some (character.toNat - 'A'.toNat + 10)
  else none

/-- Reads up to `count` digits of a base. -/
def digitsOf (digit? : Char → Option Nat) (base : Nat) :
    Nat → Nat → List Char → Nat × List Char
  | 0, value, rest => (value, rest)
  | _ + 1, value, [] => (value, [])
  | count + 1, value, character :: rest =>
    match digit? character with
    | some digit => digitsOf digit? base count (value * base + digit) rest
    | none => (value, character :: rest)

/-- Reads up to `count` digits of a base at the front of a text. Gives their value and how many
there are. -/
def countedDigits (digit? : Char → Option Nat) (base count : Nat) (text : List Char) : Nat × Nat :=
  let front := text.take count
  let (value, rest) := digitsOf digit? base count 0 front
  (value, front.length - rest.length)

/-- The character that a letter after a backslash stands for. -/
def escaped? : Char → Option Char
  | 'a' => some (Char.ofNat 7)
  | 'b' => some (Char.ofNat 8)
  | 'e' => some (Char.ofNat 27)
  | 'f' => some (Char.ofNat 12)
  | 'n' => some '\n'
  | 'r' => some '\r'
  | 't' => some '\t'
  | 'v' => some (Char.ofNat 11)
  | '\\' => some '\\'
  | _ => none

/-- The character that a number of an escape stands for. -/
def byteCharacter (value : Nat) : Char := Char.ofNat (value % 256)

/-- Replaces escapes: letters, octal numbers and, if asked for, hexadecimal ones. The flag that
comes back tells whether the text ends early, at the escape that says so. `read` is how many
characters belong to the escape before them. -/
def unescapeAfter (hexadecimal : Bool) : (read : Nat) → List Char → List Char × Bool
  | _, [] => ([], false)
  | read + 1, _ :: rest => unescapeAfter hexadecimal read rest
  | 0, '\\' :: letter :: rest =>
    if letter = 'c' then ([], true)
    else if (octal? letter).isSome then
      let (value, count) := if letter = '0' then countedDigits octal? 8 3 rest
        else countedDigits octal? 8 3 (letter :: rest)
      let (text, ends) := unescapeAfter hexadecimal (if letter = '0' then count else count - 1) rest
      (byteCharacter value :: text, ends)
    else if hexadecimal ∧ letter = 'x' ∧ ((rest.head?.bind hexadecimal?).isSome) then
      let (value, count) := countedDigits hexadecimal? 16 2 rest
      let (text, ends) := unescapeAfter hexadecimal count rest
      (byteCharacter value :: text, ends)
    else
      let (text, ends) := unescapeAfter hexadecimal 0 rest
      match escaped? letter with
      | some character => (character :: text, ends)
      | none => ('\\' :: letter :: text, ends)
  | 0, character :: rest =>
    let (text, ends) := unescapeAfter hexadecimal 0 rest
    (character :: text, ends)

/-- Replaces escapes in a text. -/
def unescape (hexadecimal : Bool) (text : List Char) : List Char × Bool :=
  unescapeAfter hexadecimal 0 text

/-! ### Printing arguments -/

/-- What the leading options of `echo` ask for: no line feed at the end, and escapes. -/
structure EchoOptions where
  quiet : Bool
  escapes : Bool

/-- Reads the leading options of `echo`. A word with any other letter is no option. -/
def echoOptions (options : EchoOptions) : List Bytes → EchoOptions × List Bytes
  | [] => (options, [])
  | word :: rest =>
    match characters word with
    | '-' :: first :: more =>
      if (first :: more).all fun letter => letter = 'n' || letter = 'e' || letter = 'E' then
        let read := (first :: more).foldl (fun options letter =>
          if letter = 'n' then { options with quiet := true }
          else { options with escapes := letter = 'e' }) options
        echoOptions read rest
      else (options, word :: rest)
    | _ => (options, word :: rest)

/-- What is printed for words, piece by piece: single spaces stand between them. -/
def echoPieces (options : EchoOptions) (words : List Bytes) : List Bytes :=
  if options.escapes then
    let (text, ends) := unescape true (characters ((Text.encode " ").intercalate words))
    [ofCharacters text, if options.quiet || ends then [] else [Text.lineFeed]]
  else
    words.intersperse (Text.encode " ") ++ [if options.quiet then [] else [Text.lineFeed]]

/-- Prints its arguments. A variable asks for escapes and for no options, unless the first argument
is the one that suppresses the line feed. -/
def echo : Tool := Work.tool 1 fun activity => do
  let strict := (activity.setting? "POSIXLY_CORRECT").isSome
  let (options, words) :=
    if strict ∧ activity.operands.head? ≠ some (Text.encode "-n") then
      (⟨false, false⟩, activity.operands)
    else echoOptions ⟨false, false⟩ activity.operands
  let options := { options with escapes := options.escapes || strict }
  (echoPieces options words).forM (Work.print activity)
  return 0

/-! ### Printing the environment -/

/-- The value of the first entry with a name. -/
def entryValue? (name : Bytes) (environment : List Bytes) : Option Bytes :=
  if name.contains 61 then none
  else environment.findSome? (name ++ Text.encode "=").isPrefixOf?

/-- The options of `printenv`. -/
def printOptions : OptionTable where
  letters := [('0', .nothing)]
  words := [("null", .nothing, "0"), ("help", .nothing, "help"), ("version", .nothing, "version")]
  ordered := true

/-- Prints the environment, or the values of the entries with the given names; it fails if one of
them is missing. Lines end in a zero if asked for. -/
def printEnvironment : Tool := Work.tool 2 fun activity => do
  let events := optionEvents printOptions activity
  match collectOptions (fun _ _ _ => .ok (0 : UInt8)) Text.lineFeed events with
  | .error (message, _) => Work.refuse activity message 2
  | .ok lineEnd =>
    match operandsOf events with
    | [] =>
      activity.environment.forM fun entry => Work.print activity (entry ++ [lineEnd])
      return 0
    | names =>
      let values := names.map fun name => entryValue? name activity.environment
      (values.filterMap id).forM fun value => Work.print activity (value ++ [lineEnd])
      return if values.all Option.isSome then 0 else 1

end PipelineShell.Tool
