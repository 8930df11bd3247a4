/-
The text of a script while it is being read.

Reading goes through the text character by character and keeps count of the lines. Here-documents
that a line asks for are remembered until the line ends, and short names may stand for other texts,
which are then read in their place. Only some lines of a text are looked at, and reading stops where
more of them are needed.
-/

import PipelineShell.Association
import PipelineShell.Machine.Script

namespace PipelineShell.Script

/-- A token of a script. -/
inductive Token where
  | endOfFile
  | newline
  | semicolon
  | background
  | both
  | either
  | pipe
  | opening
  | closing
  | endCase
  /-- A redirection whose word is still to be read. -/
  | arrow (slot : Nat) (kind : String)
  /-- A word; the flag tells whether any of it was quoted. -/
  | word (word : Word) (quoted : Bool)
  | keyword (text : String)

/-- How a token is called in a message. -/
def Token.label : Token → String
  | .endOfFile => "end of file"
  | .newline => "newline"
  | .semicolon => "\";\""
  | .background => "\"&\""
  | .both => "\"&&\""
  | .either => "\"||\""
  | .pipe => "\"|\""
  | .opening => "\"(\""
  | .closing => "\")\""
  | .endCase => "\";;\""
  | .arrow _ _ => "redirection"
  | .word _ _ => "word"
  | .keyword text => "\"" ++ text ++ "\""

/-- A here-document that a line asks for. -/
structure Request where
  number : Nat
  mark : Characters
  stripsTabs : Bool
  expands : Bool

/-- A short name that stands for another text, while that text is being read: how much of the text
behind it is left when it is over, and whether it ends in a blank. -/
structure Substitution where
  name : Characters
  rest : Nat
  blank : Bool

/-- What is left of a script, and what was found in it so far. -/
structure Source where
  input : Characters
  /-- What follows the input, as far as it is known, and is not looked at yet. -/
  beyond : Characters
  /-- Whether the script goes on behind the input. -/
  continues : Bool
  line : Nat
  /-- A token that was read and put back. -/
  pushed : Option Token
  requests : List Request
  documents : List (Nat × Document)
  nextDocument : Nat
  aliases : List (Characters × Characters)
  substitutions : List Substitution

/-- Some lines at the front of a text, and the rest of it. -/
def splitLines : Nat → Characters → Characters × Characters
  | 0, text => ([], text)
  | _, [] => ([], [])
  | lines + 1, character :: rest =>
    let (front, after) := splitLines (if character = '\n' then lines else lines + 1) rest
    (character :: front, after)

/-- The substitutions whose texts are still being read. -/
def Source.active (source : Source) : List Substitution :=
  let length := source.input.length
  source.substitutions.filter fun substitution => length ≥ substitution.rest

/-- Looks at more lines of what is known. -/
def Source.extend (source : Source) (lines : Nat) : Source :=
  let (front, after) := splitLines lines source.beyond
  { source with
    input := source.input ++ front
    beyond := after
    substitutions := source.active.map fun substitution =>
      { substitution with rest := substitution.rest + front.length } }

/-- Why a script cannot be read. -/
inductive Problem where
  | malformed (line : Nat) (message : String)
  /-- More of it is needed. -/
  | starved

/-- A step of reading. -/
abbrev Reading := StateT Source (Except Problem)

namespace Reading

/-- Gives up. -/
def fail {α : Type} (message : String) : Reading α := do
  throw (.malformed (← get).line message)

/-- The next character. -/
def next : Reading (Option Char) := do
  let source ← get
  match source.input with
  | [] => if source.continues then throw .starved else return none
  | character :: rest =>
    set { source with input := rest }
    return some character

/-- Puts a character back. -/
def putBack (character : Option Char) : Reading Unit :=
  modify fun source => { source with input := character.toList ++ source.input }

/-- Counts a line. -/
def countLine : Reading Unit := modify fun source => { source with line := source.line + 1 }

/-- The text after line ends that a backslash hides, and how many there are. -/
def joinLines : Characters → Characters × Nat
  | '\\' :: '\n' :: rest =>
    let (after, count) := joinLines rest
    (after, count + 1)
  | rest => (rest, 0)

/-- The next character that is not a line end hidden by a backslash. -/
def nextJoined : Reading (Option Char) := do
  let source ← get
  let (input, count) := joinLines source.input
  if source.continues && input = ['\\'] then throw .starved
  set { source with input, line := source.line + count }
  next

/-- Puts a token back. -/
def pushBack (token : Token) : Reading Unit :=
  modify fun source => { source with pushed := some token }

/-- Gives up because of a token, with the token that should have been there. -/
def unexpected {α : Type} (token : Token) (wanted : Option Token) : Reading α :=
  let expecting := match wanted with
    | some wanted => " (expecting " ++ wanted.label ++ ")"
    | none => ""
  fail ("Syntax error: " ++ token.label ++ " unexpected" ++ expecting)

/-- Takes the token that was put back, if there is one. -/
def takePushed : Reading (Option Token) := do
  let source ← get
  set { source with pushed := none }
  return source.pushed

/-- How many steps reading may take in any one of its loops: more than it ever takes. What is left
of a text is no bound, because short names stand for longer texts. -/
def patience : Nat := 0x1000000000000000

end Reading

end PipelineShell.Script
