/-
Scripts: the language that the machine's `sh` runs.

A script is read into statements, and the words of a statement into pieces. Text is kept as
characters that stand for single bytes, so that a script may hold any bytes. The text of a
here-document is read after the line that asks for it; the statement only holds its number.
-/

namespace PipelineShell.Script

/-- A text of a script. -/
abbrev Characters := List Char

/-- What a reference does with the value of its parameter. -/
inductive Treatment where
  | value
  | length
  /-- Something else in place of a value that is missing or, with a colon, empty. -/
  | fallback (colon : Bool)
  /-- Something else that is assigned as well. -/
  | assign (colon : Bool)
  /-- Something else in place of a value that is there. -/
  | alternative (colon : Bool)
  /-- A complaint about a value that is missing. -/
  | demand (colon : Bool)
  | trimStart (longest : Bool)
  | trimEnd (longest : Bool)
  /-- Nothing that has a meaning. -/
  | bad
  deriving DecidableEq, Repr

/-- What a redirection does. -/
inductive RedirectKind where
  | read
  | write
  | clobber
  | append
  | readWrite
  deriving DecidableEq, Repr

mutual

/-- A part of a word. -/
inductive Piece where
  /-- A character; an escaped one has no special meaning. -/
  | character (character : Char) (escaped : Bool)
  /-- A quote: the start or the end of a quoted part. -/
  | quote
  | parameter (name : Characters) (treatment : Treatment) (word : List Piece)
  | arithmetic (expression : List Piece)
  /-- The output of a statement. -/
  | output (script : Option Statement)

/-- A redirection of a slot. -/
inductive Redirect where
  | file (slot : Nat) (kind : RedirectKind) (name : List Piece)
  /-- Makes a slot what another slot is, or closes it. -/
  | copy (slot : Nat) (source : Option Nat)
  /-- The same with a word that names the other slot. -/
  | copyNamed (slot : Nat) (source : List Piece)
  | document (slot : Nat) (number : Nat)

/-- A statement. -/
inductive Statement where
  | simple (line : Nat) (assignments words : List (List Piece)) (redirects : List Redirect)
  | pipe (commands : List Statement) (background : Bool)
  | redirected (line : Nat) (body : Statement) (redirects : List Redirect)
  | background (line : Nat) (body : Statement) (redirects : List Redirect)
  | subshell (line : Nat) (body : Statement) (redirects : List Redirect)
  | both (first second : Statement)
  | either (first second : Statement)
  | sequence (first second : Statement)
  | negate (body : Statement)
  | branch (condition accepted : Statement) (rejected : Option Statement)
  /-- Runs the body for as long as the condition succeeds, or fails, as is wanted. -/
  | loop (wanted : Bool) (condition body : Statement)
  | forEach (line : Nat) (name : Characters) (words : List (List Piece)) (body : Statement)
  | choose (line : Nat) (subject : List Piece)
      (cases : List (List (List Piece) × Option Statement))
  | define (line : Nat) (name : Characters) (body : Statement)

end

/-- A word before expansion. -/
abbrev Word := List Piece

/-- A here-document: what it says, and whether references in it count. -/
structure Document where
  text : Word
  expands : Bool

/-- A blank within a line. -/
def isBlank (character : Char) : Bool := character = ' ' || character = '\t'

/-- Whether a name may start with a character. -/
def isNameStart (character : Char) : Bool := character.isAlpha || character = '_'

/-- Whether a name may go on with a character. -/
def isNameRest (character : Char) : Bool := character.isAlphanum || character = '_'

/-- Whether a text is a name. -/
def isName : Characters → Bool
  | [] => false
  | first :: rest => isNameStart first && rest.all isNameRest

/-- Whether a character is a parameter by itself. -/
def isSpecial (character : Char) : Bool :=
  character.isDigit || "#@*?$!-".toList.contains character

/-- The mark that quotes everything up to the next one. -/
def strongQuote : Char := Char.ofNat 39

/-- The mark that quotes everything but references. -/
def weakQuote : Char := Char.ofNat 34

/-- The mark on both sides of a script that stands for its output. -/
def outputQuote : Char := Char.ofNat 96

/-- The name at the front of a word and the pieces after the equals sign behind it, if the word is
an assignment. -/
def assignment? (word : Word) : Option (Characters × Word) :=
  go [] word
where
  /-- Goes on after the characters of the name that were read. -/
  go (name : Characters) : Word → Option (Characters × Word)
    | .character '=' false :: rest => if isName name then some (name, rest) else none
    | .character character false :: rest =>
      if isNameRest character then go (name ++ [character]) rest else none
    | _ => none

/-- The text of a word that consists of nothing but unescaped characters. -/
def plainText? : Word → Option Characters
  | [] => some []
  | .character character false :: rest => (plainText? rest).map (character :: ·)
  | _ => none

/-- The text of a word as it was written, without quotes; references are left out. -/
def writtenText : Word → Characters
  | [] => []
  | .character character _ :: rest => character :: writtenText rest
  | _ :: rest => writtenText rest

end PipelineShell.Script
