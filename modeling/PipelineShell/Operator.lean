/-
The four operators of a command line.

A vertical bar joins two commands, the two angle brackets redirect, and an ampersand asks for the
background. An operator is a word of one character: a word that merely contains the character is an
ordinary word.
-/

namespace PipelineShell

/-- Which standard stream a redirection replaces. -/
inductive Direction where
  | input
  | output
  deriving DecidableEq, Repr

/-- What an operator asks for. -/
inductive Operator where
  | pipe
  | redirect (direction : Direction)
  | background
  deriving DecidableEq, Repr

/-- The redirection sign of a direction. -/
def Direction.sign : Direction → Char
  | .input => '<'
  | .output => '>'

namespace Operator

/-- The character that writes an operator. -/
def sign : Operator → Char
  | pipe => '|'
  | redirect direction => direction.sign
  | background => '&'

/-- An operator as a word. -/
def text (operator : Operator) : String := String.ofList [operator.sign]

/-- The operator that a character writes. -/
def ofSign? : Char → Option Operator
  | '|' => some pipe
  | '<' => some (redirect .input)
  | '>' => some (redirect .output)
  | '&' => some background
  | _ => none

/-- The operator that a word is: the word has to be its sign and nothing else. -/
def ofWord? (word : String) : Option Operator :=
  match word.toList with
  | [sign] => ofSign? sign
  | _ => none

@[simp] theorem ofSign?_sign (operator : Operator) : ofSign? operator.sign = some operator := by
  rcases operator with _ | direction | _
  · rfl
  · cases direction <;> rfl
  · rfl

theorem ofSign?_eq_some_iff {sign : Char} {operator : Operator} :
    ofSign? sign = some operator ↔ sign = operator.sign := by
  constructor
  · intro written
    unfold ofSign? at written
    split at written <;> cases written <;> rfl
  · rintro rfl
    exact ofSign?_sign operator

@[simp] theorem ofWord?_text (operator : Operator) : ofWord? operator.text = some operator := by
  simp [ofWord?, text]

/-- A word is an operator exactly when it is that operator's text. -/
theorem ofWord?_eq_some_iff {word : String} {operator : Operator} :
    ofWord? word = some operator ↔ word = operator.text := by
  constructor
  · intro found
    unfold ofWord? at found
    split at found
    · rename_i sign single
      rw [ofSign?_eq_some_iff] at found
      rw [text, ← found, ← single, String.ofList_toList]
    · cases found
  · rintro rfl
    exact ofWord?_text operator

end Operator

/-- Whether a word is one of the four operators. -/
def isOperator (word : String) : Bool := (Operator.ofWord? word).isSome

/-- Whether a character is the sign of an operator. -/
def isOperatorSign (character : Char) : Bool := (Operator.ofSign? character).isSome

end PipelineShell
