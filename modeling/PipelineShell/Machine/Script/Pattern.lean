/-
Patterns.

A star stands for any text, a question mark for any character, and a bracket for one of the
characters in it. A backslash takes the meaning from the character after it. A bracket that is not
closed stands for itself.
-/

import PipelineShell.Machine.Script

namespace PipelineShell.Script.Pattern

/-! ### Brackets -/

/-- The classes that may stand in a bracket, each with the text that ends it. -/
def classes : List (String × (Char → Bool)) :=
  [(":alnum:]", Char.isAlphanum),
    (":cntrl:]", fun character => character.toNat < 32 || character.toNat = 127),
    (":lower:]", Char.isLower),
    (":space:]", fun character =>
      character = ' ' || (9 ≤ character.toNat && character.toNat ≤ 13)),
    (":alpha:]", Char.isAlpha),
    (":digit:]", Char.isDigit),
    (":print:]", fun character => 32 ≤ character.toNat && character.toNat < 127),
    (":upper:]", Char.isUpper),
    (":blank:]", isBlank),
    (":graph:]", isVisible),
    (":punct:]", fun character => isVisible character && !character.isAlphanum),
    (":xdigit:]", fun character => character.isDigit ||
      ('a' ≤ character && character ≤ 'f') || ('A' ≤ character && character ≤ 'F'))]
where
  /-- Whether a character can be seen. -/
  isVisible (character : Char) : Bool := 32 < character.toNat && character.toNat < 127

/-- Whether a character is in the class that a text starts with, and what follows the class. -/
def class? (target : Char) (text : Characters) : Option (Bool × Characters) :=
  classes.findSome? fun (name, member) =>
    (name.toList.isPrefixOf? text).map fun rest => (member target, rest)

/-- A character of a bracket, without the backslash in front of it, and what follows. -/
def unescaped : Char → Characters → Option (Char × Characters)
  | '\\', [] => none
  | '\\', character :: rest => some (character, rest)
  | character, rest => some (character, rest)

/-- Looks for a character among the members of a bracket, and gives what follows the bracket.
Nothing if the bracket is not closed. The number bounds how many members there may be. -/
def members (target : Char) : Nat → (first found : Bool) → Characters → Option (Bool × Characters)
  | 0, _, _, _ => none
  | _ + 1, _, _, [] => none
  | steps + 1, first, found, character :: rest =>
    if character = ']' ∧ ¬first then some (found, rest)
    else
      match if character = '[' then class? target rest else none with
      | some (member, rest) => members target steps false (found || member) rest
      | none =>
        match unescaped character rest with
        | none => none
        | some (low, rest) =>
          match rest with
          | '-' :: bound :: after =>
            if bound = ']' then members target steps false (found || target = low) rest
            else
              match unescaped bound after with
              | none => none
              | some (high, after) =>
                members target steps false (found || (low ≤ target && target ≤ high)) after
          | _ => members target steps false (found || target = low) rest

/-- Whether a bracket accepts a character, and what follows the bracket. -/
def bracket? (target : Char) : Characters → Option (Bool × Characters)
  | '!' :: rest =>
    (members target (rest.length + 1) true false rest).map fun (found, after) => (!found, after)
  | rest => members target (rest.length + 1) true false rest

/-! ### Whole patterns -/

/-- Whether a pattern accepts a text. -/
def accepts : Characters → Characters → Bool
  | [], text => text.isEmpty
  | '*' :: rest, [] => accepts rest []
  | '*' :: rest, character :: text =>
    accepts rest (character :: text) || accepts ('*' :: rest) text
  | _ :: _, [] => false
  | '?' :: rest, _ :: text => accepts rest text
  | '\\' :: wanted :: rest, character :: text => wanted = character && accepts rest text
  | '[' :: rest, character :: text =>
    match bracket? character rest with
    | some (found, after) => found && accepts after text
    | none => character = '[' && accepts rest text
  | wanted :: rest, character :: text => wanted = character && accepts rest text
termination_by pattern text => (text.length, pattern.length)

/-! ### Cutting -/

/-- Cuts the part that a pattern accepts from a text whose elements stand for characters. -/
def cut {α : Type} (character : α → Char) (treatment : Treatment) (pattern : Characters)
    (elements : List α) : List α :=
  let positions := List.range (elements.length + 1)
  let fromStart (position : Nat) : Bool :=
    accepts pattern ((elements.take position).map character)
  let fromEnd (position : Nat) : Bool :=
    accepts pattern ((elements.drop position).map character)
  match treatment with
  | .trimStart false => ((positions.find? fromStart).map elements.drop).getD elements
  | .trimStart true => ((positions.reverse.find? fromStart).map elements.drop).getD elements
  | .trimEnd false => ((positions.reverse.find? fromEnd).map elements.take).getD elements
  | .trimEnd true => ((positions.find? fromEnd).map elements.take).getD elements
  | _ => elements

end PipelineShell.Script.Pattern
