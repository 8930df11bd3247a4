/-
Quoted text, as the journal shows it.

The journal shows a list of words in brackets, each word in double quotes. A quote, a backslash and
all characters that would not be seen are escaped, so that an entry stays on one line and shows
where each word ends and what it consists of.
-/

import PipelineShell.Text.Classes

namespace PipelineShell.Text

/-- The hexadecimal digits of a number, without leading zeros. -/
def hexadecimal (number : Nat) : String := String.ofList (Nat.toDigits 16 number)

/-- Whether a character would not be seen between quotes, or not as a character of its own. -/
def isHidden (character : Char) : Bool :=
  if character.toNat < 0x7F then character.toNat < 0x20 else inClass hiddenBounds character.toNat

/-- A character as it stands between quotes: the usual short escapes, a numbered escape for the
others that would not be seen, and every other character as it is. -/
def quotedCharacter (character : Char) : String :=
  match character with
  | '"' => "\\\""
  | '\\' => "\\\\"
  | '\n' => "\\n"
  | '\r' => "\\r"
  | '\t' => "\\t"
  | '\x00' => "\\0"
  | other =>
    if isHidden other then "\\u\x7b" ++ hexadecimal other.toNat ++ "\x7d" else other.toString

/-- A text between double quotes. -/
def quoted (text : String) : String := "\"" ++ String.join (text.toList.map quotedCharacter) ++ "\""

/-- A list of texts, each quoted, between brackets. -/
def quotedList (texts : List String) : String :=
  "[" ++ String.intercalate ", " (texts.map quoted) ++ "]"

end PipelineShell.Text
