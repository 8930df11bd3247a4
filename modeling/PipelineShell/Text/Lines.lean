/-
Lines.

Input and settings are read a line at a time. Both start from the same cut, after each line feed,
so nothing is lost (`flatten_cutAfter`). What is dropped from the end of a line differs: a line
typed at the shell loses its whole trailing run of carriage returns and line feeds, a line of the
settings loses its line feed and at most one carriage return before it.
-/

import PipelineShell.Text.Bytes

namespace PipelineShell.Text

/-- Puts an item in front of pieces: into the first one, unless the item is a mark. -/
def addToPieces {α : Type} [DecidableEq α] (mark item : α) : List (List α) → List (List α)
  | [] => [[item]]
  | piece :: others =>
    if item = mark then [item] :: piece :: others else (item :: piece) :: others

/-- Cuts a list after each occurrence of `mark`; the last piece may lack its mark. -/
def cutAfter {α : Type} [DecidableEq α] (mark : α) (items : List α) : List (List α) :=
  items.foldr (addToPieces mark) []

@[simp] theorem cutAfter_nil {α : Type} [DecidableEq α] (mark : α) : cutAfter mark [] = [] := rfl

@[simp] theorem cutAfter_cons {α : Type} [DecidableEq α] (mark item : α) (rest : List α) :
    cutAfter mark (item :: rest) = addToPieces mark item (cutAfter mark rest) := rfl

@[simp] theorem flatten_addToPieces {α : Type} [DecidableEq α] (mark item : α)
    (pieces : List (List α)) : (addToPieces mark item pieces).flatten = item :: pieces.flatten := by
  cases pieces with
  | nil => rfl
  | cons piece others =>
    simp only [addToPieces]
    split <;> simp

/-- The pieces, put together again, are the list. -/
theorem flatten_cutAfter {α : Type} [DecidableEq α] (mark : α) (items : List α) :
    (cutAfter mark items).flatten = items := by
  induction items with
  | nil => rfl
  | cons item rest inductionHypothesis => simp [inductionHypothesis]

/-- The line feed byte. -/
def lineFeed : UInt8 := 10

/-- The characters that may end a line at the shell. -/
def isLineEnd (character : Char) : Bool := character = '\n' || character = '\r'

/-- Drops the whole trailing run of carriage returns and line feeds. -/
def dropLineEnds (text : String) : String :=
  String.ofList (text.toList.reverse.dropWhile isLineEnd).reverse

/-- A line typed at the shell, without its end. It is `none` if it is not valid UTF-8. -/
def inputLine (segment : Bytes) : Option String := (decode? segment).map dropLineEnds

/-- The lines typed at the shell: one for each line feed and one for a tail without it. The lines
after one that is not valid UTF-8 are read as if it were good. -/
def inputLines (input : Bytes) : List (Option String) := (cutAfter lineFeed input).map inputLine

/-- Drops a final line feed and, if there was one, one carriage return before it. -/
def dropTerminator (line : List Char) : List Char :=
  match line.reverse with
  | '\n' :: '\r' :: rest => rest.reverse
  | '\n' :: rest => rest.reverse
  | _ => line

/-- The lines of a text: cut after each line feed, each without its terminator. A carriage return
at the very end of the text is not part of a terminator and stays. -/
def textLines (text : String) : List String :=
  (cutAfter '\n' text.toList).map fun line => String.ofList (dropTerminator line)

end PipelineShell.Text
