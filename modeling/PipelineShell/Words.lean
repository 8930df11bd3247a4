/-
Cutting a line into words.

A line is cut at blank characters, which belong to no word, and around each operator sign, which is
a word of its own. The scan carries the characters of the word it is in, latest first, and flushes
them at each separator; so a word is never empty and holds neither blanks nor operator signs.
-/

import PipelineShell.Operator
import PipelineShell.Text.Blank

namespace PipelineShell.Words

/-- The word whose characters were carried, latest first; there is none if nothing was carried. -/
def flush (carried : List Char) : List (List Char) :=
  if carried.isEmpty then [] else [carried.reverse]

/-- The words of the rest of a line, when the characters `carried` of a word precede it. -/
def scan (carried : List Char) : List Char → List (List Char)
  | [] => flush carried
  | character :: rest =>
    if Text.isBlank character then flush carried ++ scan [] rest
    else if isOperatorSign character then flush carried ++ [character] :: scan [] rest
    else scan (character :: carried) rest

/-- The words of a line, operators included, in order. -/
def ofLine (line : String) : List String := (scan [] line.toList).map String.ofList

/-- A blank ends the word being carried, so the words before and after it are independent. -/
theorem scan_append_blank {blank : Char} (isBlank : Text.isBlank blank)
    (carried before after : List Char) :
    scan carried (before ++ blank :: after) = scan carried before ++ scan [] after := by
  induction before generalizing carried with
  | nil => simp [scan, isBlank]
  | cons character before inductionHypothesis =>
    simp only [List.cons_append, scan]
    split
    · simp [inductionHypothesis]
    · split
      · simp [inductionHypothesis]
      · exact inductionHypothesis _

/-- An operator sign is a word of its own between what precedes and what follows it. -/
theorem scan_append_sign {sign : Char} (notBlank : Text.isBlank sign = false)
    (isSign : isOperatorSign sign) (carried before after : List Char) :
    scan carried (before ++ sign :: after) = scan carried before ++ [sign] :: scan [] after := by
  induction before generalizing carried with
  | nil => simp [scan, notBlank, isSign]
  | cons character before inductionHypothesis =>
    simp only [List.cons_append, scan]
    split
    · simp [inductionHypothesis]
    · split
      · simp [inductionHypothesis]
      · exact inductionHypothesis _

end PipelineShell.Words
