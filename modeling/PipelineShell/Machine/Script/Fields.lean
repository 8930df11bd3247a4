/-
Fields of an expanded word.

An expanded word consists of segments. Text that was written in the script stays as it is; what
comes from a reference is split at separators. White separators that follow each other count as
one, and a quote leaves a mark, so that a field that was quoted is there even if it is empty.
-/

import PipelineShell.Machine.Script.Pattern

namespace PipelineShell.Script

/-- An element of an expanded word. -/
inductive Element where
  /-- A character; an escaped one has no meaning in patterns. -/
  | character (character : Char) (escaped : Bool)
  /-- Where a quote was. -/
  | mark
  deriving DecidableEq, Repr

/-- What splitting does with a segment. -/
inductive SegmentKind where
  /-- It is left alone. -/
  | fixed
  /-- It is split, together with a segment of this kind beside it. -/
  | written
  /-- It is split. -/
  | splits
  /-- It is split between parameters only. -/
  | parts
  deriving DecidableEq, Repr

/-- A stretch of an expanded word. -/
structure Segment where
  kind : SegmentKind
  elements : List Element
  deriving DecidableEq, Repr

/-- The character between parameters. -/
def border : Char := Char.ofNat 0

/-- The characters of elements, without marks. -/
def textOf : List Element → Characters
  | [] => []
  | .character character _ :: rest => character :: textOf rest
  | .mark :: rest => textOf rest

/-- The characters of a whole word. -/
def Segment.wholeText (segments : List Segment) : Characters :=
  textOf (segments.flatMap Segment.elements)

/-- Puts a segment in front of others. Written text that meets written text becomes one segment. -/
def Segment.join (first : Segment) : List Segment → List Segment
  | [] => [first]
  | second :: rest =>
    if first.kind = .written ∧ second.kind = .written then
      ⟨.written, first.elements ++ second.elements⟩ :: rest
    else first :: second :: rest

/-- Elements as a pattern: escaped characters get a backslash, unless one is in front of them. -/
def patternOf (elements : List Element) : Characters :=
  go true elements
where
  /-- Goes on; `bare` tells that no backslash is in front. -/
  go (bare : Bool) : List Element → Characters
    | [] => []
    | .mark :: rest => go true rest
    | .character '\\' false :: rest => '\\' :: go false rest
    | .character character true :: rest =>
      if bare then '\\' :: character :: go true rest else character :: go true rest
    | .character character false :: rest => character :: go true rest

/-! ### Splitting -/

/-- The state of splitting. Fields and elements are kept in reverse. -/
structure Splitting where
  fields : List (List Element)
  current : List Element
  /-- Whether a white separator was just met. -/
  white : Bool
  /-- How many fields may still be started, if there is a bound. -/
  left : Option Nat
  /-- How much of the last field stays if nothing but separators follows. -/
  keep : Option Nat
  /-- Whether the last segment was split between parameters. -/
  parts : Bool

namespace Splitting

/-- Takes an element of the last field, of which white separators at the end are dropped. -/
def stepLast (splitting : Splitting) (isSeparator isWhite : Bool) (element : Element) :
    Splitting :=
  let taken := { splitting with current := element :: splitting.current }
  if isWhite then
    { taken with keep := splitting.keep <|> some splitting.current.length }
  else
    { taken with
      keep := if isSeparator && splitting.white then splitting.keep else none
      white := false }

/-- Ends a field at a separator. -/
def stepSeparator (splitting : Splitting) (white : Bool) (element : Element) : Splitting :=
  if splitting.current.isEmpty && white then { splitting with white := false }
  else if splitting.left = some 1 then
    { splitting with
      left := some 0, keep := some splitting.current.length, white
      current := element :: splitting.current }
  else
    { splitting with
      fields := splitting.current.reverse :: splitting.fields, current := [], white
      left := splitting.left.map (· - 1) }

/-- Takes an element of a segment that is split. `plain` tells that white separators count as
such. -/
def step (separators : Characters) (plain : Bool) (splitting : Splitting) (element : Element) :
    Splitting :=
  let (isSeparator, isWhite) := match element with
    | .mark => (false, false)
    | .character character _ =>
      let isSeparator := character = border || separators.contains character
      (isSeparator, isSeparator &&
        (character = border || " \t\n".toList.contains character))
  if splitting.left = some 0 then splitting.stepLast isSeparator isWhite element
  else if splitting.white then
    if isWhite then splitting
    else if isSeparator then { splitting with white := false }
    else { splitting with white := false, current := element :: splitting.current }
  else if isSeparator then splitting.stepSeparator (plain && isWhite) element
  else { splitting with current := element :: splitting.current }

/-- Takes a segment. -/
def takeSegment (separators : Characters) (splitting : Splitting) (segment : Segment) :
    Splitting :=
  match segment.kind with
  | .fixed => { splitting with current := segment.elements.reverse ++ splitting.current }
  | .parts =>
    let taken := segment.elements.foldl (step [] false) { splitting with white := false }
    { taken with parts := true }
  | _ =>
    let taken := segment.elements.foldl (step separators (!splitting.parts))
      { splitting with white := false }
    { taken with parts := false }

/-- The fields that were found. The last one counts if there is anything in it. -/
def finish (splitting : Splitting) : List (List Element) :=
  let last := splitting.current.reverse
  if splitting.parts then (last :: splitting.fields).reverse
  else
    let last := match splitting.keep with
      | some count => last.take count
      | none => last
    (if last.isEmpty then splitting.fields else last :: splitting.fields).reverse

end Splitting

/-- The fields of an expanded word, at most as many as are wanted. -/
def splitFields (separators : Characters) (wanted : Option Nat) (segments : List Segment) :
    List (List Element) :=
  (segments.foldl (Splitting.takeSegment separators)
    ⟨[], [], false, wanted, none, false⟩).finish

end PipelineShell.Script
