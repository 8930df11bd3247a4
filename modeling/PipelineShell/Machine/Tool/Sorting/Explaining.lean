/-
What `sort` tells about its keys.

Remarks say in advance what is likely to be unexpected: an order that depends on the locale, blanks
that count, numbers that go on in the next field, options that have no effect. Each line that is
written is followed by marks under the parts of it that are compared.
-/

import PipelineShell.Machine.Tool.Sorting.Options

namespace PipelineShell.Tool

/-! ### Remarks -/

/-- Whether a style compares numbers. -/
def KeyStyle.isNumeric (style : KeyStyle) : Bool := style.numeric || style.general || style.units

/-- The letters of a style. -/
def KeyStyle.allLetters (style : KeyStyle) : String :=
  let chosen := (if style.skipsStartBlanks || style.skipsEndBlanks then ['b'] else []) ++
    style.letters.toList.filter (· ≠ 'V') ++ (if style.reverse then ['r'] else []) ++
    (if style.version then ['V'] else [])
  String.ofList chosen

/-- Whether a key starts where the line does. -/
def SortKey.isWhole (key : SortKey) : Bool := key.startField = 0 && key.startCharacter = 0

/-- Whether a key ends before it starts. -/
def SortKey.isEmpty (key : SortKey) : Bool :=
  !key.isWhole && key.endField.any (· < key.startField)

/-- Whether a key may go on in the next field. -/
def SortKey.spansFields (key : SortKey) : Bool :=
  match key.endField with
  | none => true
  | some field => key.startField < field

/-- The remark about a key that is written the old way. -/
def SortKey.oldRemark (locale : Locale) (key : SortKey) : Bytes :=
  let start := toString key.startField
  let next := toString (key.startField + 1)
  let (oldEnd, newEnd) := match key.endField with
    | none => ("", "")
    | some field => (" -" ++ toString (field + 1), "," ++ toString (field + 1))
  Text.encode "obsolescent key " ++ quotedText locale (Text.encode ("+" ++ start ++ oldEnd)) ++
    Text.encode " used; consider " ++
    quotedText locale (Text.encode ("-k " ++ next ++ newEnd)) ++ Text.encode " instead"

/-- Whether blanks in front of a key count though that is hardly meant. -/
def SortKey.blanksCount (key : SortKey) : Bool :=
  let skipsAnyway := key.style.isNumeric || key.style.month
  let inLine := key.endField = some 0 && key.endCharacter ≠ 0
  !key.isEmpty && !inLine &&
    ((!key.style.skipsStartBlanks && (!skipsAnyway || key.startCharacter ≠ 0)) ||
      (!key.style.skipsEndBlanks && key.endCharacter ≠ 0))

/-- The remarks about a key with a number. `separated` tells whether fields have a separator. -/
def SortKey.remarks (locale : Locale) (separated : Bool) (key : SortKey) (number : Nat) :
    List Bytes :=
  let about (before after : String) : Bytes := Text.encode (before ++ toString number ++ after)
  (if key.old then [key.oldRemark locale] else []) ++
  (if key.isEmpty then [about "key " " has zero width and will be ignored"] else []) ++
  (if !separated && key.blanksCount then
    [about "leading blanks are significant in key " "; consider also specifying 'b'"] else []) ++
  (if key.style.isNumeric && key.spansFields then
    [about "key " " is numeric and spans multiple fields"] else [])

/-- What is left of a style that no key has. -/
def KeyStyle.without (style used : KeyStyle) : KeyStyle where
  skipsStartBlanks := style.skipsStartBlanks && !used.skipsStartBlanks
  skipsEndBlanks := style.skipsEndBlanks && !used.skipsEndBlanks
  dictionary := style.dictionary && !used.dictionary
  printable := style.printable && !used.printable
  folds := style.folds && !used.folds
  general := style.general && !used.general
  units := style.units && !used.units
  month := style.month && !used.month
  numeric := style.numeric && !used.numeric
  random := style.random && !used.random
  version := style.version && !used.version
  reverse := style.reverse && !used.reverse

/-- The mark between the digits of a number before and behind its point. -/
def decimalMark : Char := '.'

/-- The remarks about numbers: a separator that may be part of one, and the point. -/
def numberRemarks (locale : Locale) (separator : Option Char) (keys spanning : List SortKey) :
    List Bytes :=
  let quotedMark (mark : Char) : Bytes := quotedText locale (ofCharacters [mark])
  let treated (mark : Char) (meaning : String) : Bytes :=
    Text.encode "field separator " ++ quotedMark mark ++
      Text.encode (" is treated as a " ++ meaning ++ " in numbers")
  let point := Text.encode "numbers use " ++ quotedMark decimalMark ++
    Text.encode " as a decimal point in this locale"
  let isPoint : Bool := separator = some decimalMark
  let spans := !spanning.isEmpty
  let aboutPoint :=
    if !keys.any fun key => key.style.isNumeric then []
    else if spans && isPoint then []
    else if isPoint then [point]
    else [Text.encode "note " ++ point]
  (if !spans then []
    else if isPoint then [treated decimalMark "decimal point"]
    else if separator = some '-' then [treated '-' "minus sign"]
    else if separator = some '+' && spanning.any (fun key => key.style.general) then
      [treated '+' "plus sign"]
    else []) ++ aboutPoint

/-- The remarks about options that have no effect on any key. -/
def SortOptions.idleRemarks (options : SortOptions) (keys : List SortKey) : List Bytes :=
  let left := keys.foldl (fun style key => style.without key.style) options.style
  let exact := options.stable || options.unique
  let ignored := { left with reverse := left.reverse && exact }
  let letters := ignored.allLetters
  (if !left.isDefault || (left.reverse && exact && !keys.isEmpty) then
    [Text.encode (if letters.length = 1 then "option '-" ++ letters ++ "' is ignored"
      else "options '-" ++ letters ++ "' are ignored")]
    else []) ++
  (if left.reverse && !exact && !keys.isEmpty then
    [Text.encode "option '-r' only applies to last-resort comparison"] else [])

/-- Whether every locale that a process asks for is there. -/
def knowsLocales (activity : Activity) : Bool :=
  (readingPurpose :: otherPurposes).all fun purpose => (localeFor? activity purpose).isSome

/-- The name of the locale that a process asks for, to put texts in order. -/
def orderName (activity : Activity) : Bytes :=
  let names := ["LC_ALL", "LC_COLLATE", "LANG"].filterMap activity.setting?
  (names.find? (· ≠ [])).getD []

/-- Whether texts are put in order by other rules than those for bytes. -/
def isOrdered (activity : Activity) : Bool :=
  let name := orderName activity
  knowsLocales activity && name ≠ [] && name ≠ Text.encode "C" && name ≠ Text.encode "POSIX"

/-- The remark about the order of characters. -/
def orderRemarks (activity : Activity) : List Bytes :=
  (if knowsLocales activity then [] else [Text.encode "failed to set locale"]) ++
    [if isOrdered activity then
      Text.encode "text ordering performed using " ++
        quotedText (localeOf activity) (orderName activity) ++ Text.encode " sorting rules"
    else Text.encode "text ordering performed using simple byte comparison"]

/-- All remarks. A style that all lines are compared by is no key that anybody wrote. -/
def SortOptions.remarks (activity : Activity) (options : SortOptions) : List Bytes :=
  let locale := localeOf activity
  let keys := options.completed.keys
  let written := if options.keys.isEmpty then [] else keys
  let numbered := written.zip (List.range written.length)
  orderRemarks activity ++
    (numbered.flatMap fun (key, index) =>
      key.remarks locale options.separator.isSome (index + 1)) ++
    numberRemarks locale options.separator keys
      (written.filter fun key => key.style.isNumeric && key.spansFields) ++
    options.idleRemarks keys

/-! ### Marks -/

/-- The number that a text starts with, as it stands there, perhaps with a unit. -/
def leadingDigits (units : Bool) (text : List Char) : List Char :=
  let sign := if text.head? = some '-' then 1 else 0
  let (whole, fraction, rest) := readDigits Char.isDigit (text.drop sign)
  let unit := if units && rest.head?.any (fun letter =>
    letter ≠ 'm' && (unitPower? letter).isSome) then 1 else 0
  if whole = [] ∧ fraction = [] then [] else text.take (text.length - rest.length + unit)

/-- What a style looks at of a text without blanks in front. -/
def KeyStyle.lookedAt (style : KeyStyle) (text : List Char) : List Char :=
  if style.month then if monthNumber text = 0 then [] else text.take 3
  else if style.general then
    match Numeral.leading? text with
    | none => []
    | some number => text.take (text.length - number.rest.length)
  else if style.numeric || style.units then leadingDigits style.units text
  else text

/-- What stands in a line before the part that a key looks at, and that part. -/
def SortKey.marked (key : SortKey) (separator : Option Char) (line : List Char) :
    List Char × List Char :=
  let start := if key.isWhole then line else key.fromStart separator line
  let after := key.fromEnd separator line
  let part := start.take (start.length - after.length)
  let before := line.take (line.length - start.length)
  if (key.style.skipsStartBlanks && key.isWhole) || key.style.month || key.style.isNumeric then
    let blanks := (if start.length < after.length then start else part).takeWhile isFieldBlank
    (before ++ blanks, key.style.lookedAt (part.drop blanks.length))
  else (before, part)

/-- How many columns a glyph takes. A tab takes one, and other control characters take none. -/
def Glyph.columns (glyph : Glyph) : Nat :=
  match glyph.code? with
  | none => 1
  | some code =>
    if isPrintableCode code then placesOf code
    else if code = 9 then 1
    else if code < 32 || (127 ≤ code && code < 160) then 0
    else 1

/-- How many columns a text takes. -/
def columns (locale : Locale) (text : List Char) : Nat :=
  (glyphs locale (ofCharacters text)).foldl (fun total glyph => total + glyph.columns) 0

/-- A mark under a part of a line. -/
def markLine (offset width : Nat) : Bytes :=
  List.replicate offset 32 ++
    (if width = 0 then Text.encode "^ no match for key" else List.replicate width 95) ++
    [Text.lineFeed]

/-- A line with its marks. Tabs are made visible. -/
def SortOptions.explained (options : SortOptions) (locale : Locale) (line : Bytes) : Bytes :=
  let text := characters line
  let shown := line.map fun byte => if byte = 9 then 62 else byte
  let marks := options.keys.flatMap fun key =>
    let (before, part) := key.marked options.separator text
    markLine (columns locale before) (columns locale part)
  let last :=
    if options.keys.isEmpty || !(options.unique || options.stable) then
      markLine 0 (columns locale text)
    else []
  shown ++ [Text.lineFeed] ++ marks ++ last

end PipelineShell.Tool
