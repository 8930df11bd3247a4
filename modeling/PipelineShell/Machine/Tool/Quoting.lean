/-
Names in messages.

A name stands in a message as it is, unless it holds something that a reader could take for part of
the message or a shell for something else. Then it stands between quotes, in a form that a shell
reads as the same name; what cannot be printed is written as an escape. Other texts always stand
between quotes, with escapes for what cannot be printed.
-/

import PipelineShell.Machine.Tool.Locale

namespace PipelineShell.Tool

/-- The quote that surrounds names. -/
def singleQuote : Char := Char.ofNat 39

/-- The quote that surrounds a name with an apostrophe. -/
def doubleQuote : Char := Char.ofNat 34

/-- The character that a glyph is, if it is one of the first 128. -/
def Glyph.letter? (glyph : Glyph) : Option Char :=
  match glyph.code? with
  | some code => if code < 128 then some (Char.ofNat code) else none
  | none => none

/-- Whether a character is one of the first 128 and can be printed. -/
def isPlain (character : Char) : Bool := 32 ≤ character.toNat && character.toNat < 127

/-- The letter that stands for a control character in an escape. -/
def escapeLetter? (byte : UInt8) : Option Char :=
  match byte.toNat with
  | 7 => some 'a'
  | 8 => some 'b'
  | 9 => some 't'
  | 10 => some 'n'
  | 11 => some 'v'
  | 12 => some 'f'
  | 13 => some 'r'
  | _ => none

/-- A byte as three octal digits. -/
def octalDigitsOf (byte : UInt8) : List Char :=
  [byte.toNat / 64, byte.toNat / 8 % 8, byte.toNat % 8].map fun digit => Char.ofNat (48 + digit)

/-- The escape of a byte that cannot be printed. -/
def escapeOf (byte : UInt8) : Bytes :=
  ofCharacters (match escapeLetter? byte with
    | some letter => ['\\', letter]
    | none => '\\' :: octalDigitsOf byte)

/-- Characters that need quotes wherever they stand. -/
def specialCharacters : List Char :=
  "? \\!\"$&()*;<=>[^|".toList ++ [singleQuote, Char.ofNat 96]

/-- Whether a name needs quotes. An empty one does, and so does one with a special character. -/
def needsQuotes (name : List Glyph) : Bool :=
  match name.map Glyph.letter? with
  | [] => true
  | [some '\x7b'] => true
  | [some '\x7d'] => true
  | first :: _ =>
    first = some '#' || first = some '~' ||
      name.any fun glyph => !glyph.isPrintable ||
        glyph.letter?.any fun letter => specialCharacters.contains letter || letter = ':'

/-- Whether a glyph means the same between both kinds of quotes. -/
def isUniform (glyph : Glyph) : Bool :=
  match glyph.letter? with
  | some letter =>
    letter.isAlphanum || "%+,-./:]_@ ".toList.contains letter || letter = singleQuote
  | none => glyph.isPrintable

/-- Whether a name can stand between double quotes. -/
def fitsDoubleQuotes (name : List Glyph) : Bool :=
  (name.any fun glyph => glyph.letter? = some singleQuote) &&
    match name with
    | [] => false
    | first :: rest =>
      (isUniform first || first.letter? = some '#' || first.letter? = some '~') &&
        rest.all isUniform

/-- A name between single quotes. An apostrophe and escapes stand outside of them; the flag tells
whether an escape is open. -/
def betweenSingleQuotes (escaping : Bool) : List Glyph → Bytes
  | [] => []
  | glyph :: rest =>
    if glyph.letter? = some singleQuote then
      ofCharacters [singleQuote, '\\', singleQuote, singleQuote] ++ betweenSingleQuotes false rest
    else if glyph.isPrintable then
      (if escaping then ofCharacters [singleQuote, singleQuote] else []) ++
        glyph.bytes ++ betweenSingleQuotes false rest
    else
      (if escaping then [] else ofCharacters [singleQuote, '$', singleQuote]) ++
        glyph.bytes.flatMap escapeOf ++ betweenSingleQuotes true rest

/-- A name between quotes. -/
def quotedName (locale : Locale) (name : Bytes) : Bytes :=
  let text := glyphs locale name
  if fitsDoubleQuotes text then ofCharacters [doubleQuote] ++ name ++ ofCharacters [doubleQuote]
  else
    ofCharacters [singleQuote] ++ betweenSingleQuotes false text ++ ofCharacters [singleQuote]

/-- A name as messages show it. -/
def shown (locale : Locale) (name : Bytes) : Bytes :=
  if needsQuotes (glyphs locale name) then quotedName locale name else name

/-- The quotes around other texts. -/
def Locale.quotes : Locale → Bytes × Bytes
  | .bytes => (ofCharacters [singleQuote], ofCharacters [singleQuote])
  | .unicode => (Text.encode "‘", Text.encode "’")

/-- A text as messages quote it. -/
def quotedText (locale : Locale) (text : Bytes) : Bytes :=
  let (first, last) := locale.quotes
  let inside := (glyphs locale text).flatMap fun glyph =>
    if glyph.bytes = last || glyph.letter? = some '\\' then ofCharacters ['\\'] ++ glyph.bytes
    else if glyph.isPrintable then glyph.bytes
    else glyph.bytes.flatMap escapeOf
  first ++ inside ++ last

/-- A message about a file. -/
def aboutFile (activity : Activity) (file : Bytes) (problem : String) : Bytes :=
  shown (localeOf activity) file ++ Text.encode (": " ++ problem)

end PipelineShell.Tool
