/-
How a tool reads bytes as characters.

A tool looks at its environment to find out whether bytes stand for themselves or make up the
characters of a text in UTF-8. Several entries may ask for one or the other, each for some purpose,
and a request that cannot be met makes all of them void. Bytes are read as glyphs: a glyph is a
character that is correctly encoded, or a single byte that is not part of one.
-/

import PipelineShell.Machine.Tool
import PipelineShell.Machine.Tool.Classes

namespace PipelineShell.Tool

/-- What bytes stand for. -/
inductive Locale where
  | bytes
  | unicode
  deriving DecidableEq, Repr

/-- The locale that a name stands for, if there is one. -/
def Locale.ofName? (name : Bytes) : Option Locale :=
  let plain := (characters name).takeWhile (· ≠ '@')
  let language := plain.takeWhile (· ≠ '.')
  let encoding := String.ofList ((plain.drop (language.length + 1)).map Char.toLower)
  if name = Text.encode "C" || name = Text.encode "POSIX" then some .bytes
  else if language.takeWhile (· ≠ '_') = ['C'] && (encoding = "utf-8" || encoding = "utf8") then
    some .unicode
  else none

/-- The purpose for which bytes are read as characters. -/
def readingPurpose : String := "LC_CTYPE"

/-- The other purposes for which a locale can be asked for. -/
def otherPurposes : List String :=
  ["LC_NUMERIC", "LC_TIME", "LC_COLLATE", "LC_MONETARY", "LC_MESSAGES", "LC_PAPER", "LC_NAME",
    "LC_ADDRESS", "LC_TELEPHONE", "LC_MEASUREMENT", "LC_IDENTIFICATION"]

/-- The locale that is asked for, for a purpose. -/
def localeFor? (activity : Activity) (purpose : String) : Option Locale :=
  let values := ["LC_ALL", purpose, "LANG"].filterMap activity.setting?
  match values.find? (· ≠ []) with
  | none => some .bytes
  | some name => Locale.ofName? name

/-- The locale of a process. -/
def localeOf (activity : Activity) : Locale :=
  if otherPurposes.all fun purpose => (localeFor? activity purpose).isSome then
    (localeFor? activity readingPurpose).getD .bytes
  else .bytes

/-! ### Glyphs -/

/-- A character, or a byte that is not part of one. -/
structure Glyph where
  bytes : Bytes
  /-- The code point of the character. -/
  code? : Option Nat

/-- The glyph of one byte. -/
def Glyph.ofByte (byte : UInt8) : Glyph :=
  ⟨[byte], if byte < 128 then some byte.toNat else none⟩

/-- Whether a glyph can be printed. -/
def Glyph.isPrintable (glyph : Glyph) : Bool := glyph.code?.any isPrintableCode

/-- How many bytes follow the first byte of a character, and what it adds to the code point. -/
def leadingByte? (byte : UInt8) : Option (Nat × Nat) :=
  if 0xc2 ≤ byte && byte ≤ 0xdf then some (1, byte.toNat - 0xc0)
  else if 0xe0 ≤ byte && byte ≤ 0xef then some (2, byte.toNat - 0xe0)
  else if 0xf0 ≤ byte && byte ≤ 0xf4 then some (3, byte.toNat - 0xf0)
  else none

/-- Whether a byte continues a character. -/
def isContinuation (byte : UInt8) : Bool := 0x80 ≤ byte && byte ≤ 0xbf

/-- Whether a code point is the one that its encoding in so many bytes is meant for. -/
def isProperCode (following code : Nat) : Bool :=
  match following with
  | 1 => true
  | 2 => 0x800 ≤ code && !(0xd800 ≤ code && code ≤ 0xdfff)
  | _ => 0x10000 ≤ code && code ≤ 0x10ffff

/-- The character at the beginning of a text, if it is correctly encoded. -/
def encoded? (first : UInt8) (rest : Bytes) : Option Glyph :=
  match leadingByte? first with
  | none => none
  | some (following, high) =>
    let others := rest.take following
    let code := others.foldl (fun code byte => code * 64 + (byte.toNat - 0x80)) high
    if others.length = following && others.all isContinuation && isProperCode following code then
      some ⟨first :: others, some code⟩
    else none

/-- The glyphs of a text, in a locale; the number bounds how many there may be. -/
def glyphsFrom (locale : Locale) : Nat → Bytes → List Glyph
  | 0, _ => []
  | _, [] => []
  | steps + 1, first :: rest =>
    match if locale = .unicode then encoded? first rest else none with
    | some glyph => glyph :: glyphsFrom locale steps (rest.drop (glyph.bytes.length - 1))
    | none => .ofByte first :: glyphsFrom locale steps rest

/-- The glyphs of a text. -/
def glyphs (locale : Locale) (text : Bytes) : List Glyph := glyphsFrom locale text.length text

end PipelineShell.Tool
