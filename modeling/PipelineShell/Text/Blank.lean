/-
Blank characters.

Lines are cut into words at blank characters, and names and values in the settings are trimmed of
them. A character is blank when it has the Unicode property White_Space: twenty-five code points in
ten ranges, which are written out here.
-/

namespace PipelineShell.Text

/-- The code points with the property White_Space, as inclusive ranges in ascending order. -/
def blankRanges : List (Nat × Nat) :=
  [(0x09, 0x0D), (0x20, 0x20), (0x85, 0x85), (0xA0, 0xA0), (0x1680, 0x1680), (0x2000, 0x200A),
    (0x2028, 0x2029), (0x202F, 0x202F), (0x205F, 0x205F), (0x3000, 0x3000)]

/-- A character is blank when some range of `blankRanges` holds its code point. -/
def isBlank (character : Char) : Bool :=
  blankRanges.any fun range => range.1 ≤ character.toNat && character.toNat ≤ range.2

/-- The text after its leading blanks. -/
def trimStart (characters : List Char) : List Char := characters.dropWhile isBlank

/-- The text before its trailing blanks. -/
def trimEnd (characters : List Char) : List Char :=
  (characters.reverse.dropWhile isBlank).reverse

/-- The text without the blanks at either end. -/
def trim (text : String) : String := String.ofList (trimEnd (trimStart text.toList))

end PipelineShell.Text
