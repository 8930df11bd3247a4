/-
The orders in which lines can be sorted.

Besides the order of bytes there are orders by number, by number with a unit, by month and by
version. Each is a comparison of texts that looks at what it knows of the beginning and takes the
rest as nothing.
-/

import PipelineShell.Machine.Tool.Numeral

namespace PipelineShell.Tool

/-- Compares texts by their characters. -/
def compareTexts : List Char → List Char → Ordering
  | [], [] => .eq
  | [], _ :: _ => .lt
  | _ :: _, [] => .gt
  | first :: firstRest, second :: secondRest =>
    (compare first.toNat second.toNat).then (compareTexts firstRest secondRest)

/-- Whether a character is a blank between fields. -/
def isFieldBlank (character : Char) : Bool :=
  character = ' ' || character = '\t' || character = '\n'

/-! ### Numbers -/

/-- A decimal number of any length: its sign and its digits on both sides of the point, without
zeros that do not matter. -/
structure LongDecimal where
  negative : Bool
  whole : List Char
  fraction : List Char

/-- The number at the beginning of a text and what follows it. A text without one counts as zero. -/
def LongDecimal.read (text : List Char) : LongDecimal × List Char :=
  let (negative, rest) : Bool × List Char := match text with
    | '-' :: rest => (true, rest)
    | _ => (false, text)
  let whole := rest.takeWhile Char.isDigit
  let rest := rest.drop whole.length
  let (fraction, rest) : List Char × List Char := match rest with
    | '.' :: rest =>
      let digits := rest.takeWhile Char.isDigit
      (digits, rest.drop digits.length)
    | _ => ([], rest)
  let whole := whole.dropWhile (· = '0')
  let fraction := (fraction.reverse.dropWhile (· = '0')).reverse
  (⟨negative && !(whole = [] && fraction = []), whole, fraction⟩, rest)

/-- Compares the sizes of numbers. -/
def LongDecimal.compareSizes (first second : LongDecimal) : Ordering :=
  (compare first.whole.length second.whole.length).then
    ((compareTexts first.whole second.whole).then (compareTexts first.fraction second.fraction))

/-- Compares numbers. -/
def LongDecimal.order (first second : LongDecimal) : Ordering :=
  match first.negative, second.negative with
  | true, false => .lt
  | false, true => .gt
  | false, false => first.compareSizes second
  | true, true => second.compareSizes first

/-- Compares texts by the numbers that they start with. -/
def compareNumbers (first second : List Char) : Ordering :=
  (LongDecimal.read (first.dropWhile isFieldBlank)).1.order
    (LongDecimal.read (second.dropWhile isFieldBlank)).1

/-- The rank of the unit after the number that a text starts with, with the sign of the number. -/
def unitRank (text : List Char) : Int :=
  let text := text.dropWhile isFieldBlank
  let (number, rest) := LongDecimal.read text
  if number.whole = [] ∧ number.fraction = [] then 0
  else
    let rank : Int := match rest with
      | letter :: _ => if letter = 'm' then 0 else ((unitPower? letter).getD 0 : Nat)
      | [] => 0
    if number.negative then -rank else rank

/-- Compares texts by the numbers with units that they start with. -/
def compareWithUnits (first second : List Char) : Ordering :=
  (compare (unitRank first) (unitRank second)).then (compareNumbers first second)

/-! ### Numbers with exponents -/

/-- A number with an exponent, as far as texts can be ordered by it. -/
inductive GeneralNumber where
  | nothing
  /-- No number; the bytes tell one such text from another. -/
  | undefined (bytes : List Nat)
  | number (mantissa : Int) (exponent : Int)
  | infinite (negative : Bool)

/-- The bytes that tell a text without a number from another one. -/
def GeneralNumber.ofPayload (negative : Bool) (payload : Nat) : GeneralNumber :=
  let mantissa := 3 <<< 62 + payload % (1 <<< 62)
  let digits := (List.range 8).map fun place => (mantissa >>> (8 * place)) % 256
  .undefined (digits ++ [255, if negative then 255 else 127])

/-- The number with an exponent that a text starts with. -/
def GeneralNumber.read (text : List Char) : GeneralNumber :=
  match Numeral.leading? text with
  | none => .nothing
  | some ⟨negative, .infinite, _⟩ => .infinite negative
  | some ⟨negative, .undefined payload, _⟩ => ofPayload negative payload
  | some ⟨negative, .quotient dividend divisor, _⟩ =>
    match BinaryFormat.extended.round? dividend divisor with
    | none => .infinite negative
    | some (value, _) =>
      .number (if negative then -value.mantissa else value.mantissa) value.exponent

/-- Compares lists of numbers. -/
def compareLists : List Nat → List Nat → Ordering
  | first :: firstRest, second :: secondRest =>
    (compare first second).then (compareLists firstRest secondRest)
  | _, _ => .eq

/-- Compares numbers with exponents; texts without a number come first. -/
def GeneralNumber.order : GeneralNumber → GeneralNumber → Ordering
  | .nothing, .nothing => .eq
  | .nothing, _ => .lt
  | _, .nothing => .gt
  | .undefined first, .undefined second => compareLists first second
  | .undefined _, _ => .lt
  | _, .undefined _ => .gt
  | .infinite first, .infinite second => compare second.toNat first.toNat
  | .infinite negative, _ => if negative then .lt else .gt
  | _, .infinite negative => if negative then .gt else .lt
  | .number first firstExponent, .number second secondExponent =>
    let least := min firstExponent secondExponent
    let aligned (number exponent : Int) : Int :=
      number * (1 <<< (exponent - least).toNat : Nat)
    compare (aligned first firstExponent) (aligned second secondExponent)

/-! ### Months -/

/-- The names of the months, as far as they are looked at. -/
def monthNames : List String :=
  ["jan", "feb", "mar", "apr", "may", "jun", "jul", "aug", "sep", "oct", "nov", "dec"]

/-- The number of the month that a text starts with; any other text comes before. -/
def monthNumber (text : List Char) : Nat :=
  let text := text.dropWhile isFieldBlank
  match monthNames.findIdx? fun name => startsWith name text with
  | some index => index + 1
  | none => 0

/-! ### Versions -/

/-- The rank of the first character of a version, when digits count as the end of a part. -/
def versionRank : List Char → Int
  | [] => -1
  | character :: _ =>
    if character.isDigit then 0
    else if character.isAlpha then (character.toNat : Nat)
    else if character = '~' then -2
    else ((character.toNat + 256 : Nat) : Int)

/-- Whether a version goes on with a character that is no digit. -/
def startsWithMark : List Char → Bool
  | [] => false
  | character :: _ => !character.isDigit

/-- Compares versions part by part: marks by their ranks and digits as numbers. The first argument
bounds the number of steps. -/
def compareParts : Nat → List Char → List Char → Ordering
  | 0, _, _ => .eq
  | steps + 1, first, second =>
    if first = [] ∧ second = [] then .eq
    else if startsWithMark first || startsWithMark second then
      (compare (versionRank first) (versionRank second)).then
        (compareParts steps (first.drop 1) (second.drop 1))
    else
      let first := first.dropWhile (· = '0')
      let second := second.dropWhile (· = '0')
      let firstDigits := first.takeWhile Char.isDigit
      let secondDigits := second.takeWhile Char.isDigit
      (compare firstDigits.length secondDigits.length).then
        ((compareTexts firstDigits secondDigits).then
          (compareParts steps (first.drop firstDigits.length) (second.drop secondDigits.length)))

/-- The text after the endings at its beginning, such as a dot and letters. -/
def dropEndings : Nat → List Char → List Char
  | 0, text => text
  | steps + 1, text =>
    match text with
    | '.' :: letter :: rest =>
      if letter.isAlpha || letter = '~' then
        dropEndings steps (rest.dropWhile fun character => character.isAlphanum || character = '~')
      else text
    | _ => text

/-- The length of a text without its endings. The first argument bounds the number of steps. -/
def stemLength : Nat → Nat → Nat → List Char → Nat
  | 0, stem, _, _ => stem
  | steps + 1, stem, position, text =>
    match text with
    | [] => stem
    | _ :: rest =>
      let after := dropEndings rest.length rest
      stemLength steps (position + 1) (position + 1 + (rest.length - after.length)) after

/-- The text without its endings. -/
def stem (text : List Char) : List Char := text.take (stemLength (text.length + 1) 0 0 text)

/-- Compares texts as versions. -/
def compareVersions (first second : List Char) : Ordering :=
  let parts (first second : List Char) : Ordering :=
    compareParts (first.length + second.length + 1) first second
  let hidden (text : List Char) : Nat := match text with
    | [] => 0
    | ['.'] => 1
    | ['.', '.'] => 2
    | '.' :: _ => 3
    | _ => 4
  (compare (hidden first) (hidden second)).then
    (if hidden first < 3 then .eq
      else (parts (stem first) (stem second)).then (parts first second))

end PipelineShell.Tool
