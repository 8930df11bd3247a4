/-
Numbers with a point.

A text may start with a decimal or a hexadecimal number that has a point and an exponent, or with a
word for an infinite number or for none. The value of a number is a quotient of natural numbers. A
format of binary numbers holds the one that is nearest to it, and of two such the even one.
-/

import PipelineShell.Machine.Tool.Beginning
import PipelineShell.Machine.Tool.Printing

namespace PipelineShell.Tool

/-! ### Reading -/

/-- The value that a text stands for, without its sign. -/
inductive Numeral where
  | quotient (dividend divisor : Nat)
  | infinite
  /-- No number. The payload tells one such text from another. -/
  | undefined (payload : Nat)

/-- A number at the front of a text. -/
structure LeadingNumeral where
  negative : Bool
  numeral : Numeral
  /-- What follows the number. -/
  rest : List Char

/-- Whether a text starts with a word, in capitals or not. -/
def startsWith (word : String) (text : List Char) : Bool :=
  word.toList.isPrefixOf (text.map Char.toLower)

/-- Digits before and behind a point, and what follows them. -/
def readDigits (isDigit : Char → Bool) (text : List Char) :
    List Char × List Char × List Char :=
  let whole := text.takeWhile isDigit
  match text.drop whole.length with
  | '.' :: rest =>
    let fraction := rest.takeWhile isDigit
    (whole, fraction, rest.drop fraction.length)
  | rest => (whole, [], rest)

/-- The largest exponent that is looked at. -/
def writtenLimit : Nat := 100000

/-- Reads the exponent after a number, which follows a letter. Without digits there is none. -/
def readExponent (letter : Char) (text : List Char) : Int × List Char :=
  match text with
  | mark :: rest =>
    let (negative, rest) : Bool × List Char := match rest with
      | '-' :: rest => (true, rest)
      | '+' :: rest => (false, rest)
      | _ => (false, rest)
    let digits := rest.takeWhile Char.isDigit
    if mark.toLower = letter ∧ digits ≠ [] then
      let size : Int := (min (decimalValue digits) writtenLimit : Nat)
      (if negative then -size else size, rest.drop digits.length)
    else (0, text)
  | [] => (0, [])

/-- Whether a character is a hexadecimal digit. -/
def isHexadecimal (character : Char) : Bool := (hexadecimal? character).isSome

/-- The value of hexadecimal digits. -/
def hexadecimalValue (digits : List Char) : Nat :=
  (digitsOf hexadecimal? 16 digits.length 0 digits).1

/-- The payload in parentheses behind the word for no number, and what follows it. -/
def readPayload (text : List Char) : Nat × List Char :=
  match text with
  | '(' :: inside =>
    let name := inside.takeWhile fun character => character.isAlphanum || character = '_'
    match inside.drop name.length with
    | ')' :: rest =>
      let payload :=
        if startsWith "0x" name && (name.drop 2).all isHexadecimal then
          hexadecimalValue (name.drop 2)
        else if name.head? = some '0' && name.all fun digit => (octal? digit).isSome then
          (digitsOf octal? 8 name.length 0 name).1
        else if name.all Char.isDigit then decimalValue name
        else 0
      (payload, rest)
    | _ => (0, text)
  | _ => (0, text)

/-- The quotient of a number times a power of a base. -/
def Numeral.scaled (value base : Nat) (exponent : Int) : Numeral :=
  .quotient (value * Nat.pow base exponent.toNat) (Nat.pow base (-exponent).toNat)

/-- The number that a text starts with, if it starts with one. -/
def Numeral.leading? (text : List Char) : Option LeadingNumeral :=
  let text := text.dropWhile isSpace
  let (negative, unsigned) : Bool × List Char := match text with
    | '-' :: rest => (true, rest)
    | '+' :: rest => (false, rest)
    | _ => (false, text)
  let (whole, fraction, after) := readDigits Char.isDigit unsigned
  let (hexWhole, hexFraction, hexAfter) := readDigits isHexadecimal (unsigned.drop 2)
  if startsWith "0x" unsigned ∧ (hexWhole ≠ [] ∨ hexFraction ≠ []) then
    let (power, rest) := readExponent 'p' hexAfter
    let exponent := power - 4 * (hexFraction.length : Nat)
    some ⟨negative, scaled (hexadecimalValue (hexWhole ++ hexFraction)) 2 exponent, rest⟩
  else if whole ≠ [] ∨ fraction ≠ [] then
    let (power, rest) := readExponent 'e' after
    let limit : Int := 6000 + (whole.length + fraction.length : Nat)
    let exponent := max (-limit) (min limit (power - (fraction.length : Nat)))
    some ⟨negative, scaled (decimalValue (whole ++ fraction)) 10 exponent, rest⟩
  else if startsWith "infinity" unsigned then some ⟨negative, .infinite, unsigned.drop 8⟩
  else if startsWith "inf" unsigned then some ⟨negative, .infinite, unsigned.drop 3⟩
  else if startsWith "nan" unsigned then
    let (payload, rest) := readPayload (unsigned.drop 3)
    some ⟨negative, .undefined payload, rest⟩
  else none

/-! ### Rounding -/

/-- A format of binary numbers. -/
structure BinaryFormat where
  /-- How many digits a number has. -/
  precision : Nat
  /-- The exponent of the smallest number. -/
  leastExponent : Int
  /-- The exponent from which on a number with all its digits is infinite. -/
  exponentLimit : Int

namespace BinaryFormat

/-- Numbers of eight bytes. -/
def double : BinaryFormat := ⟨53, -1074, 972⟩

/-- Numbers of ten bytes. -/
def extended : BinaryFormat := ⟨64, -16445, 16321⟩

/-- The smallest number with all its digits. -/
def unit (format : BinaryFormat) : Nat := 1 <<< (format.precision - 1)

end BinaryFormat

/-- A binary number: a natural number times a power of two. -/
structure Binary where
  mantissa : Nat
  exponent : Int

/-- A quotient as the nearest natural number; a half goes to the even neighbour. -/
def roundQuotient (dividend divisor : Nat) : Nat :=
  let quotient := dividend / divisor
  let rest := 2 * (dividend % divisor)
  if divisor < rest ∨ (rest = divisor ∧ quotient % 2 = 1) then quotient + 1 else quotient

/-- The binary number that is nearest to a quotient, and whether it is the quotient. Nothing if the
quotient is too large for the format. -/
def BinaryFormat.round? (format : BinaryFormat) (dividend divisor : Nat) :
    Option (Binary × Bool) :=
  if dividend = 0 then some (⟨0, format.leastExponent⟩, true)
  else
    let guess : Int := (Nat.log2 dividend : Int) - Nat.log2 divisor - format.precision
    let above (exponent : Int) : Nat := dividend <<< (-exponent).toNat
    let below (exponent : Int) : Nat := divisor <<< exponent.toNat
    let fits (exponent : Int) : Bool := above exponent < below exponent <<< format.precision
    let exponent := ([guess, guess + 1].find? fits).getD (guess + 2)
    let exponent := max exponent format.leastExponent
    let mantissa := roundQuotient (above exponent) (below exponent)
    let isExact := mantissa * below exponent = above exponent
    let value : Binary := if mantissa = 2 * format.unit then ⟨format.unit, exponent + 1⟩
      else ⟨mantissa, exponent⟩
    if format.exponentLimit ≤ value.exponent then none else some (value, isExact)

end PipelineShell.Tool
