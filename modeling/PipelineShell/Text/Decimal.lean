/-
Decimal exit codes.

An exit code is written as decimal digits with an optional sign, and it has to fit in thirty-two
bits. Nothing else is read: no blanks, no other digits, no other notation.
-/

namespace PipelineShell.Text

/-- The number that a non-empty list of ASCII digits denotes. -/
def digitsValue? (digits : List Char) : Option Nat :=
  if digits ≠ [] ∧ digits.all Char.isDigit then
    some (digits.foldl (fun value digit => value * 10 + (digit.toNat - '0'.toNat)) 0)
  else none

/-- Whether a number fits in a signed word of thirty-two bits. -/
def fitsWord (number : Int) : Bool := -2147483648 ≤ number && number ≤ 2147483647

/-- Reads an optional sign and decimal digits, provided that the number fits in thirty-two bits. -/
def readCode? (text : String) : Option Int :=
  let number? : Option Int :=
    match text.toList with
    | '-' :: digits => (digitsValue? digits).map fun value => -(value : Int)
    | '+' :: digits => (digitsValue? digits).map fun value => (value : Int)
    | digits => (digitsValue? digits).map fun value => (value : Int)
  number?.filter fitsWord

end PipelineShell.Text
