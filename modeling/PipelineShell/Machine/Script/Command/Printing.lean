/-
Commands that print: `echo` and `printf`.

`printf` goes through its format again for as long as there are arguments left; arguments that are
missing count as empty or zero. Numbers that cannot be read are reported, and what can be read of
them is printed.
-/

import PipelineShell.Machine.Script.Command
import PipelineShell.Machine.Tool.Numeral

namespace PipelineShell.Script.Command

/-! ### Echo -/

/-- Prints words with blanks between them. An escape may end the text. -/
def echoWords : List Characters → Characters × Bool
  | [] => ([], false)
  | [word] => Tool.unescape false word
  | word :: rest =>
    match Tool.unescape false word with
    | (text, true) => (text, true)
    | (text, false) =>
      let (more, ends) := echoWords rest
      (text ++ ' ' :: more, ends)

/-- Prints words. -/
def echo : Command := fun _ words => do
  let quiet := words.head? = some "-n".toList
  let (text, ends) := echoWords (if quiet then words.drop 1 else words)
  Running.emit (text ++ (if quiet || ends then [] else ['\n']))
  return 0

/-! ### Fields of a format -/

/-- How a value is laid out. -/
structure Layout where
  /-- Whether another form is asked for. -/
  alternate : Bool
  left : Bool
  plus : Bool
  blank : Bool
  zeros : Bool
  width : Nat
  precision : Option Nat

namespace Layout

/-- Fills a text up to the width. The sign or mark in front stays in front of zeros. -/
def fill (layout : Layout) (zeros : Bool) (front text : Characters) : Characters :=
  let missing := layout.width - (front.length + text.length)
  if layout.left then front ++ text ++ List.replicate missing ' '
  else if zeros then front ++ List.replicate missing '0' ++ text
  else List.replicate missing ' ' ++ front ++ text

/-- The sign in front of a number. -/
def sign (layout : Layout) (negative : Bool) : Characters :=
  if negative then ['-'] else if layout.plus then ['+'] else if layout.blank then [' '] else []

/-- Digits with at least as many of them as the precision asks for. -/
def digits (layout : Layout) (base : Nat) (number : Nat) : Characters :=
  let written := if number = 0 ∧ layout.precision = some 0 then [] else Nat.toDigits base number
  List.replicate ((layout.precision.getD 1) - written.length) '0' ++ written

/-- A number with a sign. -/
def signed (layout : Layout) (number : Int) : Characters :=
  layout.fill (layout.zeros && layout.precision.isNone) (layout.sign (number < 0))
    (layout.digits 10 number.natAbs)

/-- A number without a sign, in a base. -/
def unsigned (layout : Layout) (conversion : Char) (number : Nat) : Characters :=
  let base := if conversion = 'o' then 8 else if conversion = 'u' then 10 else 16
  let written := layout.digits base number
  let written := if conversion = 'X' then written.map Char.toUpper else written
  let front := if layout.alternate && base = 16 && number ≠ 0 then ['0', conversion] else []
  let written := if layout.alternate && base = 8 && written.head? ≠ some '0' then '0' :: written
    else written
  layout.fill (layout.zeros && layout.precision.isNone) front written

/-- A text. -/
def text (layout : Layout) (text : Characters) : Characters :=
  layout.fill false [] (match layout.precision with
    | some count => text.take count
    | none => text)

end Layout

/-! ### Numbers with a point -/

/-- A number with a point, without its sign. -/
inductive Magnitude where
  | finite (value : Tool.Binary)
  | infinite
  | undefined

/-- A value times a power of ten, as the nearest natural number. -/
def scaled (value : Tool.Binary) (places : Int) : Nat :=
  let two : Nat := 1 <<< value.exponent.natAbs
  let ten := Nat.pow 10 places.natAbs
  let numerator := value.mantissa * (if 0 ≤ value.exponent then two else 1) *
    (if 0 ≤ places then ten else 1)
  let denominator := (if 0 ≤ value.exponent then 1 else two) * (if 0 ≤ places then 1 else ten)
  Tool.roundQuotient numerator denominator

/-- Digits with a point before the last `places` of them. -/
def pointed (alternate : Bool) (places number : Nat) : Characters :=
  let written := Nat.toDigits 10 number
  let written := List.replicate (places + 1 - written.length) '0' ++ written
  let whole := written.take (written.length - places)
  if places = 0 then (if alternate then whole ++ ['.'] else whole)
  else whole ++ '.' :: written.drop (written.length - places)

/-- The power of ten of the first digit of a value, when it is written with `digits` digits. The
first argument bounds how often the estimate is corrected. -/
def leadingPower (value : Tool.Binary) (digits : Nat) : Nat → Int → Int
  | 0, power => power
  | steps + 1, power =>
    let shown := scaled value ((digits : Int) - 1 - power)
    if shown < Nat.pow 10 (digits - 1) then leadingPower value digits steps (power - 1)
    else if Nat.pow 10 digits ≤ shown then leadingPower value digits steps (power + 1)
    else power

/-- The power of ten of the first digit of a value. -/
def powerOf (value : Tool.Binary) (digits : Nat) : Int :=
  if value.mantissa = 0 then 0
  else
    let size := (value.mantissa.log2 : Int) + value.exponent
    leadingPower value digits 20 (size * 30103 / 100000)

/-- A power of ten as it is written behind a number. -/
def powerText (mark : Char) (power : Int) : Characters :=
  let digits := Nat.toDigits 10 power.natAbs
  let digits := if digits.length < 2 then '0' :: digits else digits
  mark :: (if power < 0 then '-' else '+') :: digits

/-- A value with a power of ten behind it. -/
def scientific (alternate : Bool) (mark : Char) (places : Nat) (value : Tool.Binary) : Characters :=
  let power := powerOf value (places + 1)
  pointed alternate places (scaled value ((places : Int) - power)) ++ powerText mark power

/-- Drops zeros at the end of the part behind the point. -/
def withoutZeros (text : Characters) : Characters :=
  if text.contains '.' then
    let kept := (text.reverse.dropWhile (· = '0')).reverse
    if kept.getLast? = some '.' then kept.dropLast else kept
  else text

/-- A value in the shorter of the two forms. -/
def general (alternate : Bool) (mark : Char) (precision : Nat) (value : Tool.Binary) : Characters :=
  let precision := max precision 1
  let power := powerOf value precision
  let trim (text : Characters) : Characters := if alternate then text else withoutZeros text
  if -4 ≤ power ∧ power < precision then
    let places := ((precision : Int) - 1 - power).toNat
    trim (pointed alternate places (scaled value places))
  else
    trim (pointed alternate (precision - 1) (scaled value ((precision : Int) - 1 - power))) ++
      powerText mark power

/-- A value with hexadecimal digits and a power of two behind it. Numbers that lack digits start
with a zero. Gives the text behind the mark for the base. -/
def hexadecimal (layout : Layout) (upper : Bool) (value : Tool.Binary) : Characters :=
  let unit := Tool.BinaryFormat.double.unit
  let power : Int := if value.mantissa = 0 then 0
    else if value.mantissa < unit then -1022 else value.exponent + 52
  let places := 13
  let shown := min (layout.precision.getD places) places
  let number := Tool.roundQuotient value.mantissa (1 <<< (4 * (places - shown)))
  let fraction := Nat.toDigits 16 (number % (1 <<< (4 * shown)))
  let fraction := if shown = 0 then []
    else List.replicate (shown - fraction.length) '0' ++ fraction
  let fraction := match layout.precision with
    | none => (fraction.reverse.dropWhile (· = '0')).reverse
    | some count => fraction ++ List.replicate (count - places) '0'
  let written := Nat.toDigits 16 (number / (1 <<< (4 * shown))) ++
    (if fraction.isEmpty && !layout.alternate then [] else '.' :: fraction) ++
    'p' :: (if power < 0 then '-' else '+') :: Nat.toDigits 10 power.natAbs
  if upper then written.map Char.toUpper else written

/-- A number with a point. -/
def Layout.floating (layout : Layout) (conversion : Char) (negative : Bool)
    (magnitude : Magnitude) : Characters :=
  let front := layout.sign negative
  let upper := conversion.isUpper
  let cased (text : String) : Characters := (if upper then text.toUpper else text).toList
  match magnitude with
  | .infinite => layout.fill false front (cased "inf")
  | .undefined => layout.fill false front (cased "nan")
  | .finite value =>
    let precision := layout.precision.getD 6
    let mark := if upper then 'E' else 'e'
    match conversion.toLower with
    | 'a' => layout.fill layout.zeros (front ++ cased "0x") (hexadecimal layout upper value)
    | 'f' => layout.fill layout.zeros front
        (pointed layout.alternate precision (scaled value precision))
    | 'e' => layout.fill layout.zeros front (scientific layout.alternate mark precision value)
    | _ => layout.fill layout.zeros front (general layout.alternate mark precision value)

/-! ### Reading arguments -/

/-- What `printf` has still to print, and whether it met anything it could not read. -/
structure Printout where
  arguments : List Characters
  failed : Bool

/-- A step of `printf`. -/
abbrev Printing := StateT Printout Running

namespace Printing

/-- The next argument. -/
def argument? : Printing (Option Characters) := do
  let printout ← get
  set { printout with arguments := printout.arguments.drop 1 }
  return printout.arguments.head?

/-- Reports an argument. -/
def complain (text : Characters) (reason : String) : Printing Unit := do
  Running.warn (text ++ ": ".toList ++ reason.toList)
  modify fun printout => { printout with failed := true }

/-- Reports what could not be read of an argument. -/
def check (text : Characters) (rest : Option Characters) (overflows : Bool) : Printing Unit := do
  match rest with
  | none => if !text.isEmpty then complain text "expected numeric value"
  | some [] => if overflows then complain text "Numerical result out of range"
  | some _ => complain text "not completely converted"

/-- The next argument as a number. -/
def number (signed : Bool) : Printing Int := do
  match ← argument? with
  | none => return 0
  | some text =>
    match text with
    | first :: rest =>
      if first = weakQuote ∨ first = strongQuote then
        return ((rest.head?.map Char.toNat).getD 0 : Nat)
    | [] => pure ()
    match Arithmetic.leading? false text with
    | none =>
      check text none false
      return 0
    | some (number, rest) =>
      let greatest : Int := if signed then Arithmetic.greatest else 0xffffffffffffffff
      let overflows := greatest < number ||
        (if signed then number < Arithmetic.least else number < -greatest)
      check text (some rest) overflows
      if signed then return max Arithmetic.least (min number greatest)
      else if overflows then return greatest
      else return number % 0x10000000000000000

/-- The next argument as a number with a point, with its sign. A number that is too large, or too
small to have all its digits, is reported. -/
def float : Printing (Bool × Magnitude) := do
  let natural (number : Nat) : Magnitude :=
    match Tool.BinaryFormat.double.round? number 1 with
    | some (value, _) => .finite value
    | none => .infinite
  match ← argument? with
  | none => return (false, natural 0)
  | some text =>
    match text with
    | first :: rest =>
      if first = weakQuote ∨ first = strongQuote then
        return (false, natural ((rest.head?.map Char.toNat).getD 0))
    | [] => pure ()
    match Tool.Numeral.leading? text with
    | none =>
      check text none false
      return (false, natural 0)
    | some ⟨negative, .infinite, rest⟩ =>
      check text (some rest) false
      return (negative, .infinite)
    | some ⟨negative, .undefined _, rest⟩ =>
      check text (some rest) false
      return (negative, .undefined)
    | some ⟨negative, .quotient dividend divisor, rest⟩ =>
      match Tool.BinaryFormat.double.round? dividend divisor with
      | none =>
        check text (some rest) true
        return (negative, .infinite)
      | some (value, isExact) =>
        check text (some rest) (!isExact && value.mantissa < Tool.BinaryFormat.double.unit)
        return (negative, .finite value)

end Printing

/-! ### Formats -/

/-- The character that an escape in a format stands for, and what follows. -/
def formatEscape : Characters → Char × Characters
  | [] => ('\\', [])
  | letter :: rest =>
    if (Tool.octal? letter).isSome then
      let (value, after) := Tool.digitsOf Tool.octal? 8 3 0 (letter :: rest)
      (Tool.byteCharacter value, after)
    else
      match Tool.escaped? letter with
      | some character => (character, rest)
      | none => ('\\', letter :: rest)

/-- The bound of widths and precisions. -/
def sizeLimit : Nat := 0x80000000

/-- Reads a width or a precision: digits, or a star that stands for an argument, of which the lower
bits count. -/
def readSize (format : Characters) : Printing (Option Int × Characters) := do
  match format with
  | '*' :: rest => return (some ((← Printing.number true).bmod (2 * sizeLimit)), rest)
  | _ =>
    let digits := format.takeWhile Char.isDigit
    return ((Arithmetic.digits? 10 digits).map fun (number, _) => (number : Int),
      format.dropWhile Char.isDigit)

/-- Reads a directive of a format behind its percent sign. Gives its layout, its letter and what
follows. -/
def readDirective (format : Characters) : Printing (Layout × Char × Characters) := do
  let isFlag (character : Char) : Bool := "#-+ 0".toList.contains character
  let flags := format.takeWhile isFlag
  let (width, rest) ← readSize (format.dropWhile isFlag)
  let (precision, rest) ← match rest with
    | '.' :: after => do
      let (size, after) ← readSize after
      pure (some (size.getD 0), after)
    | _ => pure (none, rest)
  match rest with
  | [] => Running.fail "missing format character".toList
  | letter :: after =>
    let width := width.getD 0
    let layout : Layout :=
      { alternate := flags.contains '#', left := flags.contains '-' || width < 0
        plus := flags.contains '+', blank := flags.contains ' ', zeros := flags.contains '0'
        width := width.natAbs
        precision := precision.bind fun size => if size < 0 then none else some size.toNat }
    if sizeLimit ≤ width.natAbs || (sizeLimit : Int) ≤ precision.getD 0 then
      Running.fail "xvsnprintf failed".toList
    let read := '%' :: format.take (format.length - after.length)
    if "bcsdiouxXeEfFgGaA".toList.contains letter then return (layout, letter, after)
    else Running.fail (read ++ ": invalid directive".toList)

/-- Prints the next arguments as a directive asks for. Tells whether an escape ends the text. -/
def printDirective (layout : Layout) (letter : Char) : Printing Bool := do
  match letter with
  | 'b' =>
    let (text, ends) := Tool.unescape false ((← Printing.argument?).getD [])
    Running.emit (layout.text text)
    return ends
  | 's' => Running.emit (layout.text ((← Printing.argument?).getD []))
  | 'c' =>
    let first := ((← Printing.argument?).getD []).headD (Char.ofNat 0)
    Running.emit ({ layout with precision := none }.text [first])
  | 'd' | 'i' => Running.emit (layout.signed (← Printing.number true))
  | 'o' | 'u' | 'x' | 'X' =>
    Running.emit (layout.unsigned letter (← Printing.number false).toNat)
  | _ =>
    let (negative, magnitude) ← Printing.float
    Running.emit (layout.floating letter negative magnitude)
  return false

/-- Goes through a format once. Tells whether an escape ends the text. The number bounds the number
of steps. -/
def printFormat : Nat → Characters → Printing Bool
  | 0, _ => return false
  | _ + 1, [] => return false
  | steps + 1, '\\' :: rest => do
    let (character, after) := formatEscape rest
    Running.emit [character]
    printFormat steps after
  | steps + 1, '%' :: '%' :: rest => do
    Running.emit ['%']
    printFormat steps rest
  | steps + 1, '%' :: rest => do
    let (layout, letter, after) ← readDirective rest
    if ← printDirective layout letter then return true else printFormat steps after
  | steps + 1, character :: rest => do
    Running.emit [character]
    printFormat steps rest

/-- Goes through a format until there are no arguments left, or none is taken. The number bounds how
often. -/
def printRounds (format : Characters) : Nat → Printing Unit
  | 0 => return
  | steps + 1 => do
    let before := (← get).arguments.length
    let ends ← printFormat (format.length + 1) format
    let left := (← get).arguments.length
    if !ends && 0 < left && left < before then printRounds format steps

/-- Prints arguments by a format. -/
def printf : Command := fun _ words => do
  match ← noOptions words with
  | [] => Running.fail "usage: printf format [arg ...]".toList
  | format :: arguments =>
    let (_, printout) ← (printRounds format (arguments.length + 1)).run ⟨arguments, false⟩
    return if printout.failed then 1 else 0

end PipelineShell.Script.Command
