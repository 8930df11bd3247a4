/-
The tool that copies the beginning of its input: `head`.
-/

import PipelineShell.Machine.Tool.Options
import PipelineShell.Text.Pieces

namespace PipelineShell.Tool

/-! ### Counts with units -/

/-- Why a count cannot be read. -/
inductive CountProblem where
  | malformed
  | tooLarge
  deriving DecidableEq, Repr

/-- The power of a thousand, or of 1024, that a unit stands for. -/
def unitPower? : Char → Option Nat
  | 'k' => some 1
  | 'K' => some 1
  | 'm' => some 2
  | 'M' => some 2
  | 'G' => some 3
  | 'T' => some 4
  | 'P' => some 5
  | 'E' => some 6
  | 'Z' => some 7
  | 'Y' => some 8
  | _ => none

/-- The factor that a unit stands for. -/
def unitFactor? : List Char → Option Nat
  | [] => some 1
  | ['b'] => some 512
  | letter :: rest =>
    match unitPower? letter, rest with
    | some power, [] => some (Nat.pow 1024 power)
    | some power, ['B'] => some (Nat.pow 1000 power)
    | some power, ['D'] => some (Nat.pow 1000 power)
    | some power, ['i', 'B'] => some (Nat.pow 1024 power)
    | _, _ => none

/-- Whether a character is white space. -/
def isSpace (character : Char) : Bool :=
  character = ' ' || (9 ≤ character.toNat && character.toNat ≤ 13)

/-- The value of decimal digits. -/
def decimalValue (digits : List Char) : Nat :=
  digits.foldl (fun value digit => value * 10 + (digit.toNat - '0'.toNat)) 0

/-- The first number that is too large to count with. -/
def countLimit : Nat := 18446744073709551616

/-- Reads a count: digits and a unit. The unit alone counts once. -/
def readCount (text : List Char) : Except CountProblem Nat :=
  let text := text.dropWhile isSpace
  let unsigned := match text with
    | '+' :: rest => rest
    | _ => text
  let digits := unsigned.takeWhile Char.isDigit
  let (number, unit) : Nat × List Char :=
    if digits = [] then (1, text) else (decimalValue digits, unsigned.drop digits.length)
  match if digits = [] ∧ text = [] then none else unitFactor? unit with
  | none => .error .malformed
  | some factor => if countLimit ≤ number * factor then .error .tooLarge else .ok (number * factor)

/-! ### The part to copy -/

/-- How much of a file is copied. -/
inductive Extent where
  | lines (count : Nat)
  | allButLines (count : Nat)
  | bytes (count : Nat)
  | allButBytes (count : Nat)

/-- The part of some contents that an extent names, when lines end in a mark. -/
def Extent.cut (extent : Extent) (lineEnd : UInt8) (contents : Bytes) : Bytes :=
  let pieces := Text.cutAfter lineEnd contents
  match extent with
  | .lines count => (pieces.take count).flatten
  | .allButLines count => (pieces.take (pieces.length - count)).flatten
  | .bytes count => contents.take count
  | .allButBytes count => contents.take (contents.length - count)

/-- What `head` was asked for: how much of each file, whether titles stand above them, and what
ends a line. -/
structure HeadOptions where
  extent : Extent
  titled : Option Bool
  lineEnd : UInt8

/-- The options of `head`. -/
def headTable : OptionTable where
  letters := [('c', .value), ('n', .value), ('q', .nothing), ('v', .nothing), ('z', .nothing)] ++
    "0123456789".toList.map fun letter => (letter, .nothing)
  words := [("bytes", .value, "c"), ("lines", .value, "n"), ("quiet", .nothing, "q"),
    ("silent", .nothing, "q"), ("verbose", .nothing, "v"), ("zero-terminated", .nothing, "z"),
    ("-presume-input-pipe", .nothing, "presume"),
    ("help", .nothing, "help"), ("version", .nothing, "version")]
  ordered := false

/-- The extent that a count gives, in lines or in bytes. -/
def readExtent (locale : Locale) (inBytes elides : Bool) (text : List Char) :
    Except Bytes Extent :=
  match readCount text with
  | .ok count =>
    .ok (match inBytes, elides with
      | true, true => .allButBytes count
      | true, false => .bytes count
      | false, true => .allButLines count
      | false, false => .lines count)
  | .error problem =>
    .error (Text.encode
        ("invalid number of " ++ (if inBytes then "bytes" else "lines") ++ ": ") ++
      quotedText locale (ofCharacters text) ++
      Text.encode
        (if problem = .tooLarge then ": Value too large for defined data type" else ""))

/-- The message about an option that cannot follow a count. -/
def trailingOption (letter : Char) : Bytes :=
  Text.encode "invalid trailing option -- " ++ ofCharacters [letter]

/-- Reads an option. A problem comes with a hint if the flag with it says so. -/
def HeadOptions.withOption (locale : Locale) (options : HeadOptions) (key : String)
    (value : Option Bytes) : Except (Bytes × Bool) HeadOptions :=
  let counted (inBytes : Bool) : Except (Bytes × Bool) HeadOptions :=
    let text := characters (value.getD [])
    let (elides, count) : Bool × List Char := match text with
      | '-' :: rest => (true, rest)
      | _ => (false, text)
    match readExtent locale inBytes elides count with
    | .ok extent => .ok { options with extent }
    | .error message => .error (message, false)
  match key with
  | "c" => counted true
  | "n" => counted false
  | "q" => .ok { options with titled := some false }
  | "v" => .ok { options with titled := some true }
  | "z" => .ok { options with lineEnd := 0 }
  | _ =>
    match key.toList with
    | [letter] => .error (trailingOption letter, true)
    | _ => .ok options

/-- Goes through the arguments in order. -/
def readHead (locale : Locale) :
    HeadOptions → List OptionEvent → Except (Bytes × Bool) HeadOptions
  | options, [] => .ok options
  | options, .operand _ :: rest => readHead locale options rest
  | _, .problem message :: _ => .error (message, true)
  | options, .option key value :: rest =>
    match options.withOption locale key value with
    | .error problem => .error problem
    | .ok options => readHead locale options rest

/-- Reads the letters after a count that stands in place of an option: whether it counts bytes, the
unit, and the other letters. -/
def readTrailing (options : HeadOptions) (inBytes : Bool) (unit : List Char) :
    List Char → Except (Bytes × Bool) (HeadOptions × Bool × List Char)
  | [] => .ok (options, inBytes, unit)
  | letter :: rest =>
    match letter with
    | 'c' => readTrailing options true [] rest
    | 'b' => readTrailing options true ['b'] rest
    | 'k' => readTrailing options true ['k'] rest
    | 'm' => readTrailing options true ['m'] rest
    | 'l' => readTrailing options false unit rest
    | 'q' => readTrailing { options with titled := some false } inBytes unit rest
    | 'v' => readTrailing { options with titled := some true } inBytes unit rest
    | 'z' => readTrailing { options with lineEnd := 0 } inBytes unit rest
    | _ => .error (trailingOption letter, true)

/-- Reads a first argument that is a count in place of an option. Gives the options and the
arguments that are left. -/
def readOldCount (locale : Locale) (options : HeadOptions) (arguments : List Bytes) :
    Except (Bytes × Bool) (HeadOptions × List Bytes) :=
  match arguments.map characters with
  | ('-' :: first :: more) :: _ =>
    if first.isDigit then
      let digits := (first :: more).takeWhile Char.isDigit
      match readTrailing options false [] ((first :: more).drop digits.length) with
      | .error problem => .error problem
      | .ok (options, inBytes, unit) =>
        match readExtent locale inBytes false (digits ++ unit) with
        | .error message => .error (message, false)
        | .ok extent => .ok ({ options with extent }, arguments.drop 1)
    else .ok (options, arguments)
  | _ => .ok (options, arguments)

/-! ### Copying -/

/-- The line above the beginning of a file, when there are several. -/
def headTitle (first : Bool) (name : Bytes) : Bytes :=
  Text.encode (if first then "==> " else "\n==> ") ++ name ++ Text.encode " <==\n"

/-- How much is read at once. -/
def blockSize : Nat := 8192

/-- How copying the beginning of a file ends. -/
inductive HeadResult where
  | copied
  | unreadable (errno : Errno)
  | unwritable (errno : Errno)

/-- Writes part of a file, and goes on if that was possible. -/
def headWrite (activity : Activity) (part : Bytes) (next : Work HeadResult) : Work HeadResult := do
  match ← Work.put activity part with
  | some errno => return .unwritable errno
  | none => next

/-- Copies lines, block by block. What was read too much of a file can be read again. The first
number bounds how many blocks there may be. -/
def headLines (activity : Activity) (lineEnd : UInt8) (handle : Handle) :
    Nat → (count : Nat) → Work HeadResult
  | 0, _ => return .copied
  | _, 0 => return .copied
  | steps + 1, count => do
    match ← Process.read activity.standing handle blockSize with
    | .error errno => return .unreadable errno
    | .ok [] => return .copied
    | .ok bytes =>
      let found := bytes.count lineEnd
      if found < count then
        headWrite activity bytes (headLines activity lineEnd handle steps (count - found))
      else
        let part := ((Text.cutAfter lineEnd bytes).take count).flatten
        Process.change fun kernel => kernel.moveBack handle (bytes.length - part.length)
        headWrite activity part (return .copied)

/-- Copies bytes, block by block. The first number bounds how many blocks there may be. -/
def headBytes (activity : Activity) (handle : Handle) : Nat → (count : Nat) → Work HeadResult
  | 0, _ => return .copied
  | _, 0 => return .copied
  | steps + 1, count => do
    match ← Process.read activity.standing handle (min count blockSize) with
    | .error errno => return .unreadable errno
    | .ok [] => return .copied
    | .ok bytes =>
      headWrite activity bytes (headBytes activity handle steps (count - bytes.length))

/-- The size up to which a file is read like a pipe. -/
def smallSize : Nat := 4096

/-- Copies everything except for an end that has to be found first. The end of a file that is not
small can be read again. -/
def headAllBut (activity : Activity) (cut : Bytes → Bytes) (handle : Handle) :
    Work HeadResult := do
  match ← Process.readAll activity.standing handle blockSize with
  | .error errno => return .unreadable errno
  | .ok contents =>
    let part := cut contents
    if ((← Process.kernel).size? handle).any (smallSize < ·) then
      Process.change fun kernel => kernel.moveBack handle (contents.length - part.length)
    (Text.chunks blockSize part).foldr (headWrite activity) (return .copied)

/-- Copies the part of a file that was asked for. -/
def headPart (activity : Activity) (options : HeadOptions) (handle : Handle) :
    Work HeadResult :=
  match options.extent with
  | .lines count => headLines activity options.lineEnd handle Process.patience count
  | .bytes count => headBytes activity handle Process.patience count
  | extent => headAllBut activity (extent.cut options.lineEnd) handle

/-- Copies the beginnings of files in order. When the output takes no more, copying is over. -/
def headOperands (activity : Activity) (options : HeadOptions) (titled : Bool) :
    (first : Bool) → Int → List Bytes → Work Int
  | _, code, [] => return code
  | first, code, file :: rest => do
    let locale := localeOf activity
    let name := if file = dash then Text.encode "standard input" else file
    let unreadable (errno : Errno) : Work Unit :=
      Work.warn activity (Text.encode "error reading " ++ quotedName locale name ++
        Text.encode (": " ++ errno.sentence))
    let announce : Work Unit :=
      if titled then Work.print activity (headTitle first name) else pure ()
    match ← openOperand activity file with
    | .error errno =>
      if file = dash then
        announce
        unreadable errno
        headOperands activity options titled false 1 rest
      else
        Work.warn activity (Text.encode "cannot open " ++ quotedName locale name ++
          Text.encode (" for reading: " ++ errno.sentence))
        headOperands activity options titled first 1 rest
    | .ok handle =>
      announce
      let result ← headPart activity options handle
      closeOperand activity handle
      match result with
      | .copied => headOperands activity options titled false code rest
      | .unreadable errno =>
        unreadable errno
        headOperands activity options titled false 1 rest
      | .unwritable errno =>
        Work.forgive
        activity.warn (Text.encode "error writing " ++
          quotedName locale (Text.encode "standard output") ++
          Text.encode (": " ++ errno.sentence))
        return 1

/-- Copies the beginning of its files, or of its input if it has none: ten lines, unless it is told
otherwise. -/
def beginning : Tool := Work.tool 1 fun activity => do
  let locale := localeOf activity
  let refused (problem : Bytes × Bool) : Work Int := do
    if problem.2 then Work.refuse activity problem.1 1
    else
      Work.warn activity problem.1
      return 1
  match readOldCount locale ⟨.lines 10, none, Text.lineFeed⟩ activity.operands with
  | .error problem => refused problem
  | .ok (options, arguments) =>
    let events :=
      optionEvents headTable { activity with arguments := activity.name :: arguments }
    match readHead locale options events with
    | .error problem => refused problem
    | .ok options =>
      let files := operandsOf events
      let operands := if files = [] then [dash] else files
      let titled := options.titled.getD (1 < files.length)
      let code ← headOperands activity options titled true 0 operands
      if inputIsClosed activity operands then
        Work.warn activity (Text.encode "-: Bad file descriptor")
        return 1
      return code

end PipelineShell.Tool
