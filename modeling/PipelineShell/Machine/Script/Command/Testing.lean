/-
The command that tests a condition: `test`, also written with brackets.

A condition is made of words: operators with one operand or two, an exclamation mark, parentheses,
and the connectives `-a` and `-o`. Whether a word is an operator depends on the words behind it.
-/

import PipelineShell.Machine.Script.Command

namespace PipelineShell.Script.Command

/-! ### Operators -/

/-- What a word of a condition may be. -/
inductive Operator where
  | unary (name : String)
  | binary (name : String)
  | not
  | and
  | or
  | opening
  | closing
  deriving DecidableEq, Repr

/-- The operators with one operand. -/
def unaryNames : List String :=
  ["-r", "-w", "-x", "-e", "-f", "-d", "-c", "-b", "-p", "-u", "-g", "-k", "-s", "-t", "-z", "-n",
    "-h", "-O", "-G", "-L", "-S"]

/-- The operators with two operands. -/
def binaryNames : List String :=
  ["=", "!=", "<", ">", "-eq", "-ne", "-ge", "-gt", "-le", "-lt", "-nt", "-ot", "-ef"]

/-- The operator that a word spells. -/
def operator? (word : Characters) : Option Operator :=
  let name := String.ofList word
  if unaryNames.contains name then some (.unary name)
  else if binaryNames.contains name then some (.binary name)
  else
    match name with
    | "!" => some .not
    | "-a" => some .and
    | "-o" => some .or
    | "(" => some .opening
    | ")" => some .closing
    | _ => none

/-- Whether a word spells an operator with two operands. -/
def isBinary (word : Characters) : Bool :=
  match operator? word with
  | some (.binary _) => true
  | _ => false

/-- What the first of some words is. -/
inductive Lexeme where
  | nothing
  | operand
  | operator (operator : Operator)
  deriving DecidableEq, Repr

/-- Tells what the first of some words is. An operator with one operand that has none, or that
stands in front of one with two operands, is an operand itself. -/
def lexeme : List Characters → Lexeme
  | [] => .nothing
  | word :: rest =>
    match operator? word with
    | none => .operand
    | some (.unary name) =>
      match rest with
      | [] => .operand
      | [_] => .operator (.unary name)
      | second :: _ => if isBinary second then .operand else .operator (.unary name)
    | some .opening => if rest.isEmpty then .operand else .operator .opening
    | some operator => .operator operator

/-! ### Operands -/

/-- Complains about a word of a condition. -/
def refuseCondition {α : Type} (word : Characters) (reason : String) : Running α :=
  Running.fail (if word.isEmpty then reason.toList else word ++ ": ".toList ++ reason.toList)

/-- A word as a number. -/
def numberOf (word : Characters) : Running Int :=
  match Arithmetic.number? true word with
  | some number => return number
  | none => Running.badNumber word

/-- What a path leads to. -/
def nodeAt (path : Characters) : Running (Option (Location × Node)) := do
  let activity := (← Running.context).activity
  match (← Process.kernel).find activity.slots activity.directory (Tool.ofCharacters path) with
  | .ok found => return some found
  | .error _ => return none

/-- Whether a path is a link itself. -/
def isLink (path : Characters) : Running Bool := do
  let here := (← Running.context).activity.directory
  return (← Process.kernel).tree.isLink here (Tool.ofCharacters path)

/-- Whether a node may be used in some way. -/
def mayUse (ways : Nat) (path : Characters) : Running Bool := do
  match ← nodeAt path with
  | some (_, node) => return FileTree.permits ways node
  | none => return false

/-- A test of a node that a path leads to. -/
def testNode (test : Node → Bool) (path : Characters) : Running Bool := do
  return (← nodeAt path).any fun (_, node) => test node

/-- A test of one operand. -/
def testUnary (name : String) (operand : Characters) : Running Bool := do
  match name with
  | "-z" => return operand.isEmpty
  | "-n" => return !operand.isEmpty
  | "-t" =>
    let _ ← numberOf operand
    return false
  | "-r" => mayUse FileTree.readWay operand
  | "-w" => mayUse FileTree.writeWay operand
  | "-x" => mayUse FileTree.executeWay operand
  | "-h" | "-L" => isLink operand
  | "-e" | "-O" | "-G" => testNode (fun _ => true) operand
  | "-f" => testNode isRegular operand
  | "-d" => testNode (· = .directory) operand
  | "-c" => testNode isDevice operand
  | "-p" => testNode isPipe operand
  | "-s" => testNode holdsSomething operand
  | "-u" => testMode 0o4000 operand
  | "-g" => testMode 0o2000 operand
  | "-k" =>
    let isShared := (← nodeAt operand).any fun (place, _) => Kernel.sharedPlaces.contains place
    return isShared || (← testMode 0o1000 operand)
  | _ => return false
where
  /-- Whether a node is an ordinary file. -/
  isRegular : Node → Bool
    | .file _ _ => true
    | .program _ => true
    | _ => false
  /-- Whether the size of a node is not zero. -/
  holdsSomething : Node → Bool
    | .file contents _ => !contents.isEmpty
    | .device _ | .slot _ => false
    | _ => true
  /-- Whether a node is a device. -/
  isDevice : Node → Bool
    | .device _ => true
    | _ => false
  /-- Whether a node is a pipe. -/
  isPipe : Node → Bool
    | .slot _ => true
    | _ => false
  /-- Whether a file has some bits in its mode. -/
  testMode (bits : Nat) (path : Characters) : Running Bool :=
    testNode (fun node => match node with
      | .file _ mode => mode &&& bits ≠ 0
      | _ => false) path

/-- Whether one path leads to something newer than another. What the system brought along is older
than all that is at the place where work is done, and nothing else is told apart. -/
def isNewer (first second : Characters) : Running Bool := do
  let atWork (location : Location) : Bool := Kernel.workplace.isPrefixOf location
  match ← nodeAt first, ← nodeAt second with
  | some (first, _), some (second, _) => return atWork first && !atWork second
  | _, _ => return false

/-- A test of two operands. -/
def testBinary (name : String) (left right : Characters) : Running Bool := do
  let compare (test : Int → Int → Bool) : Running Bool := do
    let first ← numberOf left
    return test first (← numberOf right)
  match name with
  | "=" => return left = right
  | "!=" => return left ≠ right
  | "<" => return decide (left < right)
  | ">" => return decide (right < left)
  | "-eq" => compare (· == ·)
  | "-ne" => compare (· != ·)
  | "-ge" => compare fun first second => second ≤ first
  | "-gt" => compare fun first second => second < first
  | "-le" => compare fun first second => first ≤ second
  | "-lt" => compare fun first second => first < second
  | "-nt" => isNewer left right
  | "-ot" => isNewer right left
  | "-ef" =>
    match ← nodeAt left, ← nodeAt right with
    | some (first, _), some (second, _) => return first = second
    | _, _ => return false
  | _ => return false

/-! ### Conditions -/

/-- A test that goes through words. The first word that is left is the last one that was used. -/
abbrev Testing := StateT (List Characters) Running

/-- What the word behind the current one is. -/
def lexemeAhead : Testing Lexeme := return lexeme ((← get).drop 1)

/-- Moves on by some words. -/
def moveOn (count : Nat) : Testing Unit := modify (·.drop count)

mutual

/-- A condition made of alternatives. The number bounds the depth. -/
def testEither : Nat → Lexeme → Testing Bool
  | 0, _ => return false
  | depth + 1, start => do
    let first ← testBoth depth start
    if (← lexemeAhead) = .operator .or then
      moveOn 2
      let second ← testEither depth (lexeme (← get))
      return first || second
    else return first

/-- A condition made of parts that all have to hold. -/
def testBoth : Nat → Lexeme → Testing Bool
  | 0, _ => return false
  | depth + 1, start => do
    let first ← testNot depth start
    if (← lexemeAhead) = .operator .and then
      moveOn 2
      let second ← testBoth depth (lexeme (← get))
      return first && second
    else return first

/-- A condition behind exclamation marks. -/
def testNot : Nat → Lexeme → Testing Bool
  | 0, _ => return false
  | depth + 1, start => do
    if start = .operator .not then
      let following ← lexemeAhead
      if following ≠ .nothing then moveOn 1
      return !(← testNot depth following)
    else testPrimary depth start

/-- A single test, or a condition between parentheses. -/
def testPrimary : Nat → Lexeme → Testing Bool
  | 0, _ => return false
  | depth + 1, start => do
    match start with
    | .nothing => return false
    | .operator .opening =>
      moveOn 1
      let inside := lexeme (← get)
      if inside = .operator .closing then return false
      let result ← testEither depth inside
      moveOn 1
      if lexeme (← get) ≠ .operator .closing then
        refuseCondition [] "closing paren expected"
      return result
    | .operator (.unary name) =>
      moveOn 1
      match ← get with
      | [] => refuseCondition name.toList "argument expected"
      | operand :: _ => testUnary name operand
    | _ =>
      let words ← get
      let left := words.headD []
      match lexeme (words.drop 1) with
      | .operator (.binary name) =>
        match words.drop 2 with
        | [] => refuseCondition name.toList "argument expected"
        | right :: _ =>
          moveOn 2
          testBinary name left right
      | _ => return !left.isEmpty

end

/-- Tests a condition, from what its first word is on, and makes sure that nothing is left. -/
def testWords (start : Lexeme) (words : List Characters) : Running Bool := do
  let (result, left) ← (testEither (5 * words.length + 5) start).run words
  match left with
  | word :: _ :: _ => refuseCondition word "unexpected operator"
  | _ => return result

/-- Tests a condition of some words. With three or four of them, an operator in the middle, a pair
of parentheses or an exclamation mark comes first. -/
def testAll : List Characters → Running Bool
  | [] => return false
  | first :: rest => do
    let words := first :: rest
    let counted := words.length = 3 || words.length = 4
    if words.length = 3 && (words[1]?).any isBinary then testWords .operand words
    else if counted && first = ['('] && words.getLast? = some [')'] then
      testWords (lexeme rest.dropLast) rest.dropLast
    else if counted && first = ['!'] then return !(← testAll rest)
    else testWords (lexeme words) words

/-- Tests a condition. -/
def test : Command := fun _ words => do
  return if ← testAll words then 0 else 1

/-- Tests a condition between brackets. -/
def bracket : Command := fun engine words => do
  match words.getLast? with
  | some (']' :: _) => test engine words.dropLast
  | _ => Running.fail "missing ]".toList

end PipelineShell.Script.Command
