/-
Arithmetic.

An expression is cut into tokens and evaluated while it is read: numbers of sixty-four bits that
wrap around, variables, the usual operators, and assignments. What is not chosen by a condition is
read but not evaluated.
-/

import PipelineShell.Association
import PipelineShell.Machine.Script
import PipelineShell.Machine.Tool.Printing

namespace PipelineShell.Script.Arithmetic

/-! ### Numbers -/

/-- A number of sixty-four bits. -/
def wrap (number : Int) : Int := Int.bmod number 0x10000000000000000

/-- The greatest number. -/
def greatest : Int := 0x7fffffffffffffff

/-- The least number. -/
def least : Int := -0x8000000000000000

/-- A white character. -/
def isSpace (character : Char) : Bool :=
  character = ' ' || (9 ≤ character.toNat && character.toNat ≤ 13)

/-- The digits at the front of a text in a base, and what follows. Nothing without a digit. -/
def digits? (base : Nat) (text : Characters) : Option (Nat × Characters) :=
  let isDigit (character : Char) : Bool :=
    (Tool.hexadecimal? character).any fun value => value < base
  match text.takeWhile isDigit with
  | [] => none
  | digits =>
    some (digits.foldl (fun value digit => value * base + (Tool.hexadecimal? digit).getD 0) 0,
      text.dropWhile isDigit)

/-- The number at the front of a text and what follows. A leading zero asks for base eight and a
leading `0x` for base sixteen. -/
def unsigned? : Characters → Option (Nat × Characters)
  | '0' :: mark :: rest =>
    if mark = 'x' ∨ mark = 'X' then
      match digits? 16 rest with
      | some found => some found
      | none => some (0, mark :: rest)
    else digits? 8 ('0' :: mark :: rest)
  | text => digits? 10 text

/-- The number at the front of a text, with blanks and a sign, and what follows. A decimal number
takes no base from its digits. Without a number nothing is read. -/
def leading? (decimal : Bool) (text : Characters) : Option (Int × Characters) :=
  let read := if decimal then digits? 10 else unsigned?
  match text.dropWhile isSpace with
  | '-' :: rest => (read rest).map fun (number, after) => (-(number : Int), after)
  | '+' :: rest => (read rest).map fun (number, after) => ((number : Int), after)
  | rest => (read rest).map fun (number, after) => ((number : Int), after)

/-- A text as a number. A text without a number is zero if no decimal number is wanted. -/
def number? (decimal : Bool) (text : Characters) : Option Int :=
  match leading? decimal text with
  | some (number, rest) =>
    if rest.all isSpace ∧ least ≤ number ∧ number ≤ greatest then some number else none
  | none => if ¬decimal ∧ text.all isSpace then some 0 else none

/-- A number as digits. -/
def decimal (number : Int) : Characters := (toString number).toList

/-! ### Tokens -/

/-- A token of an expression. -/
inductive Token where
  | number (number : Int)
  | name (name : Characters)
  | sign (text : String)
  | bad
  deriving DecidableEq, Repr

/-- The signs of an expression, longer ones first. -/
def signs : List String :=
  ["<<=", ">>=", "<<", ">>", "<=", ">=", "==", "!=", "&&", "||", "*=", "/=", "%=", "+=", "-=",
    "&=", "^=", "|=", "<", ">", "=", "!", "&", "|", "*", "/", "%", "+", "-", "^", "~", "?", ":",
    "(", ")"]

/-- Cuts an expression into tokens. The number bounds how many there may be. -/
def tokens : Nat → Characters → List Token
  | 0, _ => []
  | _ + 1, [] => []
  | steps + 1, character :: rest =>
    if character = ' ' ∨ character = '\t' ∨ character = '\n' then tokens steps rest
    else if character.isDigit then
      match unsigned? (character :: rest) with
      | some (number, after) => .number (min number greatest) :: tokens steps after
      | none => [.bad]
    else if isNameStart character then
      .name (character :: rest.takeWhile isNameRest) :: tokens steps (rest.dropWhile isNameRest)
    else
      let found := signs.findSome? fun sign =>
        (sign.toList.isPrefixOf? (character :: rest)).map fun after => (sign, after)
      match found with
      | some (sign, after) => .sign sign :: tokens steps after
      | none => [.bad]

/-! ### Evaluation -/

/-- What is left of an expression, and what it assigned to variables so far, the latest first. -/
structure Course where
  text : Characters
  tokens : List Token
  assigned : List (Characters × Int)

/-- Why an expression has no value. -/
inductive Failure where
  | refused (message : Characters)
  /-- A quotient is out of range, which is more than a process survives. -/
  | overflow

/-- A step of an evaluation. What was assigned before a failure stays assigned. -/
abbrev Evaluating := ExceptT Failure (StateM Course)

/-- Gives up with a reason. -/
def refuse {α : Type} (reason : String) : Evaluating α := do
  throw (.refused ("arithmetic expression: ".toList ++ reason.toList ++ ": \"".toList ++
    (← get).text ++ [weakQuote]))

/-- The next token, which stays. -/
def peek : Evaluating (Option Token) := return (← get).tokens.head?

/-- Moves past a token. -/
def advance : Evaluating Unit :=
  modify fun course => { course with tokens := course.tokens.drop 1 }

/-- The rank of an operator between two numbers. Lower ranks bind tighter. -/
def rank? : Token → Option Nat
  | .sign text =>
    if ["*", "/", "%"].contains text then some 0
    else if ["+", "-"].contains text then some 1
    else if ["<<", ">>"].contains text then some 2
    else if ["<", "<=", ">", ">="].contains text then some 3
    else if ["==", "!="].contains text then some 4
    else if text = "&" then some 5
    else if text = "^" then some 6
    else if text = "|" then some 7
    else none
  | _ => none

/-- The rank above all operators. -/
def lastRank : Nat := 8

/-- A truth value as a number. -/
def truth (value : Bool) : Int := if value then 1 else 0

/-- The bits of a number. -/
def bits (number : Int) : BitVec 64 := BitVec.ofInt 64 number

/-- Combines two numbers. -/
def combine (operator : String) (left right : Int) : Evaluating Int := do
  match operator with
  | "*" => return wrap (left * right)
  | "+" => return wrap (left + right)
  | "-" => return wrap (left - right)
  | "<<" => return ((bits left) <<< (right % 64).toNat).toInt
  | ">>" => return ((bits left).sshiftRight (right % 64).toNat).toInt
  | "<" => return truth (left < right)
  | "<=" => return truth (left ≤ right)
  | ">" => return truth (right < left)
  | ">=" => return truth (right ≤ left)
  | "==" => return truth (left = right)
  | "!=" => return truth (left ≠ right)
  | "&" => return (bits left &&& bits right).toInt
  | "^" => return (bits left ^^^ bits right).toInt
  | "|" => return (bits left ||| bits right).toInt
  | _ =>
    if right = 0 then refuse "division by zero"
    if wrap (left.tdiv right) ≠ left.tdiv right then throw .overflow
    return if operator = "/" then left.tdiv right else left.tmod right

/-- The value of a variable. -/
def valueOf (lookUp : Characters → Option Characters) (name : Characters) : Evaluating Int := do
  match Association.get? name (← get).assigned with
  | some value => return value
  | none =>
    let text := (lookUp name).getD []
    match number? false text with
    | some number => return number
    | none => throw (.refused ("Illegal number: ".toList ++ text))

/-- Gives a variable a value. -/
def assignTo (name : Characters) (value : Int) : Evaluating Unit :=
  modify fun course => { course with assigned := (name, value) :: course.assigned }

/-- Moves past a closing sign that has to be there. -/
def expectSign (text reason : String) : Evaluating Unit := do
  if (← peek) = some (.sign text) then advance else refuse reason

mutual

/-- Evaluates an assignment or a condition. `idle` tells that the value is not needed, so that
nothing is looked up or assigned. The number bounds the depth. -/
def assignment (lookUp : Characters → Option Characters) :
    Nat → (idle : Bool) → Evaluating Int
  | 0, _ => refuse "expecting primary"
  | depth + 1, idle => do
    match (← get).tokens with
    | .name name :: .sign sign :: _ =>
      let operator := (sign.dropEnd 1).toString
      let assigns := sign = "=" || (sign.endsWith "=" && (rank? (.sign operator)).isSome &&
        sign ≠ "<=" && sign ≠ ">=")
      if assigns then
        advance
        advance
        let value ← assignment lookUp depth idle
        if idle then return value
        let value ← if sign = "=" then pure value
          else combine operator (← valueOf lookUp name) value
        assignTo name value
        return value
      else condition lookUp depth idle
    | _ => condition lookUp depth idle

/-- Evaluates a condition with its two outcomes. -/
def condition (lookUp : Characters → Option Characters) :
    Nat → (idle : Bool) → Evaluating Int
  | 0, _ => refuse "expecting primary"
  | depth + 1, idle => do
    let test ← either lookUp depth idle
    if (← peek) = some (.sign "?") then
      advance
      let accepted ← assignment lookUp depth (idle || test = 0)
      expectSign ":" "expecting ':'"
      let rejected ← condition lookUp depth (idle || test ≠ 0)
      return if test ≠ 0 then accepted else rejected
    else return test

/-- Evaluates alternatives. -/
def either (lookUp : Characters → Option Characters) :
    Nat → (idle : Bool) → Evaluating Int
  | 0, _ => refuse "expecting primary"
  | depth + 1, idle => do
    let left ← both lookUp depth idle
    if (← peek) = some (.sign "||") then
      advance
      let right ← either lookUp depth (idle || left ≠ 0)
      return truth (left ≠ 0 || right ≠ 0)
    else return left

/-- Evaluates what has to hold together. -/
def both (lookUp : Characters → Option Characters) :
    Nat → (idle : Bool) → Evaluating Int
  | 0, _ => refuse "expecting primary"
  | depth + 1, idle => do
    let first ← primary lookUp depth idle
    let left ← operators lookUp depth lastRank idle first
    if (← peek) = some (.sign "&&") then
      advance
      let right ← both lookUp depth (idle || left = 0)
      return truth (left ≠ 0 && right ≠ 0)
    else return left

/-- Evaluates operators behind a number, as long as they bind tighter than a rank. -/
def operators (lookUp : Characters → Option Characters) :
    Nat → (outer : Nat) → (idle : Bool) → (left : Int) → Evaluating Int
  | 0, _, _, _ => refuse "expecting primary"
  | depth + 1, outer, idle, left => do
    match ← peek with
    | some (.sign operator) =>
      match rank? (.sign operator) with
      | none => return left
      | some rank =>
        if rank < outer then
          advance
          let first ← primary lookUp depth idle
          let right ← operators lookUp depth rank idle first
          let value ← if idle then pure right else combine operator left right
          operators lookUp depth outer idle value
        else return left
    | _ => return left

/-- Evaluates a number, a variable, an expression between parentheses, or one of these behind a
sign. -/
def primary (lookUp : Characters → Option Characters) :
    Nat → (idle : Bool) → Evaluating Int
  | 0, _ => refuse "expecting primary"
  | depth + 1, idle => do
    match ← peek with
    | some (.number number) =>
      advance
      return number
    | some (.name name) =>
      advance
      if idle then return 0 else valueOf lookUp name
    | some (.sign "(") =>
      advance
      let value ← assignment lookUp depth idle
      expectSign ")" "expecting ')'"
      return value
    | some (.sign "+") =>
      advance
      primary lookUp depth idle
    | some (.sign "-") =>
      advance
      return wrap (-(← primary lookUp depth idle))
    | some (.sign "!") =>
      advance
      return truth ((← primary lookUp depth idle) = 0)
    | some (.sign "~") =>
      advance
      return -(← primary lookUp depth idle) - 1
    | _ => refuse "expecting primary"

end

/-- The value of an expression, or why it has none, and what it assigns to variables, in order. -/
def evaluate (lookUp : Characters → Option Characters) (text : Characters) :
    Except Failure Int × List (Characters × Int) :=
  let found := tokens (text.length + 1) text
  let depth := 10 * found.length + 10
  let whole : Evaluating Int := do
    let value ← assignment lookUp depth false
    if (← peek).isSome then refuse "expecting EOF"
    return value
  let (outcome, course) := whole.run.run ⟨text, found, []⟩
  (outcome, course.assigned.reverse)

end PipelineShell.Script.Arithmetic
