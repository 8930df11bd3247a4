/-
Reading statements.

A script is read one line at a time: a list of statements up to the end of its last line. The
statements are read from tokens by descent. Lists hold commands and commands hold lists, and words
hold lists, too, so reading a list takes a bound on the depth, for which the length of the script is
enough. Here-documents are read at the end of the line that asks for them.
-/

import PipelineShell.Machine.Script.Lexer

namespace PipelineShell.Script

/-! ### Tokens -/

/-- What is done with a token when it is read: line ends may be skipped, and words may be taken for
keywords and for short names of other texts. References do not count in the mark that ends a
here-document. -/
structure Lookout where
  newlines : Bool
  keywords : Bool
  aliases : Bool
  mark : Bool

namespace Lookout

/-- Takes every token for what it is. -/
def nothing : Lookout := ⟨false, false, false, false⟩

/-- Expects the start of a command. -/
def command : Lookout := ⟨false, true, true, false⟩

/-- Expects the start of a command, possibly on a later line. -/
def laterCommand : Lookout := ⟨true, true, true, false⟩

/-- Expects a keyword, possibly on a later line. -/
def laterKeyword : Lookout := ⟨true, true, false, false⟩

end Lookout

/-- Words that have a meaning of their own where a command may start. -/
def keywords : List String :=
  ["!", "case", "do", "done", "elif", "else", "esac", "fi", "for", "if", "in", "then", "until",
    "while", "\x7b", "\x7d"]

/-- The first character of the next token. Blanks and comments are skipped. The argument bounds the
number of steps. -/
def nextStart : Nat → Reading (Option Char)
  | 0 => return none
  | steps + 1 => do
    match ← Reading.nextJoined with
    | none => return none
    | some character =>
      if character = '#' then
        modify fun source => { source with input := source.input.dropWhile (· ≠ '\n') }
        nextStart steps
      else if isBlank character then nextStart steps
      else return some character

/-- Reads a sign that may be written once or twice. -/
def readDouble (sign : Char) (twice once : Token) : Reading Token := do
  let second ← Reading.nextJoined
  if second = some sign then return twice
  Reading.putBack second
  return once

/-- Reads a token from the text. -/
def readFresh (list : ListReader) (inMark : Bool) : Reading Token := do
  match ← nextStart Reading.patience with
  | none => return .endOfFile
  | some '\n' =>
    Reading.countLine
    return .newline
  | some '&' => readDouble '&' .both .background
  | some '|' => readDouble '|' .either .pipe
  | some ';' => readDouble ';' .endCase .semicolon
  | some '(' => return .opening
  | some ')' => return .closing
  | some character => readWord list inMark character

/-- Puts the text that a short name stands for in front of what is left, unless the name is part of
that text itself. -/
def substitute (name : Characters) : Reading Bool := do
  let source ← get
  match Association.get? name source.aliases with
  | none => return false
  | some text =>
    if source.active.any fun substitution => substitution.name = name then return false
    let substitution := ⟨name, source.input.length, text.getLast?.any isBlank⟩
    set { source with
      input := text ++ source.input
      substitutions := substitution :: source.active }
    return true

/-- Reads a token. The number bounds how many line ends and short names may come before it. -/
def readTokenWithin (list : ListReader) : Nat → Lookout → Reading Token
  | 0, _ => return .endOfFile
  | steps + 1, lookout => do
    let before ← get
    let token ← match ← Reading.takePushed with
      | some token => pure token
      | none => readFresh list lookout.mark
    let after ← get
    -- A text that ends in a blank lets the word after it be a short name as well.
    let goesOn := after.substitutions.any fun substitution =>
      substitution.blank && before.input.length > substitution.rest &&
        after.input.length ≤ substitution.rest
    let lookout := { lookout with aliases := lookout.aliases || goesOn }
    match token with
    | .newline =>
      if lookout.newlines then
        readDocuments list
        readTokenWithin list steps lookout
      else return token
    | .word word false =>
      match plainText? word with
      | none => return token
      | some text =>
        let written := String.ofList text
        if lookout.keywords && keywords.contains written then return .keyword written
        else if lookout.aliases then
          if ← substitute text then readTokenWithin list steps lookout else return token
        else return token
    | _ => return token

/-- Reads a token. -/
def readToken (list : ListReader) (lookout : Lookout) : Reading Token := do
  readTokenWithin list Reading.patience lookout

/-- Reads a keyword that has to be there. -/
def expectKeyword (list : ListReader) (lookout : Lookout) (text : String) : Reading Unit := do
  match ← readToken list lookout with
  | .keyword found =>
    if found ≠ text then Reading.unexpected (.keyword found) (some (.keyword text))
  | token => Reading.unexpected token (some (.keyword text))

/-! ### Redirections -/

/-- Reads the word after the sign of a redirection. -/
def readRedirect (list : ListReader) (slot : Nat) (sign : String) : Reading Redirect := do
  let isDocument := sign = "<<" || sign = "<<-"
  match ← readToken list { Lookout.nothing with mark := isDocument } with
  | .word word quoted =>
    match sign with
    | "<" => return .file slot .read word
    | ">" => return .file slot .write word
    | ">|" => return .file slot .clobber word
    | ">>" => return .file slot .append word
    | "<>" => return .file slot .readWrite word
    | ">&" | "<&" =>
      match plainText? word with
      | some ['-'] => return .copy slot none
      | some [digit] =>
        if digit.isDigit then return .copy slot (some (digit.toNat - '0'.toNat))
        else return .copyNamed slot word
      | _ => return .copyNamed slot word
    | _ =>
      let source ← get
      let request : Request := ⟨source.nextDocument, writtenText word, sign = "<<-", !quoted⟩
      set { source with
        requests := source.requests ++ [request]
        nextDocument := source.nextDocument + 1 }
      return .document slot request.number
  | token => Reading.unexpected token none

/-- Reads the redirections behind a command. The number bounds how many there may be. -/
def readRedirects (list : ListReader) : Nat → Lookout → Reading (List Redirect)
  | 0, _ => return []
  | steps + 1, lookout => do
    match ← readToken list lookout with
    | .arrow slot sign =>
      let redirect ← readRedirect list slot sign
      return redirect :: (← readRedirects list steps .nothing)
    | token =>
      Reading.pushBack token
      return []

/-! ### Commands -/

/-- The statement that does nothing, in place of a list that is missing at the end of a script. -/
def emptyStatement : Statement := .simple 0 [] [] []

/-- Reads a list that has to hold something. -/
def readFilled (list : ListReader) : Reading Statement := do
  return (← list .filled).getD emptyStatement

/-- Reads a branch after its keyword. The number bounds how many alternatives may follow. -/
def readBranch (list : ListReader) : Nat → Reading Statement
  | 0 => return emptyStatement
  | steps + 1 => do
    let condition ← readFilled list
    expectKeyword list .nothing "then"
    let accepted ← readFilled list
    match ← readToken list .nothing with
    | .keyword "elif" => return .branch condition accepted (some (← readBranch list steps))
    | .keyword "else" => return .branch condition accepted (← list .filled)
    | token =>
      Reading.pushBack token
      return .branch condition accepted none

/-- Reads the words that a loop goes through, up to the end of the line or a semicolon. -/
def readLoopWords (list : ListReader) : Nat → Reading (List Word)
  | 0 => return []
  | steps + 1 => do
    match ← readToken list .nothing with
    | .word word _ => return word :: (← readLoopWords list steps)
    | .newline => return []
    | .semicolon => return []
    | token => Reading.unexpected token none

/-- The words of a loop that names none: the positional parameters. -/
def loopParameters : Word := [.quote, .parameter ['@'] .value [], .quote]

/-- Reads a loop over words after its keyword. -/
def readForEach (list : ListReader) (line : Nat) : Reading Statement := do
  let name ← match ← readToken list .nothing with
    | .word word false =>
      match plainText? word with
      | some name => if isName name then pure name else badName
      | none => badName
    | _ => badName
  let words ← match ← readToken list .laterCommand with
    | .keyword "in" => readLoopWords list Reading.patience
    | .semicolon => pure [loopParameters]
    | token =>
      Reading.pushBack token
      pure [loopParameters]
  expectKeyword list .laterCommand "do"
  return .forEach line name words (← readFilled list)
where
  /-- Complains about the name. -/
  badName : Reading Characters := Reading.fail "Syntax error: Bad for loop variable"

/-- The word that a token of a pattern stands for. -/
def patternWord : Token → Word
  | .word word _ => word
  | .keyword text => text.toList.map (.character · false)
  | _ => []

/-- Reads the patterns of a case, from the token of the first one on. -/
def readPatterns (list : ListReader) : Nat → Token → Reading (List Word)
  | 0, _ => return []
  | steps + 1, token => do
    match ← readToken list .nothing with
    | .pipe =>
      let following ← readToken list .nothing
      return patternWord token :: (← readPatterns list steps following)
    | .closing => return [patternWord token]
    | other => Reading.unexpected other (some .closing)

/-- Reads the cases of a choice. -/
def readCases (list : ListReader) : Nat → Reading (List (List Word × Option Statement))
  | 0 => return []
  | steps + 1 => do
    match ← readToken list .laterKeyword with
    | .keyword "esac" => return []
    | token =>
      let first ← match token with
        | .opening => readToken list .nothing
        | _ => pure token
      let patterns ← readPatterns list Reading.patience first
      let body ← list .free
      match ← readToken list .laterKeyword with
      | .keyword "esac" => return [(patterns, body)]
      | .endCase => return (patterns, body) :: (← readCases list steps)
      | other => Reading.unexpected other (some .endCase)

/-- Reads a choice after its keyword. -/
def readChoice (list : ListReader) (line : Nat) : Reading Statement := do
  match ← readToken list .nothing with
  | .word subject _ =>
    expectKeyword list .laterCommand "in"
    return .choose line subject (← readCases list Reading.patience)
  | token => Reading.unexpected token (some (.word [] false))

/-- Commands whose names cannot be those of functions. -/
def specialNames : List String :=
  [".", ":", "break", "continue", "eval", "exec", "exit", "export", "readonly", "return", "set",
    "shift", "times", "trap", "unset"]

/-- What was read of a simple command, the latest first. -/
structure SimpleParts where
  assignments : List Word
  words : List Word
  redirects : List Redirect

/-- The statement that the parts of a simple command make. -/
def SimpleParts.statement (parts : SimpleParts) (line : Nat) : Statement :=
  .simple line parts.assignments.reverse parts.words.reverse parts.redirects.reverse

/-- Reads the rest of a simple command. If it is the start of a function, the body is read by the
reader that is given. The number bounds how many parts may follow. -/
def readSimple (list : ListReader) (body : Reading Statement) (line : Nat) :
    Nat → SimpleParts → Reading Statement
  | 0, parts => return parts.statement line
  | steps + 1, parts => do
    let lookout := { Lookout.nothing with aliases := parts.words.isEmpty }
    let token ← readToken list lookout
    match token with
    | .word word _ =>
      let isAssignment := parts.words.isEmpty && (assignment? word).isSome
      let parts := if isAssignment then { parts with assignments := word :: parts.assignments }
        else { parts with words := word :: parts.words }
      readSimple list body line steps parts
    | .arrow slot sign =>
      let redirect ← readRedirect list slot sign
      readSimple list body line steps { parts with redirects := redirect :: parts.redirects }
    | _ =>
      match token, parts with
      | .opening, ⟨[], [word], []⟩ =>
        match ← readToken list .nothing with
        | .closing =>
          let name := (plainText? word).getD []
          if !isName name || specialNames.contains (String.ofList name) then
            Reading.fail "Syntax error: Bad function name"
          let line := (← get).line
          return .define line name (← body)
        | other => Reading.unexpected other (some .closing)
      | _, _ =>
        Reading.pushBack token
        return parts.statement line

/-- Reads the redirections behind a compound command. -/
def withRedirects (list : ListReader) (line : Nat) (statement : Statement) :
    Reading Statement := do
  let redirects ← readRedirects list Reading.patience .command
  match redirects, statement with
  | [], _ => return statement
  | _, .subshell line body _ => return .subshell line body redirects
  | _, _ => return .redirected line statement redirects

/-- Reads a command. The number bounds how many functions may be defined within each other without
anything around them. -/
def readCommand (list : ListReader) : Nat → Lookout → Reading Statement
  | 0, _ => return emptyStatement
  | bodies + 1, lookout => do
    let line := (← get).line
    let token ← readToken list lookout
    match token with
    | .keyword "if" =>
      let branch ← readBranch list Reading.patience
      expectKeyword list .nothing "fi"
      withRedirects list line branch
    | .keyword "while" | .keyword "until" =>
      let condition ← readFilled list
      expectKeyword list .nothing "do"
      let body ← readFilled list
      expectKeyword list .nothing "done"
      let wanted := match token with
        | .keyword "while" => true
        | _ => false
      withRedirects list line (.loop wanted condition body)
    | .keyword "for" =>
      let loop ← readForEach list line
      expectKeyword list .nothing "done"
      withRedirects list line loop
    | .keyword "case" => withRedirects list line (← readChoice list line)
    | .keyword "\x7b" =>
      let body ← readFilled list
      expectKeyword list .nothing "\x7d"
      withRedirects list line body
    | .opening =>
      let body ← readFilled list
      match ← readToken list .nothing with
      | .closing => withRedirects list line (.subshell line body [])
      | other => Reading.unexpected other (some .closing)
    | .word _ _ | .arrow _ _ =>
      Reading.pushBack token
      let line := (← get).line
      readSimple list (readCommand list bodies .laterCommand) line Reading.patience
        ⟨[], [], []⟩
    | _ => Reading.unexpected token none

/-! ### Lists -/

/-- Reads the commands of a pipe after the first one. The number bounds how many there may be. -/
def readPiped (list : ListReader) : Nat → Reading (List Statement)
  | 0 => return []
  | steps + 1 => do
    match ← readToken list .nothing with
    | .pipe =>
      let command ← readCommand list Reading.patience .laterCommand
      return command :: (← readPiped list steps)
    | token =>
      Reading.pushBack token
      return []

/-- Reads a pipeline, with the exclamation mark in front of it. -/
def readPipeline (list : ListReader) (lookout : Lookout) : Reading Statement := do
  let token ← readToken list lookout
  let (negated, lookout) ← match token with
    | .keyword "!" => pure (true, Lookout.command)
    | _ => do
      Reading.pushBack token
      pure (false, Lookout.nothing)
  let command ← readCommand list Reading.patience lookout
  let piped ← readPiped list Reading.patience
  let statement := if piped.isEmpty then command else .pipe (command :: piped) false
  return if negated then .negate statement else statement

/-- Reads the pipelines that follow one after a double sign. The number bounds how many there may
be. -/
def readConnected (list : ListReader) : Nat → Statement → Reading Statement
  | 0, first => return first
  | steps + 1, first => do
    match ← readToken list .nothing with
    | .both => readConnected list steps (.both first (← readPipeline list .laterCommand))
    | .either => readConnected list steps (.either first (← readPipeline list .laterCommand))
    | token =>
      Reading.pushBack token
      return first

/-- A statement that runs while the script goes on. -/
def inBackground (line : Nat) : Statement → Statement
  | .pipe commands _ => .pipe commands true
  | .redirected line body redirects => .background line body redirects
  | statement => .background line statement []

/-- Adds a statement to those that were read. -/
def following (first : Option Statement) (second : Statement) : Option Statement :=
  match first with
  | none => some second
  | some first => some (.sequence first second)

/-- Whether a list ends before a token. -/
def endsList : Token → Bool
  | .endOfFile => true
  | .newline => true
  | .closing => true
  | .endCase => true
  | .keyword text =>
    ["\x7d", "do", "done", "elif", "else", "esac", "fi", "then"].contains text
  | _ => false

/-- Reads the statements of a list after those that were read. The number bounds how many there may
be. -/
def readStatements (list : ListReader) (shape : ListShape) :
    Nat → Option Statement → Reading (Option Statement)
  | 0, found => return found
  | steps + 1, found => do
    let isLine := shape = .line
    let token ← readToken list (if isLine then .command else .laterCommand)
    match token with
    | .newline =>
      readDocuments list
      return found
    | .endOfFile => endList found
    | _ =>
      Reading.pushBack token
      let mayEnd := shape = .free || (shape = .filled && found.isSome)
      if mayEnd && endsList token then return found
      let first ← readPipeline list .nothing
      let statement ← readConnected list Reading.patience first
      let line := (← get).line
      let after ← readToken list .nothing
      match after with
      | .background =>
        readStatements list shape steps (following found (inBackground line statement))
      | .semicolon => readStatements list shape steps (following found statement)
      | .newline =>
        Reading.pushBack after
        readStatements list shape steps (following found statement)
      | .endOfFile => endList (following found statement)
      | _ =>
        if isLine then Reading.unexpected after none
        Reading.pushBack after
        return following found statement
where
  /-- Ends a list at the end of the script. -/
  endList (found : Option Statement) : Reading (Option Statement) := do
    readDocuments list
    Reading.pushBack .endOfFile
    return found

/-- Reads a list. The number bounds how deep lists may stand within each other. -/
def readList : Nat → ListReader
  | 0 => fun _ => Reading.fail "Syntax error: too deep"
  | depth + 1 => fun shape => do
    readStatements (readList depth) shape Reading.patience none

/-- What reading a line gives: a statement, nothing, or the end of the script. -/
inductive Line where
  | statement (statement : Statement)
  | empty
  | finished

/-- Reads the next line. -/
def readLine : Reading Line := do
  modify fun source => { source with pushed := none, requests := [] }
  let statement ← readList Reading.patience .line
  match statement, (← get).pushed with
  | some statement, _ => return .statement statement
  | none, some .endOfFile => return .finished
  | none, _ => return .empty

end PipelineShell.Script
