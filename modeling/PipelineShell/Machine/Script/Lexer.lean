/-
Reading words.

A word is read character by character. What a character means depends on where it stands: outside
of quotes, between weak or strong quotes, or in arithmetic. References with braces may hold words of
their own, so these places form a stack.
-/

import PipelineShell.Machine.Script.Source

namespace PipelineShell.Script

/-- Where a character stands. -/
inductive Place where
  | base
  | weak
  | strong
  | arithmetic
  deriving DecidableEq, Repr

/-- A level of the stack of places. -/
structure Level where
  place : Place
  /-- Whether weak quotes stand inside the braces of a reference. -/
  innerQuotes : Bool
  /-- Whether the level ends with the braces of a reference. -/
  forReference : Bool
  /-- Whether the level counts as weakly quoted. -/
  quoted : Bool
  /-- How many references with braces are open. -/
  references : Nat
  parentheses : Nat
  /-- How many of the open references were opened between quotes. -/
  quotedReferences : Nat

/-- A level without anything open in it. -/
def Level.at (place : Place) (forReference : Bool) : Level :=
  ⟨place, false, forReference, place ≠ .base, 0, 0, 0⟩

/-- A construct that was opened, with the pieces in front of it. -/
inductive Opened where
  | reference (name : Characters) (treatment : Treatment) (before : List Piece)
  | arithmetic (before : List Piece)

/-- A word while it is read. Pieces are kept in reverse. -/
structure Lexing where
  level : Level
  outer : List Level
  opened : List Opened
  pieces : List Piece
  /-- Whether anything was quoted. -/
  quoted : Bool

namespace Lexing

/-- Adds a piece. -/
def add (lexing : Lexing) (piece : Piece) : Lexing :=
  { lexing with pieces := piece :: lexing.pieces }

/-- Adds a character. -/
def put (lexing : Lexing) (character : Char) (escaped : Bool) : Lexing :=
  lexing.add (.character character escaped)

/-- Goes into a new level. -/
def descend (lexing : Lexing) (level : Level) : Lexing :=
  { lexing with level, outer := lexing.level :: lexing.outer }

/-- Goes back to the level around. -/
def ascend (lexing : Lexing) : Lexing :=
  match lexing.outer with
  | [] => lexing
  | level :: outer => { lexing with level, outer }

/-- Closes the construct that was opened last. -/
def close (lexing : Lexing) : Lexing :=
  match lexing.opened with
  | [] => lexing
  | .reference name treatment before :: opened =>
    { lexing with
      opened, pieces := .parameter name treatment lexing.pieces.reverse :: before }
  | .arithmetic before :: opened =>
    { lexing with opened, pieces := .arithmetic lexing.pieces.reverse :: before }

/-- Opens a construct. -/
def begin (lexing : Lexing) (construct : List Piece → Opened) : Lexing :=
  { lexing with opened := construct lexing.pieces :: lexing.opened, pieces := [] }

/-- Adds a quote, unless the text is a here-document. -/
def mark (lexing : Lexing) (inDocument : Bool) : Lexing :=
  if inDocument then lexing else lexing.add .quote

/-- Remembers that weak quotes start or end inside the braces of a reference. -/
def toggle (lexing : Lexing) : Lexing :=
  if lexing.level.references = 0 then lexing
  else { lexing with level := { lexing.level with innerQuotes := !lexing.level.innerQuotes } }

/-- Closes a reference with braces. -/
def endReference (lexing : Lexing) : Lexing :=
  let level := lexing.level
  let references := level.references - 1
  let closed := lexing.close
  if references = 0 ∧ level.forReference then closed.ascend
  else
    { closed with
      level := { level with
        references
        quotedReferences := level.quotedReferences - 1 } }

/-- Ends quotes. -/
def endQuotes (lexing : Lexing) (inDocument : Bool) (character : Char) : Lexing :=
  let lexing :=
    if lexing.level.quotedReferences = 0 then
      { lexing with level := { lexing.level with place := .base, quoted := false } }
    else lexing
  let lexing := { lexing with quoted := true }
  (if character = weakQuote then lexing.toggle else lexing).mark inDocument

end Lexing

/-- How reading a word goes on: with another character, with the start of another line, or not at
all. -/
inductive Progress where
  | more (lexing : Lexing)
  | line (lexing : Lexing)
  | done (lexing : Lexing) (character : Option Char)

/-- What a list of statements may look like: a line, a list that holds something, or any list. -/
inductive ListShape where
  | line
  | filled
  | free
  deriving DecidableEq, Repr

/-- Reads a list of statements. -/
abbrev ListReader := ListShape → Reading (Option Statement)

/-! ### References -/

/-- Takes characters for as long as they belong. Gives the first one that does not. The first
argument bounds the number of steps. -/
def takeJoined (belongs : Char → Bool) : Nat → Option Char → Reading (Characters × Option Char)
  | 0, character => return ([], character)
  | steps + 1, character =>
    match character with
    | some first =>
      if belongs first then do
        let (rest, after) ← takeJoined belongs steps (← Reading.nextJoined)
        return (first :: rest, after)
      else return ([], character)
    | none => return ([], none)

/-- The name of a parameter between braces: the name, whether its length is asked for, and the
character behind it. Nothing if there is no name. -/
def readBracedName (character : Option Char) :
    Reading (Option (Characters × Bool) × Option Char) := do
  let steps := Reading.patience
  let named (character : Option Char) (length : Bool) :
      Reading (Option (Characters × Bool) × Option Char) := do
    if character.any isNameStart then
      let (name, after) ← takeJoined isNameRest steps character
      return (some (name, length), after)
    else
      let (name, after) ← takeJoined Char.isDigit steps character
      return (some (name, length), after)
  if character.any fun first => isNameStart first || first.isDigit then named character false
  else if character = some '\x7d' then return (none, character)
  else
    let after ← Reading.nextJoined
    let (sign, after, length) ← if character = some '#' then
        if after.any isNameRest then return ← named after true
        else do
          let second ← Reading.nextJoined
          if after = some '\x7d' ∨ second ≠ some '\x7d' then do
            Reading.putBack second
            pure (some '#', after, false)
          else pure (after, second, true)
      else pure (character, after, false)
    match sign with
    | some sign =>
      if isSpecial sign then return (some ([sign], length), after) else return (none, after)
    | none => return (none, after)

/-- What a reference with braces does, from the character behind the name on. -/
def readTreatment (character : Option Char) : Reading (Treatment × Bool) := do
  let simple (colon : Bool) (character : Option Char) : Treatment × Bool :=
    match character with
    | some '\x7d' => (.value, !colon)
    | some '-' => (.fallback colon, false)
    | some '+' => (.alternative colon, false)
    | some '?' => (.demand colon, false)
    | some '=' => (.assign colon, false)
    | _ => (.bad, false)
  let trim (sign : Char) : Reading Bool := do
    let second ← Reading.nextJoined
    if second = some sign then return true
    Reading.putBack second
    return false
  match character with
  | some ':' => return simple true (← Reading.nextJoined)
  | some '%' => return (.trimEnd (← trim '%'), false)
  | some '#' => return (.trimStart (← trim '#'), false)
  | _ => return simple false character

/-- Whether a treatment cuts something off, so that its word is a pattern. -/
def Treatment.trims : Treatment → Bool
  | .trimStart _ => true
  | .trimEnd _ => true
  | _ => false

/-- Opens a reference with braces. -/
def Lexing.beginReference (lexing : Lexing) (name : Characters) (treatment : Treatment) :
    Lexing :=
  let level := lexing.level
  let place :=
    if treatment.trims then .base
    else if level.place = .arithmetic then .weak
    else level.place
  let lexing := lexing.begin (.reference name treatment)
  let lexing :=
    if place ≠ level.place ∨ level.innerQuotes then lexing.descend (.at place true) else lexing
  { lexing with
    level := { lexing.level with
      references := lexing.level.references + 1
      quotedReferences :=
        if lexing.level.quoted then lexing.level.quotedReferences + 1
        else lexing.level.quotedReferences } }

/-- Reads a reference with braces after the opening one. -/
def readBraced (lexing : Lexing) : Reading Lexing := do
  let (name, after) ← readBracedName (← Reading.nextJoined)
  match name with
  | none =>
    Reading.putBack after
    return lexing.beginReference [] .bad
  | some (name, true) =>
    Reading.putBack after
    return lexing.beginReference name (if after = some '\x7d' then .length else .bad)
  | some (name, false) =>
    match ← readTreatment after with
    | (.value, true) => return lexing.add (.parameter name .value [])
    | (treatment, _) => return lexing.beginReference name treatment

/-! ### Outputs of scripts -/

/-- The script up to the mark that closes it. A backslash makes the character after it an ordinary
one if it has a meaning here. The first argument bounds the number of steps. -/
def untilOutputQuote (quoted : Bool) : Nat → Reading Characters
  | 0 => Reading.fail "Syntax error: EOF in backquote substitution"
  | steps + 1 => do
    match ← Reading.nextJoined with
    | none => Reading.fail "Syntax error: EOF in backquote substitution"
    | some character =>
      if character = outputQuote then return []
      else if character = '\\' then
        match ← Reading.next with
        | none => Reading.fail "Syntax error: EOF in backquote substitution"
        | some following =>
          let plain := following = '\\' || following = '$' || following = outputQuote ||
            (quoted && following = weakQuote)
          let rest ← untilOutputQuote quoted steps
          return if plain then following :: rest else '\\' :: following :: rest
      else
        if character = '\n' then Reading.countLine
        return character :: (← untilOutputQuote quoted steps)

/-- Reads a script between output quotes. It is read as a text of its own. -/
def readQuotedScript (list : ListReader) (quoted : Bool) : Reading Piece := do
  let script ← untilOutputQuote quoted Reading.patience
  let outside ← get
  set { outside with
    input := script, beyond := [], continues := false, line := 1, pushed := none, requests := []
    substitutions := [] }
  let statement ← list .free
  let inside ← get
  set { outside with documents := inside.documents, nextDocument := inside.nextDocument }
  return .output statement

/-! ### Characters -/

/-- Characters that are escaped between quotes, so that they have no meaning in patterns. -/
def isQuotable (character : Char) : Bool := "!*?[=~:/-]".toList.contains character

/-- Characters that end a word outside of quotes. -/
def endsWord (character : Char) : Bool := "<>();&| \t".toList.contains character

/-- Reads what follows a backslash. -/
def readBackslash (inDocument : Bool) (lexing : Lexing) : Reading Lexing := do
  let level := lexing.level
  match ← Reading.next with
  | none => return lexing.put '\\' true
  | some character =>
    let kept := level.quoted && character ≠ '\\' && character ≠ outputQuote && character ≠ '$' &&
      (character ≠ weakQuote || (inDocument && level.references = 0)) &&
      (character ≠ '\x7d' || level.references = 0)
    let lexing := if kept then lexing.put '\\' true else lexing
    return { lexing.put character true with quoted := true }

/-- Makes sure that a script between parentheses ended with the closing one, where reading its list
stopped. -/
def endOutput : Reading Unit := do
  match ← Reading.takePushed with
  | some .closing => return
  | token => Reading.unexpected (token.getD .endOfFile) (some .closing)

/-- Reads what follows a dollar sign. -/
def readDollar (list : ListReader) (inMark : Bool) (lexing : Lexing) :
    Reading Lexing := do
  let character ← Reading.nextJoined
  let refers := character.any fun first =>
    first = '(' || first = '\x7b' || isNameStart first || isSpecial first
  if inMark ∨ ¬refers then
    Reading.putBack character
    return lexing.put '$' false
  else if character = some '(' then
    let second ← Reading.nextJoined
    if second = some '(' then
      return (lexing.begin .arithmetic).descend { Level.at .arithmetic false with quoted := true }
    else
      Reading.putBack second
      let requests := (← get).requests
      modify fun source => { source with requests := [] }
      let statement ← list .free
      endOutput
      modify fun source => { source with requests }
      return lexing.add (.output statement)
  else if character = some '\x7b' then readBraced lexing
  else if character.any isNameStart then
    let (name, after) ← takeJoined isNameRest Reading.patience character
    Reading.putBack after
    return lexing.add (.parameter name .value [])
  else return lexing.add (.parameter character.toList .value [])

/-- Reads one character of a word. -/
def readCharacter (list : ListReader) (inDocument inMark : Bool)
    (character : Char) (lexing : Lexing) : Reading Progress := do
  let level := lexing.level
  let place := level.place
  let ends : Bool := (place = .weak && character = weakQuote) ||
    (place = .strong && character = strongQuote)
  if character = '\n' then
    if place = .base ∧ level.references = 0 then return .done lexing (some character)
    Reading.countLine
    return .line (lexing.put character false)
  else if ends then
    if inDocument ∧ level.references = 0 then return .more (lexing.put character false)
    else return .more (lexing.endQuotes inDocument character)
  else if place = .strong then
    let special := isQuotable character || character = '\\'
    return .more (lexing.put character (special && (!inDocument || level.quoted)))
  else if character = '\\' then return .more (← readBackslash inDocument lexing)
  else if character = '$' then return .more (← readDollar list inMark lexing)
  else if character = outputQuote then
    if inMark then return .more { lexing.put character false with quoted := true }
    else return .more (lexing.add (← readQuotedScript list level.quoted))
  else if character = '\x7d' then
    if !level.innerQuotes && 0 < level.references then return .more lexing.endReference
    else return .more (lexing.put character false)
  else
    match place with
    | .base =>
      if character = strongQuote then
        let lexing := { lexing with level := { level with place := .strong } }
        return .more (lexing.mark inDocument)
      else if character = weakQuote then
        let lexing := { lexing with level := { level with place := .weak, quoted := true } }
        return .more (lexing.toggle.mark inDocument)
      else if endsWord character ∧ level.references = 0 then
        return .done lexing (some character)
      else return .more (lexing.put character false)
    | .weak =>
      return .more (lexing.put character (isQuotable character && (!inDocument || level.quoted)))
    | .arithmetic =>
      if character = '(' then
        return .more { lexing.put character false with
          level := { level with parentheses := level.parentheses + 1 } }
      else if character = ')' then
        if 0 < level.parentheses then
          return .more { lexing.put character false with
            level := { level with parentheses := level.parentheses - 1 } }
        else
          let second ← Reading.nextJoined
          if second = some ')' then return .more lexing.close.ascend
          else
            Reading.putBack second
            return .more (lexing.put character false)
      else return .more (lexing.put character false)
    | .strong => return .more (lexing.put character false)

/-! ### Words and here-documents -/

/-- Looks whether a line of a here-document is the one that ends it, and drops its tabs if asked to.
Gives the first character of the line, or nothing at the end. -/
def startDocumentLine (request : Request) (first : Option Char) : Reading (Option Char) := do
  Reading.putBack first
  let source ← get
  let line :=
    if request.stripsTabs then source.input.dropWhile (· = '\t') else source.input
  if source.continues && line.length ≤ request.mark.length && !line.contains '\n' then
    throw .starved
  set { source with input := line }
  match request.mark.isPrefixOf? line with
  | some [] =>
    set { source with input := [] }
    return none
  | some ('\n' :: rest) =>
    set { source with input := rest, line := source.line + 1 }
    return none
  | _ => Reading.next

/-- The character after what was read of a word. -/
def Lexing.following (lexing : Lexing) : Reading (Option Char) :=
  if lexing.level.place = .strong then Reading.next else Reading.nextJoined

/-- Reads characters up to the end of a word or here-document. The first argument bounds the number
of steps. -/
def readPieces (list : ListReader) (request : Option Request) (inMark : Bool) :
    Nat → (fresh : Bool) → Option Char → Lexing → Reading (Lexing × Option Char)
  | 0, _, character, lexing => return (lexing, character)
  | steps + 1, fresh, character, lexing => do
    let character ← match request, fresh with
      | some request, true => startDocumentLine request character
      | _, _ => pure character
    match character with
    | none => return (lexing, none)
    | some character =>
      match ← readCharacter list request.isSome inMark character lexing with
      | .done lexing character => return (lexing, character)
      | .line lexing => readPieces list request inMark steps true (← lexing.following) lexing
      | .more lexing => readPieces list request inMark steps false (← lexing.following) lexing

/-- Complains about what is still open at the end of a word. -/
def checkClosed (inDocument : Bool) (lexing : Lexing) : Reading Unit := do
  if lexing.level.place = .arithmetic then Reading.fail "Syntax error: Missing '))'"
  if lexing.level.place ≠ .base ∧ ¬inDocument then
    Reading.fail "Syntax error: Unterminated quoted string"
  if 0 < lexing.level.references then Reading.fail "Syntax error: Missing '\x7d'"

/-- Reads the text of a here-document. -/
def readDocument (list : ListReader) (request : Request) :
    Reading Unit := do
  let place := if request.expands then .weak else .strong
  let level := { Level.at place false with quoted := request.expands }
  let first ← if request.expands then Reading.nextJoined else Reading.next
  let (lexing, _) ← readPieces list (some request) false Reading.patience true first
    ⟨level, [], [], [], false⟩
  checkClosed true lexing
  modify fun source => { source with
    documents := (request.number, ⟨lexing.pieces.reverse, request.expands⟩) :: source.documents }

/-- Reads the here-documents that were asked for. -/
def readDocuments (list : ListReader) : Reading Unit := do
  let requests := (← get).requests
  modify fun source => { source with requests := [] }
  requests.forM (readDocument list)

/-- The sign of a redirection after its first character. -/
def readArrow (first : Char) : Reading String := do
  let second ← Reading.nextJoined
  let sign (text : String) : Reading String := pure text
  match first, second with
  | '>', some '>' => sign ">>"
  | '>', some '|' => sign ">|"
  | '>', some '&' => sign ">&"
  | '<', some '&' => sign "<&"
  | '<', some '>' => sign "<>"
  | '<', some '<' =>
    let third ← Reading.nextJoined
    if third = some '-' then sign "<<-"
    else
      Reading.putBack third
      sign "<<"
  | _, _ =>
    Reading.putBack second
    sign (String.ofList [first])

/-- Reads a word or a redirection that starts with a character. -/
def readWord (list : ListReader) (inMark : Bool) (first : Char) :
    Reading Token := do
  let (lexing, after) ← readPieces list none inMark Reading.patience false (some first)
    ⟨.at .base false, [], [], [], false⟩
  checkClosed false lexing
  let word := lexing.pieces.reverse
  let slot? : Option (Option Nat) := match word with
    | [] => some none
    | [.character digit false] =>
      if digit.isDigit then some (some (digit.toNat - '0'.toNat)) else none
    | _ => none
  match slot?, after, lexing.quoted with
  | some slot, some '>', false => return .arrow (slot.getD 1) (← readArrow '>')
  | some slot, some '<', false => return .arrow (slot.getD 0) (← readArrow '<')
  | _, _, _ =>
    Reading.putBack after
    return .word word lexing.quoted

end PipelineShell.Script
