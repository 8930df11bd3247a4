/-
Expansion of words.

References, arithmetic and outputs of scripts are replaced by what they stand for. The result is
split into fields, and fields that are patterns are replaced by the files they stand for. What was
quoted is neither split nor taken for a pattern.
-/

import PipelineShell.Machine.Script.Glob
import PipelineShell.Machine.Script.Process

namespace PipelineShell.Script

/-- What a word is expanded for. -/
structure Purpose where
  /-- Whether it is split into fields. -/
  fields : Bool
  /-- Whether quotes are remembered, for fields and for patterns. -/
  pattern : Bool
  quoted : Bool
  /-- Whether the word stands in a reference, so that what is written in it is split, too. -/
  inner : Bool
  /-- Whether a tilde counts behind a colon. -/
  colons : Bool

namespace Purpose

/-- A word as one text. -/
def text : Purpose := ⟨false, false, false, false, false⟩

/-- A word of a command. -/
def command : Purpose := ⟨true, true, false, false, false⟩

/-- A pattern. -/
def matching : Purpose := ⟨false, true, false, false, false⟩

/-- A value that is assigned. -/
def assigned : Purpose := ⟨false, false, false, false, true⟩

/-- A here-document. -/
def document : Purpose := ⟨false, false, true, false, false⟩

end Purpose

/-! ### Parameters -/

/-- The options that have a letter, by name. -/
def optionLetters : List (String × Char) :=
  [("errexit", 'e'), ("noglob", 'f'), ("ignoreeof", 'I'), ("interactive", 'i'), ("monitor", 'm'),
    ("noexec", 'n'), ("stdin", 's'), ("xtrace", 'x'), ("verbose", 'v'), ("vi", 'V'),
    ("emacs", 'E'), ("noclobber", 'C'), ("allexport", 'a'), ("notify", 'b'), ("nounset", 'u'),
    ("privileged", 'p')]

/-- The positional parameters as one text. Where fields are wanted they stay apart. -/
def joinParameters (context : Context) (purpose : Purpose) (each : Bool) : Characters :=
  let separator : Characters :=
    if purpose.fields && each && purpose.quoted then [border]
    else
      match context.value? "IFS".toList with
      | none => [' ']
      | some separators =>
        if purpose.fields && !purpose.quoted then [border] else separators.take 1
  List.intercalate separator context.parameters

/-- The value of a parameter: a special one, a positional one or a variable. -/
def parameter? (context : Context) (purpose : Purpose) (name : Characters) :
    Option Characters :=
  match name with
  | ['$'] => some (Arithmetic.decimal context.root)
  | ['?'] => some (Arithmetic.decimal context.status)
  | ['#'] => some (Arithmetic.decimal context.parameters.length)
  | ['!'] => context.latest.map fun pid => Arithmetic.decimal pid
  | ['-'] =>
    some ((optionLetters.filter fun (option, _) => context.settings.contains option).map
      Prod.snd).reverse
  | ['@'] => some (joinParameters context purpose true)
  | ['*'] => some (joinParameters context purpose false)
  | _ =>
    if name.all Char.isDigit then
      match (Arithmetic.number? true name).getD 0 with
      | .ofNat 0 => some context.name
      | .ofNat (position + 1) => context.parameters[position]?
      | .negSucc _ => none
    else context.value? name

/-- The elements of a value. Characters that have a meaning in patterns lose it between quotes. -/
def valueElements (purpose : Purpose) (value : Characters) : List Element :=
  value.map fun character => .character character
    (purpose.pattern && purpose.quoted && (isQuotable character || character = '\\'))

/-- The segment of a value. -/
def valueSegment (context : Context) (purpose : Purpose) (name : Characters)
    (elements : List Element) : Segment :=
  let kind : SegmentKind :=
    if !purpose.quoted then .splits
    else if name = ['@'] && !context.parameters.isEmpty then .parts
    else .fixed
  ⟨kind, elements⟩

/-- The segment of something that is no parameter. -/
def resultSegment (purpose : Purpose) (value : Characters) : Segment :=
  ⟨if purpose.quoted then .fixed else .splits, valueElements purpose value⟩

/-- Stops because a parameter has no value. -/
def refuseUnset {α : Type} (name : Characters) : Running α :=
  Running.fail (name ++ ": parameter not set".toList)

/-! ### Tildes -/

/-- The name behind a tilde. Nothing if something other than a name is there. -/
def tildeName? (colons : Bool) : Word → Option Characters
  | [] => some []
  | .character '/' false :: _ => some []
  | .character character false :: rest =>
    if character = ':' ∧ colons then some []
    else (tildeName? colons rest).map (character :: ·)
  | _ => none

/-- The users that the system knows, and their home directories. -/
def homes : List (String × String) :=
  [("root", "/root"), ("daemon", "/usr/sbin"), ("bin", "/bin"), ("sys", "/dev"), ("sync", "/bin"),
    ("games", "/usr/games"), ("man", "/var/cache/man"), ("lp", "/var/spool/lpd"),
    ("mail", "/var/mail"), ("news", "/var/spool/news"), ("uucp", "/var/spool/uucp"),
    ("proxy", "/bin"), ("www-data", "/var/www"), ("backup", "/var/backups"), ("list", "/var/list"),
    ("irc", "/run/ircd"), ("_apt", "/nonexistent"), ("nobody", "/nonexistent")]

/-- The home directory of a user; without a name, that of the script. -/
def home? (name : Characters) : Running (Option Characters) := do
  if name.isEmpty then Running.value? "HOME".toList
  else return (Association.get? (String.ofList name) homes).map String.toList

/-! ### Words -/

/-- The signal for a division that has no result. -/
def divisionSignal : Nat := 8

/-- Evaluates an expression and carries out its assignments, also those before a failure. -/
def calculate (text : Characters) : Running Characters := do
  let context ← Running.context
  let (outcome, assigned) := Arithmetic.evaluate context.value? text
  assigned.forM fun (name, number) => Running.assign name (Arithmetic.decimal number)
  match outcome with
  | .error (.refused message) => Running.fail message
  | .error .overflow => throw (.ended (.killed ⟨divisionSignal⟩))
  | .ok value => return Arithmetic.decimal value

/-- Whether a value counts as missing. -/
def isMissing (colon : Bool) (value : Option Characters) : Bool :=
  match value with
  | none => true
  | some text => colon && text.isEmpty

/-- Expands a word into segments. `inQuotes` tells whether a quote is open, `tilde` whether a tilde
counts here, and `skip` how many characters were already dealt with. -/
def expandPieces (engine : Engine) (purpose : Purpose) (inQuotes tilde : Bool) (skip : Nat)
    (word : Word) : Running (List Segment) := do
  match word with
  | [] => return []
  | .character character escaped :: rest =>
    if 0 < skip then expandPieces engine purpose inQuotes false (skip - 1) rest
    else
      let name? := if tilde && character = '~' && !escaped then
          tildeName? purpose.colons rest
        else none
      let found ← match name? with
        | some name => do pure ((← home? name).map fun home => (name.length, home))
        | none => pure none
      match found with
      | some (length, home) =>
        let segments ← expandPieces engine purpose inQuotes false length rest
        return ⟨.fixed, valueElements { purpose with quoted := true } home⟩ :: segments
      | none =>
        let splits := purpose.inner && !purpose.quoted && !inQuotes && !escaped
        let follows := purpose.colons && character = ':' && !escaped
        let segments ← expandPieces engine purpose inQuotes follows 0 rest
        let segment : Segment :=
          ⟨if splits then .written else .fixed, [.character character escaped]⟩
        return segment.join segments
  | .quote :: .parameter name .value [] :: .quote :: rest =>
    if !inQuotes && name = ['@'] then
      -- The parameters alone between quotes: there is no field if there are none of them.
      let context ← Running.context
      let quoted := { purpose with quoted := true }
      let value := (parameter? context quoted name).getD []
      let segment := valueSegment context quoted name (valueElements quoted value)
      return segment :: (← expandPieces engine purpose inQuotes false 0 rest)
    else
      let segments ← expandPieces engine purpose (!inQuotes) false 0
        (.parameter name .value [] :: .quote :: rest)
      return ⟨.fixed, [.mark]⟩ :: segments
  | .quote :: rest =>
    return ⟨.fixed, [.mark]⟩ :: (← expandPieces engine purpose (!inQuotes) false 0 rest)
  | .arithmetic expression :: rest =>
    let here := { purpose with quoted := purpose.quoted || inQuotes }
    let text := Segment.wholeText (← expandPieces engine .text false false 0 expression)
    let value ← calculate text
    return resultSegment here value :: (← expandPieces engine purpose inQuotes false 0 rest)
  | .output script :: rest =>
    let here := { purpose with quoted := purpose.quoted || inQuotes }
    let value ← Running.capture engine script
    return resultSegment here value :: (← expandPieces engine purpose inQuotes false 0 rest)
  | .parameter name treatment body :: rest =>
    let here := { purpose with quoted := purpose.quoted || inQuotes }
    let context ← Running.context
    let value := parameter? context here name
    let segmentOf (text : Characters) : Segment :=
      valueSegment context here name (valueElements here text)
    let demanded : Running (List Segment) := do
      if context.settings.contains "nounset" then refuseUnset name else return []
    let own ← match treatment with
      | .bad => Running.fail "Bad substitution".toList
      | .value =>
        match value with
        | some text => pure [segmentOf text]
        | none => demanded
      | .length =>
        match value with
        | some text => pure [segmentOf (Arithmetic.decimal text.length)]
        | none => do
          let _ ← demanded
          pure [segmentOf ['0']]
      | .fallback colon =>
        if isMissing colon value then
          expandPieces engine { here with inner := true } false true 0 body
        else pure [segmentOf (value.getD [])]
      | .alternative colon =>
        if isMissing colon value then pure [segmentOf []]
        else expandPieces engine { here with inner := true } false true 0 body
      | .assign colon =>
        if isMissing colon value then do
          let text := Segment.wholeText (← expandPieces engine .text false true 0 body)
          Running.assign name text
          pure [segmentOf text]
        else pure [segmentOf (value.getD [])]
      | .demand colon =>
        if isMissing colon value then do
          let text := Segment.wholeText (← expandPieces engine .text false true 0 body)
          let message := if !body.isEmpty then text
            else "parameter not set".toList ++ (if colon then " or null".toList else [])
          Running.fail (name ++ ": ".toList ++ message)
        else pure [segmentOf (value.getD [])]
      | _ =>
        match value with
        | none => demanded
        | some text => do
          let pattern ← expandPieces engine .matching false true 0 body
          let kept := Pattern.cut (fun element => (textOf [element]).headD border) treatment
            (patternOf (pattern.flatMap Segment.elements)) (valueElements here text)
          pure [valueSegment context here name kept]
    return own ++ (← expandPieces engine purpose inQuotes false 0 rest)
termination_by sizeOf word

/-- A word as one text. -/
def expandText (engine : Engine) (purpose : Purpose) (tilde : Bool) (word : Word) :
    Running Characters := do
  return Segment.wholeText (← expandPieces engine purpose false tilde 0 word)

/-- A word as a pattern. -/
def expandPattern (engine : Engine) (word : Word) : Running Characters := do
  let segments ← expandPieces engine .matching false true 0 word
  return patternOf (segments.flatMap Segment.elements)

/-- A word of a command as fields. -/
def expandFields (engine : Engine) (word : Word) : Running (List Characters) := do
  let segments ← expandPieces engine .command false true 0 word
  let context ← Running.context
  let fields := splitFields context.separators none segments
  if context.settings.contains "noglob" || !context.activity.mayOpen 1 then
    return fields.map textOf
  else
    let tree := (← Process.kernel).tree
    return fields.flatMap (Glob.expand tree context.activity.directory)

/-- The words of a command as fields. -/
def expandAll (engine : Engine) (words : List Word) : Running (List Characters) := do
  return (← words.mapM (expandFields engine)).flatten

/-- The value of an assignment. -/
def expandAssigned (engine : Engine) (word : Word) : Running Characters :=
  expandText engine .assigned true word

/-- Reads a text as if it stood between quotes, and expands it. -/
def expandPrompt (engine : Engine) (text : Characters) : Running Characters := do
  let source ← Running.sourceOf []
  let source := { source with input := text, continues := false }
  let request : Request := ⟨0, [border], false, true⟩
  match (readDocument (readList (text.length + 1)) request).run source with
  | .error (.malformed _ message) => Running.fail message.toList
  | .error .starved => return []
  | .ok (_, after) =>
    let word := match after.documents with
      | (_, document) :: _ => document.text
      | [] => []
    expandText engine .document false word

end PipelineShell.Script
