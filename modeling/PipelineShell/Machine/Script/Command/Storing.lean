/-
Commands that change what a script knows: variables, parameters, options and short names.
-/

import PipelineShell.Machine.Script.Command

namespace PipelineShell.Script.Command

/-! ### Variables -/

/-- A word that may hold a value behind an equals sign: the name and the value. -/
def nameAndValue (word : Characters) : Characters × Option Characters :=
  let name := word.takeWhile (· ≠ '=')
  match word.dropWhile (· ≠ '=') with
  | _ :: value => (name, some value)
  | [] => (name, none)

/-- Lists variables, sorted by name, each behind a word if one is given. -/
def listVariables (front : String) (chosen : Binding → Bool) : Running Unit := do
  let context ← Running.context
  let shown := (context.store.filter fun (_, binding) => chosen binding).mergeSort
    fun first second => !(decide (second.1 < first.1))
  shown.forM fun (name, binding) =>
    let value := match binding.value with
      | some value => '=' :: quoted value
      | none => []
    Running.emitLine ((if front.isEmpty then [] else front.toList ++ [' ']) ++ name ++ value)

/-- Marks variables, and gives values to those that come with one. -/
def markVariables (front : String) (chosen : Binding → Bool) (mark : Binding → Binding) :
    Command := fun _ words => do
  let names ← if startsWith 'p' words then pure [] else noOptions words
  if names.isEmpty then listVariables front chosen
  else
    names.forM fun word => do
      let (name, value) := nameAndValue word
      let known := Association.get? name (← Running.context).store
      match value, known with
      | none, some _ => pure ()
      | _, _ => Running.bind (← Running.nameOf word) value false false
      Running.change fun context => { context with
        store := match Association.get? name context.store with
          | some binding => Association.put name (mark binding) context.store
          | none => context.store }
  return 0

/-- Lets programs see variables. -/
def exportVariables : Command :=
  markVariables "export" Binding.exported fun binding => { binding with exported := true }

/-- Fixes variables. -/
def fixVariables : Command :=
  markVariables "readonly" Binding.fixed fun binding => { binding with fixed := true }

/-- Makes variables those of the function that is running. A dash stands for the options. -/
def makeLocal : Command := fun _ words => do
  if (← Running.context).frames.isEmpty then Running.fail "not in a function".toList
  words.forM fun word => do
    if word = ['-'] then
      Running.change fun context => { context with
        frames := match context.frames with
          | frame :: frames => (.settings context.settings :: frame) :: frames
          | [] => [] }
    else
      let (name, value) := nameAndValue word
      Running.localize name value false
  return 0

/-- Removes variables or functions. -/
def unsetNames : Command := fun _ words => do
  let (found, names) ← options [('v', false), ('f', false)] words
  names.forM fun name =>
    if found.getLast?.map Prod.fst = some 'f' then
      Running.change fun context => { context with
        functions := Association.erase name context.functions }
    else Running.unset name
  return 0

/-! ### Options and parameters -/

/-- The names of all options, in the order in which they are listed. -/
def optionNames : List String := optionLetters.map Prod.fst ++ ["nolog", "debug"]

/-- Sets or unsets an option. -/
def setOption (value : Bool) (name : String) : Running Unit :=
  Running.change fun context =>
    let others := context.settings.filter (· ≠ name)
    let others := if value && name = "vi" then others.filter (· ≠ "emacs")
      else if value && name = "emacs" then others.filter (· ≠ "vi") else others
    { context with settings := if value then others ++ [name] else others }

/-- Turns control over jobs off again, which needs a terminal. A process that the script started
for itself does not try to have it. -/
def checkMonitor : Running Unit := do
  let context ← Running.context
  if context.settings.contains "monitor" && context.activity.pid = context.root then
    Running.warn "can't access tty; job control turned off".toList
    setOption false "monitor"

/-- Sets or unsets the option with a letter. -/
def setLetter (value : Bool) (letter : Char) : Running Unit := do
  match optionLetters.find? fun (_, other) => other = letter with
  | some (name, _) => setOption value name
  | none => Running.fail ("Illegal option -".toList ++ [letter])

/-- Lists the options. -/
def listOptions (asCommands : Bool) : Running Unit := do
  let settings := (← Running.context).settings
  if !asCommands then Running.emit "Current option settings\n".toList
  optionNames.forM fun name =>
    let on := settings.contains name
    if asCommands then
      Running.emitLine ((if on then "set -o " else "set +o ").toList ++ name.toList)
    else
      let gap := List.replicate (16 - name.length) ' '
      Running.emitLine (name.toList ++ gap ++ (if on then "on" else "off").toList)

/-- Sets or unsets an option by its name, or lists the options if there is none. -/
def setNamed (value : Bool) : List Characters → Running (List Characters)
  | [] => do
    listOptions (!value)
    return []
  | name :: rest => do
    if optionNames.contains (String.ofList name) then setOption value (String.ofList name)
    else Running.fail ("Illegal option -o ".toList ++ name)
    return rest

/-- Sets or unsets options by their letters. Gives the words behind them. -/
def setLetters (value : Bool) : Characters → List Characters → Running (List Characters)
  | [], rest => return rest
  | letter :: letters, rest => do
    if letter = 'o' then setLetters value letters (← setNamed value rest)
    else
      setLetter value letter
      setLetters value letters rest

/-- Sets options from words. Gives the words behind them, and whether they replace the parameters
even if there are none. The number bounds how many words there may be. -/
def setFromWords : Nat → List Characters → Running (List Characters × Bool)
  | 0, words => return (words, false)
  | steps + 1, words => do
    match words with
    | ['-'] :: rest =>
      setOption false "xtrace"
      setOption false "verbose"
      return (rest, false)
    | ['-', '-'] :: rest => return (rest, true)
    | ('-' :: letters) :: rest => setFromWords steps (← setLetters true letters rest)
    | ('+' :: letters) :: rest => setFromWords steps (← setLetters false letters rest)
    | _ => return (words, false)

/-- Replaces the parameters. -/
def setParameters (parameters : List Characters) : Running Unit :=
  Running.change fun context => { context with parameters, optionIndex := 1, optionOffset := none }

/-- Sets options and parameters, or lists the variables. -/
def setAll : Command := fun _ words => do
  if words.isEmpty then listVariables "" fun binding => binding.value.isSome
  else
    let (parameters, replaces) ← setFromWords (words.length + 1) words
    checkMonitor
    if replaces || !parameters.isEmpty then setParameters parameters
  return 0

/-- Drops parameters from the front. -/
def shiftParameters : Command := fun _ words => do
  let count ← match words with
    | [] => pure 1
    | word :: _ => Running.natural word
  let parameters := (← Running.context).parameters
  if parameters.length < count then Running.fail "can't shift that many".toList
  setParameters (parameters.drop count)
  return 0

/-! ### Short names -/

/-- Shows what a short name stands for. -/
def showAlias (name text : Characters) : Characters := name ++ '=' :: quoted text

/-- Writes that a short name is unknown. -/
def unknownAlias (command : String) (name : Characters) : Running Unit :=
  Running.print .errors (command.toList ++ ": ".toList ++ name ++ " not found\n".toList)

/-- Gives short names to texts, or shows them. -/
def defineAliases : Command := fun _ words => do
  if words.isEmpty then
    let groups := (← Running.context).aliases.mergeSort fun first second =>
      Context.group first.1 ≤ Context.group second.1
    groups.forM fun (name, text) => Running.emitLine (showAlias name text)
    return 0
  else
    let outcomes ← words.mapM fun word => do
      let name := word.take 1 ++ (word.drop 1).takeWhile (· ≠ '=')
      match (word.drop 1).dropWhile (· ≠ '=') with
      | _ :: text =>
        Running.change fun context => { context with
          aliases := Association.put name text context.aliases }
        return true
      | [] =>
        match Association.get? word (← Running.context).aliases with
        | some text =>
          Running.emitLine (showAlias word text)
          return true
        | none =>
          unknownAlias "alias" word
          return false
    return if outcomes.all id then 0 else 1

/-- Removes short names. -/
def removeAliases : Command := fun _ words => do
  if startsWith 'a' words then
    Running.change fun context => { context with aliases := [] }
    return 0
  let names ← noOptions words
  let outcomes ← names.mapM fun name => do
    match Association.get? name (← Running.context).aliases with
    | some _ =>
      Running.change fun context => { context with
        aliases := Association.erase name context.aliases }
      return true
    | none =>
      unknownAlias "unalias" name
      return false
  return if outcomes.all id then 0 else 1

end PipelineShell.Script.Command
