/-
The machine's `sh`.

Its arguments are options and then a text, a file or nothing, in which case it reads its input. The
words behind them are the parameters. If it is the first program that somebody runs, which its name
or an option says, it runs two files before all else: one of the system and one of the user.
-/

import PipelineShell.Machine.Script.Runner

namespace PipelineShell.Script

/-! ### The first context -/

/-- The variables that are there before anything else is known. -/
def standardBindings : List (Characters × Binding) :=
  standardNames.map fun name =>
    let value := match name with
      | "OPTIND" => some "1".toList
      | "PS4" => some "+ ".toList
      | "PS2" => some "> ".toList
      | "PS1" => some "# ".toList
      | "PATH" => some defaultPath
      | "IFS" => some defaultSeparators
      | _ => none
    (name.toList, ⟨value, false, false⟩)

/-- The name and the value of an entry of an environment that can be a variable. -/
def entryVariable? (entry : Bytes) : Option (Characters × Characters) :=
  let text := Tool.characters entry
  let name := text.takeWhile (· ≠ '=')
  match text.dropWhile (· ≠ '=') with
  | _ :: value => if isName name then some (name, value) else none
  | [] => none

/-- The store with the variables of an environment. -/
def storeOf (environment : List Bytes) : List (Characters × Binding) :=
  (environment.filterMap entryVariable?).foldl (fun store (name, value) =>
    Association.put name ⟨some value, true, false⟩ store) standardBindings

/-- The context in which a script starts. -/
def Context.first (activity : Activity) (tree : FileTree) : Context :=
  let store := storeOf activity.environment
  let exported (name : String) : Bool :=
    (Association.get? name.toList store).any Binding.exported
  let keep (name : String) (value : Characters) (store : List (Characters × Binding)) :=
    Association.put name.toList ⟨some value, exported name, false⟩ store
  let known := (Association.get? "PWD".toList store).bind Binding.value
  let isHere (path : Characters) : Bool := path.head? = some '/' &&
    (match tree.directoryAt activity.directory (Tool.ofCharacters path) with
      | .ok location => location = activity.directory
      | .error _ => false)
  let physical := Command.pathOf activity.directory
  let given := known.filter isHere
  let directory := given.getD physical
  let store := keep "OPTIND" "1".toList store
  let store := keep "IFS" defaultSeparators store
  let store := keep "PPID" (Arithmetic.decimal activity.parent) store
  let store := Association.put "PWD".toList ⟨some directory, true, false⟩ store
  { activity
    saved := []
    root := activity.pid
    name := Tool.characters activity.name
    directory
    physical := if given.isSome then none else some physical
    parameters := []
    optionIndex := 1
    optionOffset := none
    store
    frames := []
    functions := []
    aliases := []
    found := []
    traps := []
    arrived := []
    alerted := false
    heldStatus := none
    settings := []
    status := 0
    outputStatus := 0
    line := 0
    reached := 1
    scriptReached := 1
    scriptFile := none
    command := none
    documents := []
    nextDocument := 0
    loops := 0
    calls := 0
    skip := .nothing
    latest := none }

/-! ### Arguments -/

/-- Lists the options while they are being set: one that nothing was said about counts as set. -/
def listUnset (value : Bool) : Running Unit := do
  let settings := (← Running.context).settings
  Running.change fun context => { context with settings := Command.optionNames }
  Command.listOptions (!value)
  Running.change fun context => { context with settings }

/-- What the options in front of the arguments ask for. -/
structure Asked where
  /-- Whether a text follows. -/
  text : Bool
  /-- Whether it is the first program that somebody runs. -/
  login : Bool

/-- What the letters of an option word ask for. -/
def startLetters (value : Bool) :
    Characters → List Characters → Running (Asked × List Characters)
  | [], rest => return (⟨false, false⟩, rest)
  | letter :: letters, rest => do
    if letter = 'c' then
      let (asked, rest) ← startLetters value letters rest
      return ({ asked with text := true }, rest)
    else if letter = 'l' then
      let (asked, rest) ← startLetters value letters rest
      return ({ asked with login := true }, rest)
    else if letter = 'o' then
      if rest.isEmpty then listUnset value
      startLetters value letters (← if rest.isEmpty then pure [] else Command.setNamed value rest)
    else
      Command.setLetter value letter
      startLetters value letters rest

/-- Reads the option words in front of the arguments. The number bounds how many there may be. -/
def startOptions : Nat → Asked → List Characters → Running (Asked × List Characters)
  | 0, asked, words => return (asked, words)
  | steps + 1, asked, words => do
    let goOn (value : Bool) (letters : Characters) (rest : List Characters) :
        Running (Asked × List Characters) := do
      let (found, rest) ← startLetters value letters rest
      startOptions steps ⟨asked.text || found.text, asked.login || found.login⟩ rest
    match words with
    | ['-'] :: rest => return (asked, rest)
    | ['-', '-'] :: rest => return (asked, rest)
    | ('-' :: letters) :: rest => goOn true letters rest
    | ('+' :: letters) :: rest => goOn false letters rest
    | _ => return (asked, words)

/-- Sets the name and the parameters. -/
def setArguments (name : Option Characters) (parameters : List Characters) : Running Unit :=
  Running.change fun context => { context with
    name := name.getD context.name, parameters }

/-! ### Prompts -/

/-- Asks for the lines of a statement, if somebody is there to answer. -/
def showPrompts (lines : Nat) : Running Unit := do
  if ← Running.isSet "interactive" then
    let prompt (name : String) : Running Unit := do
      let text := ((← Running.context).value? name.toList).getD []
      Running.print .errors (← expandPrompt engine text)
    prompt "PS1"
    (List.range (lines - 1)).forM fun _ => prompt "PS2"

/-- How often the end of the script is overlooked if that is asked for. -/
def overlookLimit : Nat := 50

/-- Says something about the end of the script, if somebody is there to read it. -/
def sayFarewell : Running Unit := do
  if ← Running.isSet "ignoreeof" then
    (List.range overlookLimit).forM fun index => do
      if 0 < index then showPrompts 1
      Running.print .errors "\nUse \"exit\" to leave shell.\n".toList
    showPrompts 1
  else if ← Running.isSet "interactive" then Running.print .errors ['\n']

/-- Forgets what a failure left behind. -/
def recover : Running Unit := do
  Running.leaveFrames 0
  Running.change fun context => { context with
    skip := .nothing, loops := 0, calls := 0, command := none, heldStatus := none }

/-- Runs a script that is read piece by piece. Where somebody is there to see it, a failure does not
end the script; only what was read of it is lost. The number bounds how often that may happen. -/
def runOpen (supply : Supply) : Nat → Running Unit
  | 0 => throw .exhausted
  | failures + 1 => do
    match ← Running.attempt (Running.runSupply engine supply showPrompts) with
    | .ok _ =>
      if (← Running.context).skip = .nothing then sayFarewell
      else Running.change fun context => { context with skip := .nothing }
    | .error .failure =>
      if ← Running.isSet "interactive" then
        recover
        runOpen supply failures
      else throw .failure
    | .error stop => throw stop

/-- Runs a text that was given as an argument, and then the input if that is asked for by now. -/
def runGiven (text : Characters) : Running Unit := do
  match ← Running.attempt (Running.runText engine .plain text) with
  | .ok _ => if ← Running.isSet "stdin" then runOpen .input Process.patience
  | .error .failure =>
    if ← Running.isSet "interactive" then
      recover
      runOpen .input Process.patience
    else throw .failure
  | .error stop => throw stop

/-- Runs a file in preparation, if it can be read. -/
def runProfile (file : Characters) : Running Unit := do
  match ← (← Running.context).activity.openFile (Tool.ofCharacters file) .reading with
  | .error _ => return
  | .ok script =>
    let outcome ← Running.attempt (Command.runFile engine (.file script) fun _ => return)
    releaseAll [script]
    match outcome with
    | .ok _ => return
    | .error .failure => if ← Running.isSet "interactive" then recover else throw .failure
    | .error stop => throw stop

/-- The file of the system that the first program that somebody runs starts with. -/
def systemProfile : Characters := "/etc/profile".toList

/-- The same of the user, after the home directory. -/
def userProfile : Characters := "/.profile".toList

/-- Runs the files that are to be run before anything else: those for the first program that
somebody runs, and the one that a variable names if somebody is there. -/
def runPreparation (login : Bool) : Running Unit := do
  if login then
    runProfile systemProfile
    runProfile (((← Running.context).value? "HOME".toList).getD [] ++ userProfile)
  if ← Running.isSet "interactive" then
    let file ← expandPrompt engine (((← Running.context).value? "ENV".toList).getD [])
    if !file.isEmpty then runProfile file

/-- Looks at the variables that came with the environment. Messages do not know the name of the
script yet. -/
def checkEnvironment : Running Unit := do
  let context ← Running.context
  let name := context.name
  Running.change fun context => { context with name := "sh".toList }
  (context.activity.environment.filterMap entryVariable?).forM fun (name, value) =>
    Running.noticeChange name (some value)
  Running.change fun context => { context with name, optionIndex := 1, optionOffset := none }

/-- Runs what the arguments ask for. -/
def start : Running Unit := do
  checkEnvironment
  let context ← Running.context
  let words := context.activity.operands.map Tool.characters
  let named := context.name.head? = some '-'
  let (asked, rest) ← startOptions (words.length + 1) ⟨false, named⟩ words
  let _ ← Running.deliverHeld
  let fromInput := (← Running.isSet "stdin") || rest.isEmpty
  let interactive ← Running.isSet "interactive"
  let prepare : Running Unit := do
    if interactive then Command.setOption true "monitor"
    Command.checkMonitor
    runPreparation asked.login
  match asked.text, rest with
  | true, [] => Running.fail "-c requires an argument".toList
  | true, text :: rest =>
    setArguments rest.head? (rest.drop 1)
    prepare
    runGiven text
  | false, rest =>
    if fromInput then
      Command.setOption true "stdin"
      setArguments none rest
      prepare
      runOpen .input Process.patience
    else
      let script ← Command.openScript (rest.headD [])
      Running.change fun context => { context with scriptFile := some script }
      setArguments rest.head? (rest.drop 1)
      prepare
      runOpen (.file script) Process.patience

/-- Runs `sh` in a process. -/
def shell (activity : Activity) : Process Ending := do
  let context := Context.first activity (← Process.kernel).tree
  Running.asProcess engine context start

end PipelineShell.Script
