/-
Running scripts.

A statement is carried out by going through its parts. What carries out the parts is handed on, so
that every function here goes one level down only; the levels are counted. A script that goes too
deep stops where it is.
-/

import PipelineShell.Machine.Script.Command.Limiting
import PipelineShell.Machine.Script.Command.Naming

namespace PipelineShell.Script

/-! ### Commands that run something -/

namespace Command

/-- Ends the script. -/
def exit : Command := fun _ words => do
  let context ← Running.context
  match words with
  | word :: _ => Running.setStatus (← Running.natural word)
  | [] => Running.setStatus (context.heldStatus.getD context.status)
  throw .exit

/-- Ends the function or file that is running. -/
def return' : Command := fun _ words => do
  let status ← match words with
    | word :: _ => Running.natural word
    | [] => pure (← Running.context).status
  Running.change fun context => { context with skip := .returning (!words.isEmpty) }
  return status

/-- Leaves loops, or goes on with their next round. -/
def leaveLoops (skip : Nat → Skip) : Command := fun _ words => do
  let levels ← match words with
    | word :: _ => do
      let levels ← Running.natural word
      if levels = 0 then Running.badNumber word
      pure levels
    | [] => pure 1
  let levels := min levels (← Running.context).loops
  if 0 < levels then Running.change fun context => { context with skip := skip levels }
  return 0

/-- Runs its words as a text. -/
def evaluateWords (manner : Manner) : Command := fun engine words => do
  if words.isEmpty then return 0
  Running.runText engine manner (List.intercalate [' '] words)

/-- The file that is meant by a name that is to be read. -/
def fileToRead (name : Characters) : Running Characters := do
  if name.contains '/' then return name
  let context ← Running.context
  let tree := (← Process.kernel).tree
  let isThere (file : Characters) : Bool :=
    tree.isFile context.activity.directory (Tool.ofCharacters file)
  match (candidates (context.path false) name).find? isThere with
  | some file => return file
  | none => Running.fail (name ++ ": not found".toList)

/-- Opens a file that holds a script. It is kept out of the way of the slots that scripts use. -/
def openScript (file : Characters) : Running Handle := do
  let context ← Running.context
  match ← context.activity.openFile (Tool.ofCharacters file) .reading with
  | .ok handle =>
    match keepingRefusal context.saved.length context.activity.allowances with
    | none => return handle
    | some errno =>
      releaseAll [handle]
      Running.fail (Arithmetic.decimal (firstFree context.activity.slots) ++ ": ".toList ++
        errno.sentence.toList)
  | .error errno =>
    Running.fail ("cannot open ".toList ++ file ++ ": ".toList ++ (openReason errno).toList)

/-- Runs a script that is read piece by piece, up to a statement that ends it. -/
def runFile (engine : Engine) (supply : Supply) (prompt : Nat → Running Unit) : Running Nat := do
  let status ← Running.runSupply engine supply prompt
  Running.change fun context => match context.skip with
    | .returning _ => { context with skip := .nothing }
    | _ => context
  return status

/-- Runs a file in the script itself. -/
def source : Command := fun engine words => do
  match ← noOptions words with
  | [] => return 0
  | name :: _ =>
    let file ← fileToRead name
    let script ← openScript file
    Running.change fun context => { context with command := some file }
    let status ← runFile engine (.file script) fun _ => return
    releaseAll [script]
    return status

/-- Becomes a program, or does nothing without one. -/
def replace : Command := fun _ words => do
  if !words.isEmpty then becomeProgram ((← Running.context).path false) 0 words
  return 0

/-- Shows how much time was used: none. -/
def showTimes : Command := fun _ _ => do
  Running.emit "0m0.000000s 0m0.000000s\n0m0.000000s 0m0.000000s\n".toList
  return 0

/-- Does nothing, with a status. -/
def nothing (status : Nat) : Command := fun _ _ => return status

/-- The command with a name that the script carries out itself. -/
def own? (manner : Manner) : String → Option Command
  | "." => some source
  | ":" => some (nothing 0)
  | "[" => some bracket
  | "alias" => some defineAliases
  | "bg" => some continueJob
  | "break" => some (leaveLoops .breaking)
  | "cd" => some changeDirectory
  | "chdir" => some changeDirectory
  | "command" => some describeOne
  | "continue" => some (leaveLoops .continuing)
  | "echo" => some echo
  | "eval" => some (evaluateWords manner)
  | "exec" => some replace
  | "exit" => some exit
  | "export" => some exportVariables
  | "false" => some (nothing 1)
  | "fg" => some continueJob
  | "getopts" => some getOption
  | "hash" => some rememberPrograms
  | "jobs" => some listJobs
  | "kill" => some kill
  | "local" => some makeLocal
  | "printf" => some printf
  | "pwd" => some printDirectory
  | "read" => some readLineInto
  | "readonly" => some fixVariables
  | "return" => some return'
  | "set" => some setAll
  | "shift" => some shiftParameters
  | "test" => some test
  | "times" => some showTimes
  | "trap" => some trap
  | "true" => some (nothing 0)
  | "type" => some describeAll
  | "ulimit" => some limit
  | "umask" => some changeMask
  | "unalias" => some removeAliases
  | "unset" => some unsetNames
  | "wait" => some wait
  | _ => none

end Command

/-! ### Simple commands -/

/-- The words of a simple command, as far as they tell what it is. -/
structure Invocation where
  /-- The words, without those that only say where to look for the command. -/
  words : List Characters
  /-- Whether functions do not count. -/
  plain : Bool
  /-- Whether the usual search path counts. -/
  standard : Bool
  /-- Whether `command` is run to describe a name. -/
  describes : Bool

/-- Leaves out the words in front of a command that only say where to look for it. The number bounds
how many there may be. -/
def invocation : Nat → Invocation → Invocation
  | 0, found => found
  | steps + 1, found =>
    match found.words with
    | word :: rest =>
      if word = "command".toList then
        match options rest false with
        | some (words, standard) =>
          if words.isEmpty then { found with describes := true }
          else invocation steps ⟨words, true, found.standard || standard, false⟩
        | none => { found with describes := true }
      else found
    | [] => found
where
  /-- Reads the options in front of the command. Nothing if there are others. -/
  options : List Characters → Bool → Option (List Characters × Bool)
    | ['-', '-'] :: rest, standard => some (rest, standard)
    | ('-' :: letter :: letters) :: rest, _ =>
      if (letter :: letters).all (· = 'p') then options rest true else none
    | words, standard => some (words, standard)

/-- The invocation that words make up. -/
def Invocation.ofWords (words : List Characters) : Invocation :=
  invocation (words.length + 1) ⟨words, false, false, false⟩

/-- What the first word of an invocation stands for. -/
inductive Meaning where
  | nothing
  | own (name : String)
  | function (body : Statement)
  | program
  deriving Inhabited

/-- Finds out what an invocation stands for. -/
def Invocation.meaning (found : Invocation) (context : Context) : Meaning :=
  match found.words with
  | [] => .nothing
  | name :: _ =>
    let function := if found.plain then none else Association.get? name context.functions
    if name.contains '/' then .program
    else
      match function with
      | some (_, body) => .function body
      | none => if Command.isOwn name then .own (String.ofList name) else .program

/-- Whether the words of a command so far make it one that assigns. -/
def assigns (words : List Characters) : Running Bool := do
  match (Invocation.ofWords words).meaning (← Running.context) with
  | .own name => return Command.assigningNames.contains name
  | _ => return false

/-- Expands the words of a simple command. Behind a command that assigns, a word that is an
assignment stays one word. The words that were found so far come with the latest first. -/
def expandWords (engine : Engine) : List Characters → List Word → Running (List Characters)
  | found, [] => return found.reverse
  | found, word :: rest => do
    let fields ← match assignment? word with
      | some (name, value) => do
        if ← assigns found.reverse then
          let value ← expandAssigned engine value
          pure [name ++ '=' :: value]
        else expandFields engine word
      | none => expandFields engine word
    expandWords engine (fields.reverse ++ found) rest

/-- Prints a command before it is run, if that is asked for. -/
def traceCommand (engine : Engine) (slots : Table) (words : List Characters) : Running Unit := do
  let context ← Running.context
  if context.settings.contains "xtrace" then
    let settings := context.settings
    Command.setOption false "xtrace"
    let front ← expandPrompt engine ((context.value? "PS4".toList).getD [])
    Running.change fun context => { context with settings }
    let line := front ++ List.intercalate [' '] words ++ ['\n']
    let _ ← Running.writeTo slots .errors line

/-- Runs a command that the script carries out itself. -/
def runOwn (engine : Engine) (manner : Manner) (name : String) (words : List Characters) :
    Running Unit := do
  let before := (← Running.context).command
  let command := (Command.own? manner name).getD (Command.nothing 127)
  Running.change fun context => { context with command := some name.toList }
  let outcome ← Running.attempt do
    let status ← command engine words
    let delivered ← Running.deliverHeld
    if !delivered then Running.warn (name.toList ++ ": I/O error".toList)
    Running.setStatus (status ||| (if delivered then 0 else 1))
  modify fun state => { state with held := [] }
  Running.change fun context => { context with command := before }
  Running.resume outcome

/-- How many functions may run within each other. -/
def callLimit : Nat := 1000

/-- Runs a function. -/
def runFunction (engine : Engine) (manner : Manner) (body : Statement)
    (parameters : List Characters) : Running Unit := do
  let before ← Running.context
  if callLimit ≤ before.calls then
    Running.fail ("Maximum function recursion depth (".toList ++ Arithmetic.decimal callLimit ++
      ") reached".toList)
  Running.change fun context => { context with
    parameters, optionIndex := 1, optionOffset := none, loops := 0, calls := before.calls + 1 }
  let outcome ← Running.attempt (engine.run manner.inner body)
  Running.change fun context => { context with
    parameters := before.parameters
    optionIndex := before.optionIndex
    optionOffset := before.optionOffset
    loops := before.loops
    calls := before.calls
    skip := match context.skip with
      | .returning _ => .nothing
      | skip => skip }
  Running.resume outcome

/-- Runs a program, in a process of its own unless this one ends with it. -/
def runProgram (engine : Engine) (manner : Manner) (found : Invocation) : Running Unit := do
  let context ← Running.context
  let name := found.words.headD []
  let path := context.path found.standard
  let position ← if name.contains '/' then pure (.ok 0) else findProgram found.standard name
  match position with
  | .error errno =>
    Running.warn (name ++ ": ".toList ++ startReason errno)
    Running.setStatus 127
  | .ok position =>
    if manner.last && !context.hasTraps then becomeProgram path position found.words
    else
      let _ ← Running.claimJobNumber
      let ending ← Running.runProcess engine (becomeProgram path position found.words)
      Running.report ending
      Running.setStatus (Running.statusOf ending)

/-- Gives values to variables in front of a command: for the command only, or for good. Gives the
assignments as words. -/
def assignAll (engine : Engine) (forCommand exported : Bool) (assignments : List Word) :
    Running (List Characters) :=
  (assignments.filterMap assignment?).mapM fun (name, word) => do
    let value ← expandAssigned engine word
    if forCommand then Running.localize name (some value) true
    else Running.bind name (some value) exported false
    return name ++ '=' :: value

/-- Runs a simple command whose words were expanded and whose slots are redirected. `before` are the
slots as they were. -/
def runExpanded (engine : Engine) (manner : Manner) (before : Table) (assignments : List Word)
    (words : List Characters) : Running Unit := do
  let found := Invocation.ofWords words
  let meaning := found.meaning (← Running.context)
  let keeps := match meaning with
    | .nothing => true
    | .own _ => Command.isSpecial (words.headD [])
    | _ => false
  let replaces := match meaning with
    | .own name => name = "exec" && 1 < found.words.length
    | _ => false
  let depth := (← Running.context).frames.length
  if !keeps then Running.enterFrame
  let assigned ← assignAll engine (!keeps) replaces assignments
  traceCommand engine before (assigned ++ words)
  match found.meaning (← Running.context) with
  | .nothing => Running.setStatus (← Running.context).outputStatus
  | .own name =>
    match ← Running.attempt (runOwn engine manner name (found.words.drop 1)) with
    | .ok _ => pure ()
    | .error stop => if stop ≠ .failure || keeps then throw stop
  | .function body => runFunction engine manner body (words.drop 1)
  | .program => runProgram engine manner found
  Running.leaveFrames depth

/-- Runs a simple command. -/
def runSimple (engine : Engine) (manner : Manner) (line : Nat) (assignments words : List Word)
    (redirects : List Redirect) : Running Unit := do
  Running.change fun context => { context with line, outputStatus := 0 }
  let words ← expandWords engine [] words
  let directions ← redirects.mapM (expandRedirect engine)
  let before ← Running.context
  let special := Command.isSpecial (words.headD []) &&
    (match (Invocation.ofWords words).meaning (← Running.context) with
      | .own _ => true
      | _ => false)
  let stays : Bool := match (Invocation.ofWords words).meaning (← Running.context) with
    | .own name => name = "exec"
    | _ => false
  if ← directAll engine directions then
    let outcome ← Running.attempt
      (runExpanded engine manner before.activity.slots assignments words)
    match stays, outcome with
    | true, .ok _ => forgetSlots before directions
    | _, _ => restoreSlots before directions
    Running.resume outcome
  else
    Running.setStatus 2
    if special then throw .failure

/-! ### Loops -/

/-- What a skip means for the loop in which it is met. -/
inductive Fate where
  | nothing
  | next
  | leave
  | returns (given : Bool)
  deriving DecidableEq, Repr

/-- Takes one level from a skip. -/
def passLoop : Running Fate := do
  match (← Running.context).skip with
  | .nothing => return .nothing
  | .returning given => return .returns given
  | .breaking levels =>
    change (if levels ≤ 1 then .nothing else .breaking (levels - 1))
    return .leave
  | .continuing levels =>
    if levels ≤ 1 then
      change .nothing
      return .next
    else
      change (.continuing (levels - 1))
      return .leave
where
  /-- Replaces the skip. -/
  change (skip : Skip) : Running Unit :=
    Running.change fun context => { context with skip }

/-- Runs a loop with a condition, and gives its status. The number bounds how many rounds it may
have. -/
def runLoop (engine : Engine) (manner : Manner) (wanted : Bool)
    (condition body : Statement) : Nat → (status : Nat) → Running Nat
  | 0, _ => throw .exhausted
  | rounds + 1, status => do
    engine.run .condition condition
    let tested := (← Running.context).status
    match ← passLoop with
    | .next => runLoop engine manner wanted condition body rounds status
    | .leave => return status
    | .returns given => return if given then tested else status
    | .nothing =>
      if (tested = 0) ≠ wanted then return status
      engine.run manner.inner body
      let status := (← Running.context).status
      match ← passLoop with
      | .nothing | .next => runLoop engine manner wanted condition body rounds status
      | _ => return status

/-- Runs a body for words, and gives its status. -/
def runForEach (engine : Engine) (manner : Manner) (name : Characters) (body : Statement) :
    List Characters → (status : Nat) → Running Nat
  | [], status => return status
  | word :: rest, _ => do
    Running.assign name word
    engine.run manner.inner body
    let status := (← Running.context).status
    match ← passLoop with
    | .nothing | .next => runForEach engine manner name body rest status
    | _ => return status

/-- Runs a step inside a loop. -/
def inLoop (step : Running Nat) : Running Unit := do
  Running.change fun context => { context with loops := context.loops + 1 }
  let status ← step
  Running.change fun context => { context with loops := context.loops - 1 }
  Running.setStatus status

/-! ### Choices -/

/-- Whether one of some patterns accepts a text. -/
def acceptsAny (engine : Engine) (subject : Characters) : List Word → Running Bool
  | [] => return false
  | word :: rest => do
    if Pattern.accepts (← expandPattern engine word) subject then return true
    else acceptsAny engine subject rest

/-- The body of the first case whose patterns accept a text. -/
def chooseCase (engine : Engine) (subject : Characters) :
    List (List Word × Option Statement) → Running (Option Statement)
  | [] => return none
  | (patterns, body) :: rest => do
    if ← acceptsAny engine subject patterns then return body
    else chooseCase engine subject rest

/-! ### Statements -/

/-- Runs a statement in a process of its own, unless this one ends with it. -/
def runSubshell (engine : Engine) (manner : Manner) (line : Nat) (body : Statement)
    (redirects : List Redirect) : Running Unit := do
  Running.change fun context => { context with line }
  let directions ← redirects.mapM (expandRedirect engine)
  let inside : Running Unit := do
    directions.forM (direct engine)
    engine.run ⟨manner.tested, true⟩ body
  if manner.last && !(← Running.context).hasTraps then inside
  else
    let _ ← Running.claimJobNumber
    let ending ← Running.runProcess engine inside
    Running.report ending
    Running.setStatus (Running.statusOf ending)

/-- Runs a statement in the background. -/
def runBehind (engine : Engine) (line : Nat) (body : Statement) (redirects : List Redirect) :
    Running Unit := do
  if !redirects.isEmpty then Running.change fun context => { context with line }
  let directions ← redirects.mapM (expandRedirect engine)
  let inside : Running Unit := do
    directions.forM (direct engine)
    engine.run ⟨false, true⟩ body
  Running.startJob fun adjust => return [← Running.fork engine true adjust inside]
  Running.setStatus 0

/-- Looks for the program that a command of a pipe runs, so that the script knows where it is. Only
a name that is written plainly is looked for. -/
def rememberPiped : Statement → Running Unit
  | .simple _ _ (word :: _) _ => do
    match plainText? word with
    | none => return
    | some name =>
      let context ← Running.context
      if isName name then
        match (Invocation.ofWords [name]).meaning context with
        | .program =>
          let _ ← findProgram false name
        | _ => return
  | _ => return

/-- Runs a pipe: each command in a process of its own. -/
def runPipe (engine : Engine) (manner : Manner) (commands : List Statement) : Running Unit := do
  let _ ← Running.claimJobNumber
  let pids ← Running.startPiped engine false manner.tested id rememberPiped none commands
  Running.await pids false
  let endings ← pids.mapM Running.takeEnding
  endings.forM Running.report
  Running.setStatus (Running.statusOf (endings.getLast?.getD (.exited 0)))

/-- Runs a statement whose slots are redirected. Tells whether that was possible. -/
def runRedirected (engine : Engine) (manner : Manner) (line : Nat) (body : Statement)
    (redirects : List Redirect) : Running Bool := do
  Running.change fun context => { context with line }
  let directions ← redirects.mapM (expandRedirect engine)
  let before ← Running.context
  if ← directAll engine directions then
    let outcome ← Running.attempt (engine.run manner.inner body)
    restoreSlots before directions
    Running.resume outcome
    return true
  else
    Running.setStatus 2
    return false

/-- Carries out a statement, without what is done before and after every one. Tells whether a
failure ends the script if that is asked for. -/
def carryOut (engine : Engine) (manner : Manner) (statement : Statement) : Running Bool := do
  let isSkipping : Running Bool := return (← Running.context).skip ≠ .nothing
  match statement with
  | .simple line assignments words redirects =>
    runSimple engine manner line assignments words redirects
    return true
  | .pipe commands background =>
    if background then
      Running.startJob fun adjust =>
        Running.startPiped engine true false adjust rememberPiped none commands
      Running.setStatus 0
    else runPipe engine manner commands
    return true
  | .redirected line body redirects =>
    return !(← runRedirected engine manner line body redirects)
  | .background line body redirects =>
    runBehind engine line body redirects
    return true
  | .subshell line body redirects =>
    runSubshell engine manner line body redirects
    return true
  | .both first second =>
    engine.run .condition first
    if (← Running.context).status = 0 && !(← isSkipping) then engine.run manner second
    return false
  | .either first second =>
    engine.run .condition first
    if (← Running.context).status ≠ 0 && !(← isSkipping) then engine.run manner second
    return false
  | .sequence first second =>
    engine.run manner.inner first
    if !(← isSkipping) then engine.run manner second
    return false
  | .negate body =>
    engine.run .condition body
    if !(← isSkipping) then
      Running.setStatus (if (← Running.context).status = 0 then 1 else 0)
    return false
  | .branch condition accepted rejected =>
    engine.run .condition condition
    if !(← isSkipping) then
      if (← Running.context).status = 0 then engine.run manner accepted
      else
        match rejected with
        | some rejected => engine.run manner rejected
        | none => Running.setStatus 0
    return false
  | .loop wanted condition body =>
    inLoop (runLoop engine manner wanted condition body Process.patience 0)
    return false
  | .forEach line name words body =>
    Running.change fun context => { context with line }
    let words ← expandAll engine words
    inLoop (runForEach engine manner name body words 0)
    return false
  | .choose line subject cases =>
    Running.change fun context => { context with line }
    let subject ← expandText engine .text true subject
    match ← chooseCase engine subject cases with
    | some body => engine.run manner body
    | none => Running.setStatus 0
    return false
  | .define line name body =>
    Running.change fun context => { context with
      functions := Association.put name (line, body) context.functions }
    Running.setStatus 0
    return false

/-- Carries out a statement. Signals are handled before and after it. -/
def evaluate (engine : Engine) (manner : Manner) (statement : Statement) : Running Unit := do
  Running.pause .nothing
  if ← Running.isSet "noexec" then return
  Running.openMail
  Running.handleSignals engine
  let checks ← carryOut engine manner statement
  Running.handleSignals engine
  let failed := (← Running.context).status ≠ 0
  if checks && !manner.tested && failed && (← Running.isSet "errexit") then throw .finish
  if manner.last then throw .finish

/-- Carries out statements, to a depth. -/
def evaluateTo : Nat → Manner → Statement → Running Unit
  | 0, _, _ => throw .exhausted
  | depth + 1, manner, statement => evaluate ⟨evaluateTo depth⟩ manner statement

/-- How deep statements may be carried out. -/
def depthLimit : Nat := 40000

/-- What carries out statements. -/
def engine : Engine := ⟨evaluateTo depthLimit⟩

end PipelineShell.Script
