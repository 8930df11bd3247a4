/-
Commands about signals and jobs.
-/

import PipelineShell.Machine.Script.Command

namespace PipelineShell.Script.Command

/-! ### Signals -/

/-- The highest number of a signal. -/
def lastSignal : Nat := 64

/-- The name of a signal. The number zero stands for the end. -/
def signalName (number : Nat) : String :=
  if number = 0 then "EXIT"
  else if number = 16 then "16"
  else if number ≤ 31 then (Signal.names[number - 1]?).getD ""
  else if number < 34 then toString number
  else if number = 34 then "RTMIN"
  else if number < 50 then "RTMIN+" ++ toString (number - 34)
  else if number < 64 then "RTMAX-" ++ toString (64 - number)
  else "RTMAX"

/-- The number of a signal that a word gives, by number or by name. -/
def signalOf? (least : Nat) (word : Characters) : Option Nat :=
  if word ≠ [] ∧ word.all Char.isDigit then
    let number := ((Arithmetic.digits? 10 word).map Prod.fst).getD 0
    if number ≤ lastSignal then some number else none
  else
    let wanted := word.map Char.toUpper
    (List.range (lastSignal + 1)).find? fun number =>
      least ≤ number && (signalName number).toList = wanted

/-- What `kill` says about itself. -/
def killUsage : Characters :=
  ("Usage: kill [-s sigspec | -signum | -sigspec] [pid | job]... or\n" ++
    "kill -l [exitstatus]").toList

/-- Finds the job that a word names behind a percent sign: the current one, which was started last,
the one before it, or one by its number. A search for a part of its command finds a job only if
nothing is searched for, because commands are not kept. -/
def jobNamed (word : Characters) : Running Job := do
  let latestFirst := (← get).jobs.reverse
  let found (job : Option Job) (complaint : String) : Running Job :=
    match job with
    | some job => return job
    | none => Running.fail complaint.toList
  let missing : Running Job := Running.fail ("No such job: ".toList ++ word)
  match word with
  | ['%'] | ['%', '%'] | ['%', '+'] => found latestFirst.head? "No current job"
  | ['%', '-'] => found latestFirst[1]? "No previous job"
  | ['%', '?'] =>
    match latestFirst with
    | [] => missing
    | [job] => return job
    | _ => Running.fail (word ++ ": ambiguous".toList)
  | '%' :: digits =>
    if digits.all Char.isDigit then
      let number := ((Arithmetic.digits? 10 digits).map Prod.fst).getD 0
      match latestFirst.find? fun (job : Job) => job.number = number with
      | some job => return job
      | none => missing
    else missing
  | _ => missing

/-- Lists the signals, or names one by its number or by the status it leaves. -/
def listSignals : List Characters → Running Nat
  | [] => do
    Running.emitLine ['0']
    (List.range lastSignal).forM fun index =>
      Running.emitLine (signalName (index + 1)).toList
    return 0
  | word :: _ => do
    let number ← Running.natural word
    let number := if 128 < number then number - 128 else number
    if 0 < number && number ≤ lastSignal then Running.emitLine (signalName number).toList
    else
      Running.fail ("invalid signal number or exit status: ".toList ++ word)
    return 0

/-- Sends a signal to what a word names. Tells whether it is there. A job is addressed as a group of
processes, and no group but that of the script itself is ever formed. -/
def signalTo (signal : Nat) (word : Characters) : Running Bool := do
  let found ← if word.head? = some '%' then do
      let _ ← jobNamed word
      pure false
    else do
      let isGroup := word.head? = some '-'
      let pid ← Running.natural (if isGroup then word.drop 1 else word)
      if pid = 0 then Running.send signal (← Running.context).activity.pid
      else if isGroup then pure (pid = 1)
      else Running.send signal pid
  if !found then Running.warn "No such process\n".toList
  return found

/-- Stops if a word names no signal. -/
def checkSignal (word : Characters) : Running Unit := do
  if (signalOf? 1 word).isNone then
    Running.fail ("invalid signal number or name: ".toList ++ word)

/-- Sends signals. -/
def kill : Command := fun _ words => do
  if words.isEmpty then Running.fail killUsage
  let (lists, signal, rest) ← match words with
    | ('-' :: name) :: rest =>
      match signalOf? 1 name with
      | some number => pure (false, some number, rest)
      | none => do
        let (found, rest) ← checkedOptions checkSignal [('l', false), ('s', true)] words
        let chosen := (found.filter fun (letter, _) => letter = 's').getLast?
        let signal := chosen.bind fun (_, name) => signalOf? 1 name
        pure (found.any fun (letter, _) => letter = 'l', signal, rest)
    | _ => pure (false, none, words)
  if lists then
    if signal.isSome then Running.fail killUsage
    listSignals rest
  else
    if rest.isEmpty then Running.fail killUsage
    let outcomes ← rest.mapM (signalTo (signal.getD 15))
    return if outcomes.all id then 0 else 1

/-- Says what is to be done about signals. -/
def setTraps (action : Option Characters) : List Characters → Running Nat
  | [] => return 0
  | word :: rest => do
    match signalOf? 0 word with
    | none =>
      Running.print .errors ("trap: ".toList ++ word ++ ": bad trap\n".toList)
      return 1
    | some number =>
      let action := if action = some ['-'] then none else action
      Running.change fun context => { context with
        traps := match action with
          | some text => Association.put number text context.traps
          | none => Association.erase number context.traps }
      setTraps action rest

/-- Says or shows what is to be done about signals. -/
def trap : Command := fun _ words => do
  match ← noOptions words with
  | [] =>
    let traps := (← Running.context).traps.mergeSort fun first second => first.1 ≤ second.1
    traps.forM fun (number, action) =>
      Running.emitLine ("trap -- ".toList ++ quoted action ++ ' ' :: (signalName number).toList)
    return 0
  | [word] => setTraps none [word]
  | first :: rest =>
    if first ≠ [] && first.all Char.isDigit && (signalOf? 0 first).isSome then
      setTraps none (first :: rest)
    else setTraps (some first) rest

/-! ### Jobs -/

/-- The status of a job that is over. -/
def jobStatus (job : Job) : Nat := Running.statusOf (job.endings.getLast?.getD (.exited 0))

/-- Remembers that a job was waited for. -/
def markWaited (pid : ProcessId) : Running Unit :=
  modify fun state => { state with
    jobs := state.jobs.map fun (job : Job) =>
      if job.pid = pid then { job with waited := true } else job }

/-- Waits for jobs. Gives the status that a signal leaves if one arrives first. That a process ended
is no reason to stop when all of the jobs are over. -/
def awaitAlert (jobs : List Job) : Running (Option Nat) := do
  Running.await (jobs.flatMap Job.members) true
  let goesOn := (← get).jobs.any fun (job : Job) =>
    !job.isOver && jobs.any fun other => other.pid = job.pid
  let signals := (← Running.context).arrived.filter fun signal => goesOn || signal ≠ childSignal
  return signals.max?.map fun signal => 128 + signal

/-- The job that a word names. -/
def jobOf? (word : Characters) : Running (Option Job) := do
  if word.head? = some '%' then some <$> jobNamed word
  else
    let pid ← Running.natural word
    return (← get).jobs.find? fun (job : Job) => job.pid = pid

/-- Waits for the jobs that words name, and gives the status of the last one. -/
def waitFor : List Characters → (status : Nat) → Running Nat
  | [], status => return status
  | word :: rest, status => do
    match ← jobOf? word with
    | none => waitFor rest status
    | some job =>
      let interruption ← if job.isOver then pure none else awaitAlert [job]
      match interruption with
      | some status => return status
      | none =>
        let after := ((← get).jobs.find? fun (other : Job) => other.pid = job.pid).getD job
        if !job.isOver then after.endings.forM Running.report
        markWaited job.pid
        waitFor rest (jobStatus after)

/-- Waits for jobs: those that are named, or all. -/
def wait : Command := fun _ words => do
  match ← noOptions words with
  | [] =>
    let running := (← get).jobs.filter fun (job : Job) => !job.isOver
    let interruption ← if running.isEmpty then pure none
      else awaitAlert running
    match interruption with
    | some status => return status
    | none =>
      (← get).jobs.forM fun (job : Job) => markWaited job.pid
      return 0
  | names => waitFor names 127

/-- The state of a job as a text. -/
def jobState (job : Job) : Characters :=
  match job.endings.getLast? with
  | none => "Running".toList
  | some (.exited 0) => "Done".toList
  | some (.exited code) => "Done(".toList ++ (toString code).toList ++ [')']
  | some (.killed signal) => (signalText signal.number).toList
  | some (.failed _) => "Done".toList

/-- Fills a line of a list of jobs up to where a command would stand. -/
def filled (text : Characters) (length : Nat) : Characters :=
  text ++ List.replicate (max 1 (33 - length)) ' '

/-- Shows one of the jobs. The current one is marked with a plus sign, the one before it with a
minus sign. Its processes stand on lines of their own if their numbers are asked for. -/
def showJob (numbers : Bool) (jobs : List Job) (job : Job) : Characters :=
  let mark := match (jobs.reverse.findIdx? fun (other : Job) => other.number = job.number) with
    | some 0 => '+'
    | some 1 => '-'
    | _ => ' '
  let front := '[' :: (Nat.toDigits 10 job.number ++ ']' :: ' ' :: mark :: [' '])
  let pid (process : ProcessId) : Characters :=
    if numbers then Arithmetic.decimal process ++ [' '] else []
  let shown := front ++ pid (job.members.headD 0) ++ jobState job
  let others := (job.members.drop 1).flatMap fun process =>
    if numbers then
      let shown := List.replicate front.length ' ' ++ pid process
      " |\n".toList ++ filled shown shown.length
    else " | ".toList
  filled shown shown.length ++ others ++ ['\n']

/-- Lists the jobs that are named, or all of them. One that is over is forgotten once it was shown,
so that the one before it takes its place as the current one. -/
def listJobs : Command := fun _ words => do
  let (found, names) ← options [('l', false), ('p', false)] words
  Running.reapJobs
  let has (letter : Char) : Bool := found.any fun (other, _) => other = letter
  let display (job : Job) : Running Unit := do
    if has 'p' then Running.emitLine (Arithmetic.decimal (job.members.headD 0))
    else
      Running.emit (showJob (has 'l') (← get).jobs job)
      if job.isOver then Running.forgetJob job
  if names.isEmpty then (← get).jobs.reverse.forM display
  else names.forM fun name => do display (← jobNamed name)
  return 0

/-- Complains that there is no job to go on with. -/
def continueJob : Command := fun _ words => do
  let names ← noOptions words
  let _ ← jobNamed (names.headD ['%'])
  let name := names.headD "(null)".toList
  Running.fail ("job ".toList ++ name ++ " not created under job control".toList)

end PipelineShell.Script.Command
