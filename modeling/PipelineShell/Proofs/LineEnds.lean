/-
Scripts that differ in how their lines end.

A session goes through the lines of its input, and these do not depend on whether a line feed has a
carriage return before it or whether the last line has one. So two sessions that are the same but
for such a difference go through the same lines. They are in step as long as nothing but the reading
of lines looks at the input or takes from it, and come to the same results.

This proviso is needed. The shell reads its input in blocks, and a program that it runs reads on
where the last block ended. With other line ends that is another place of the script. It is also
all that is needed, and only where a pipeline is handed over: a program that is fed from a file or
by a pipe leaves the input alone, whatever the same program does elsewhere.
-/

import Mathlib
import PipelineShell.Proofs.History
import PipelineShell.Proofs.OtherInput
import PipelineShell.Proofs.Segments

namespace PipelineShell

variable {σ : Type}

/-! ### One line after another -/

open Text

namespace Session

variable {system : System σ} {executor : Executor σ} {settings : Settings} {mode : OutputMode}
variable {line rest unread left : Bytes} {world : σ} {bound : Nat}

theorem takeLine_kept (unended : lineFeed ∉ line) :
    takeLine system (bound + 1) (line ++ lineFeed :: rest) world =
      (some (line ++ [lineFeed]), rest, world) := by
  have ends : (line ++ lineFeed :: rest).takeWhile (· ≠ lineFeed) = line := by
    rw [List.takeWhile_append_of_pos]
    · simp
    · intro byte mem
      exact decide_eq_true fun same => unended (same ▸ mem)
  rw [takeLine, ends]
  dsimp only
  rw [List.drop_left]

theorem takeLine_last (nonempty : line ≠ []) (unended : lineFeed ∉ line)
    (nothing : system.input world = []) :
    takeLine system (bound + 1) line world = (some line, [], world) := by
  have whole : line.takeWhile (· ≠ lineFeed) = line := by
    rw [List.takeWhile_eq_self_iff]
    exact fun byte mem => decide_eq_true fun same => unended (same ▸ mem)
  rw [takeLine, whole]
  dsimp only
  rw [List.drop_length, nothing]
  dsimp only
  rw [if_pos List.take_nil, if_neg nonempty]

/-- If nothing is kept and the next block has a whole line, this is read, and the rest of the block
is kept. -/
theorem readLine_block (session : Session σ) (unended : lineFeed ∉ line)
    (block : (system.input session.shell.world).take inputBlock = line ++ lineFeed :: rest) :
    session.readLine system [] =
      (some (line ++ [lineFeed]), rest,
        session.inWorld
          (system.skipInput (line ++ lineFeed :: rest).length session.shell.world)) := by
  obtain ⟨count, more⟩ : ∃ count, (system.input session.shell.world).length = count + 1 := by
    cases input : system.input session.shell.world with
    | nil => simp [input] at block
    | cons byte others => exact ⟨_, rfl⟩
  refine readLine_of_takeLine ?_
  rw [more, takeLine]
  dsimp only [List.takeWhile_nil, List.length_nil, List.drop_nil]
  rw [block, if_neg (by simp), List.nil_append, takeLine_kept unended]
  rfl

/-- If a whole line is kept, this is read, and nothing of the input. -/
theorem readLine_kept (session : Session σ) (unended : lineFeed ∉ line) :
    session.readLine system (line ++ lineFeed :: rest) =
      (some (line ++ [lineFeed]), rest, session) :=
  readLine_of_takeLine (takeLine_kept unended)

/-- If nothing is left of the input, what is kept is the last line. -/
theorem readLine_last {session : Session σ} (nonempty : line ≠ []) (unended : lineFeed ∉ line)
    (nothing : system.input session.shell.world = []) :
    session.readLine system line = (some line, [], session) :=
  readLine_of_takeLine (takeLine_last nonempty unended nothing)

/-- A line that asks to exit, and whose arguments give a code. -/
theorem runLine_exit {session : Session σ} {line : String} {code : Int} (arguments : List String)
    (expanded : session.store.expand (Words.ofLine line) = .ok ("exit" :: arguments))
    (status : ∀ shell : Interpreter σ, (Builtin.exit.run system
      (arguments.takeWhile fun word => !isOperator word) session.store shell).1 = .exit code) :
    (runLine system executor mode line session).1 = .ok (.exit code) := by
  have plain : splitAssignment? "exit" = none := by decide
  have named : Builtin.ofName? "exit" = some .exit := by decide
  rw [runLine, expanded]
  dsimp only
  rw [runWords, Variables.assign?, plain]
  dsimp only [Option.map_none]
  rw [named]
  dsimp only
  rw [fst_runBuiltin, show (session.enter system .debug _).store = session.store from rfl, status]

/-- What the words of a line that exits are expanded to. -/
theorem expand_exit (store : Variables) :
    store.expand (Words.ofLine "exit 3") = .ok ["exit", "3"] := by
  have words : Words.ofLine "exit 3" = ["exit", "3"] := by decide
  have exit : reference? "exit" = none := by decide
  have code : reference? "3" = none := by decide
  rw [words, Variables.expand_eq_ok_iff]
  exact .cons (Variables.expandWord_eq_ok_iff.mpr (.inl ⟨exit, rfl⟩))
    (.cons (Variables.expandWord_eq_ok_iff.mpr (.inl ⟨code, rfl⟩)) .nil)

theorem runLine_exitThree (session : Session σ) :
    (runLine system executor mode "exit 3" session).1 = .ok (.exit 3) := by
  refine runLine_exit ["3"] (expand_exit session.store) fun shell => ?_
  have plain : (["3"].takeWhile fun word => !isOperator word) = ["3"] := by decide
  have number : readCode? "3" = some 3 := by decide
  rw [plain, Builtin.run, Builtin.carryOut, number]

/-- A line that exits hands nothing over. -/
theorem not_hands_exitThree {session : Session σ} {pipeline : Pipeline} {store : Variables}
    {shell : Interpreter σ} : ¬ Hands system mode "exit 3" session pipeline store shell := by
  intro hands
  obtain ⟨words, _, expanded, asks, _⟩ := hands_iff.mp hands
  obtain rfl : ["exit", "3"] = words :=
    Except.ok.inj ((expand_exit session.store).symm.trans expanded)
  have named : Builtin.ofName? "exit" = some .exit := by decide
  cases named.symm.trans asks.2

end Session

/-! ### Sessions on rewritten scripts -/

namespace Session

variable {system : System σ} {Sound : σ → Prop} {same : σ → σ → Prop}

/-- Two sessions go through the lines of their inputs to the same results, and end with the same
exit code, the same variables and the same process, but for worlds that are related. -/
def RunsAlike (system : System σ) (executor : Executor σ) (same : σ → σ → Prop)
    (settings : Settings) (first second : Session σ) : Prop :=
  ∃ results,
    Course system executor settings (Text.inputLines (system.input first.shell.world)) first results
      (run system executor settings first) ∧
    Course system executor settings (Text.inputLines (system.input second.shell.world)) second
      results (run system executor settings second) ∧
    (run system executor settings first).1 = (run system executor settings second).1 ∧
    (run system executor settings first).2.store = (run system executor settings second).2.store ∧
    (run system executor settings first).2.shell.InStep same
      (run system executor settings second).2.shell

/-- Reading gives one item for each segment of the input. How lines end makes no difference to a
session if what it hands over takes nothing from the input there and does not depend on it. Of the
system it is only asked that its other calls leave the input alone, so the executor in the first
condition is one that does nothing. -/
theorem run_rewritten (undisturbed : Undisturbed system Executor.idle Sound)
    (ignores : system.IgnoresInput same) :
    (∀ unread world, Sound world → ReadsAll system unread world) ∧
      ∀ (executor : Executor σ) (settings : Settings) (first second : Session σ),
        Sound first.shell.world → Sound second.shell.world → first.InStep same second →
        Text.Rewritten (system.input first.shell.world) (system.input second.shell.world) →
        SpareInput system executor settings Sound same [] [] first second →
        RunsAlike system executor same settings first second := by
  refine ⟨fun unread _ sound => readsAll undisturbed.skipInput unread sound, ?_⟩
  intro executor settings first second sound soundToo inStep rewritten spare
  have sameLines := rewritten.inputLines_eq
  have enough (bytes : Bytes) : (Text.inputLines bytes).length < bytes.length + 1 :=
    Nat.lt_succ_of_le (Text.length_inputLines_le bytes)
  have enoughToo := enough (system.input second.shell.world)
  rw [sameLines] at enoughToo
  obtain ⟨results, course, courseToo, code, stores, shells⟩ :=
    runLines_together undisturbed ignores sound soundToo inStep rfl sameLines (enough _) enoughToo
      spare
  refine ⟨results, course, ?_, code, stores, shells⟩
  rw [sameLines]
  exact courseToo

end Session

/-! ### A program that is fed from a file -/

/-- A file tree with the program `cat` in its usual place. -/
def copyingTree : FileTree :=
  ⟨[([encode "bin"], .directory), ([encode "bin", encode "cat"], .program "cat")]⟩

/-- A machine with the program `cat`, on which the shell has read some of a script, has written its
prompt and may have started a process. -/
def Machine.copying (script : Bytes) (offset : Nat) (tape : Tape) (nextPid : ProcessId) : Machine :=
  { Machine.holding "notes" [] with
    tree := copyingTree, input := script, inputOffset := offset, outputTape := tape, nextPid }

/-- A machine with the program `cat` and a file to feed it with, on which the shell has read some of
a script. -/
def Machine.feeding (script : Bytes) (offset : Nat) (tape : Tape) (nextPid : ProcessId)
    (openings : List (Nat × Opening)) : Machine :=
  { Machine.copying script offset tape nextPid with
    tree := copyingTree.put [encode "notes"] (.file (encode "x\n") 0o644), openings }

/-- The shell's output after one prompt. -/
def prompted : Tape := Tape.empty.write (encode "$ ")

/-- The file as the shell opens it. -/
def feed : Opening := ⟨[encode "notes"], 0, false, true, true⟩

/-- The shell's table when it has opened the file. -/
def feedingTable : Table := Table.standard.put 3 (.file 0)

/-- A pipeline of one stage that is fed from the file. -/
def fedCat : Pipeline := ⟨[(Stage.named "cat").connect .input (.owned 3)], false⟩

theorem inputApart_feeding (script : Bytes) (offset : Nat) (tape : Tape) (nextPid : ProcessId)
    (openings : List (Nat × Opening)) :
    (Machine.feeding script offset tape nextPid openings).InputApart := by
  have nodes : ∀ entry ∈ (copyingTree.put [encode "notes"] (.file (encode "x\n") 0o644)).nodes,
      entry.2 ≠ .slot Stream.input.slot := by decide
  exact Kernel.inputApart_of_nodes List.not_mem_nil nodes nofun

theorem openFile_feed (shell : Interpreter Machine) {script : Bytes} {offset : Nat}
    (table : shell.table = .standard) (limit : shell.limit = none) (minted : shell.minted = 0)
    (world : shell.world = .feeding script offset prompted 100 []) :
    ∃ after, shell.openFile Machine.system "notes" false = (.ok 3, after) ∧
      after.table = feedingTable ∧
      after.world = .feeding script offset prompted 100 [(0, feed)] := by
  obtain ⟨_, _, _, past, _, known⟩ := shell
  dsimp only at table limit minted world
  subst table limit minted world
  refine ⟨_, Prod.ext ?_ rfl, ?_, ?_⟩ <;> cbv

theorem build_fedCat {system : System σ} {shell after : Interpreter σ} (mode : OutputMode)
    (opens : shell.openFile system "notes" false = (.ok 3, after)) :
    Construction.build system mode ["cat", "<", "notes"] shell =
      (.ok fedCat, after.enter system .debug (Construction.built fedCat)) := by
  have cut : Construction.segments ["cat", "<", "notes"] = [["cat", "<", "notes"]] := by
    decide
  have program : Operator.ofWord? "cat" = none := by decide
  have redirects : Operator.ofWord? "<" = some (.redirect .input) := by decide
  have target : isOperator "notes" = false := by decide
  have keeps : Construction.truncates mode .input = false := rfl
  rw [Construction.build, if_neg (List.cons_ne_nil _ _), cut]
  simp only [Construction.buildStages, Construction.buildStage, program, Construction.scan,
    redirects, target, keeps, opens, Construction.Place.allows]
  rfl

/-- What the shell notes of the run of this pipeline, the latest first. -/
def fedPast : List Event :=
  [.entered ⟨.debug, "'cat' (pid 100) exited with 0"⟩, .awaited 100, .closed 3,
    .entered ⟨.info, "spawned 'cat' as pid 100"⟩,
    .started ⟨100, (Stage.named "cat").connect .input (.owned 3), feedingTable, [3],
      Table.standard.put 0 (.file 0)⟩]

/-- What running it comes to, whatever the script is and however much of it was read: both are as
before. -/
theorem run_fedCat (shell : Interpreter Machine) {store : Variables}
    (environment : store.environment = .ok []) (table : shell.table = feedingTable)
    (script : Bytes) (offset : Nat) :
    Supervision.run Machine.system fedCat store
        { shell with world := .feeding script offset prompted 100 [(0, feed)] } =
      (.ok 0,
        { shell with
          table := .standard
          past := fedPast ++ shell.past
          world := .feeding script offset (prompted.write (encode "x\n")) 101 []
          known := Table.isBelow_standard.mono (Nat.zero_le _) }) := by
  have unnamed : ¬ ∃ stage ∈ fedCat.stages, stage.program = "" := by decide
  rw [Supervision.run_of_environment _ unnamed environment]
  obtain ⟨_, limit, minted, past, world, known⟩ := shell
  dsimp only at table
  subst table
  -- Neither the shell nor the program looks at the script, so all steps can be taken without it.
  cbv

theorem ignoresInput_fedCat {shell shellToo : Interpreter Machine} {store : Variables}
    (environment : store.environment = .ok []) (table : shell.table = feedingTable)
    {script scriptToo : Bytes} {offset offsetToo : Nat}
    (world : shell.world = .feeding script offset prompted 100 [(0, feed)])
    (worldToo : shellToo.world = .feeding scriptToo offsetToo prompted 100 [(0, feed)])
    (inStep : shell.InStep Machine.SameButInput shellToo) :
    Executor.IgnoresInput (Supervision.run Machine.system) Machine.system
      (fun machine => machine.InputApart) Machine.SameButInput fedCat store shell shellToo := by
  obtain ⟨_, rfl, -⟩ := inStep
  obtain rfl := worldToo
  have ran := run_fedCat shell environment table script offset
  have ranToo := run_fedCat shell environment table scriptToo offsetToo
  rw [← world] at ran
  have apart := inputApart_feeding script offset (prompted.write (encode "x\n")) 101 []
  constructor
  case keeps =>
    rw [ran, world]
    exact ⟨apart, rfl⟩
  case keepsToo =>
    show Machine.system.KeepsInput _ _ (Supervision.run Machine.system fedCat store _).2.world
    rw [Interpreter.inWorld, ranToo]
    exact ⟨inputApart_feeding _ _ _ _ _, rfl⟩
  case matching =>
    rw [ran, Interpreter.inWorld, ranToo]
    exact ⟨rfl, _, rfl, apart, scriptToo, offsetToo, rfl⟩

theorem hands_fedCat (session : Session Machine) {script : Bytes} {offset : Nat} (mode : OutputMode)
    (store : session.store = Variables.empty.set "CMD" "cat")
    (table : session.shell.table = .standard) (limit : session.shell.limit = none)
    (minted : session.shell.minted = 0)
    (world : session.shell.world = .feeding script offset prompted 100 []) :
    ∃ shell, Session.Hands Machine.system mode "$CMD < notes" session fedCat session.store shell ∧
      shell.table = feedingTable ∧
      shell.world = .feeding script offset prompted 100 [(0, feed)] := by
  have expanded : session.store.expand (Words.ofLine "$CMD < notes") =
      .ok ["cat", "<", "notes"] := by
    rw [store]
    decide
  obtain ⟨after, opens, opened, left⟩ := openFile_feed (session.shell.enter Machine.system
    .debug ("tokens: " ++ quotedList ["cat", "<", "notes"])) table limit minted
    (congrArg (Machine.system.enter _) world)
  exact ⟨_, Session.hands_of_build expanded (by decide) (build_fedCat mode opens), opened,
    congrArg (Machine.system.enter _) left⟩

/-- A script of two lines: a program that is fed from the file, and an exit. Both line feeds have
some bytes before them. -/
def fedScript (ends : Bytes) : Bytes :=
  encode "$CMD < notes" ++ ends ++ lineFeed :: (encode "exit 3" ++ ends ++ [lineFeed])

/-- A session that starts on this script and has the name of the program in a variable. -/
def fed (ends : Bytes) : Session Machine :=
  ⟨Variables.empty.set "CMD" "cat", .start (.feeding (fedScript ends) 0 .empty 100 [])⟩

/-- This session when it has read its first line. The whole script fits into the block that it took
for it. -/
def fedFirst (ends : Bytes) : Session Machine :=
  ((fed ends).write Machine.system .output Settings.default.prompt).inWorld
    (.feeding (fedScript ends) (fedScript ends).length prompted 100 [])

section

variable {ends : Bytes} (terminates : ends = [] ∨ ends = [carriageReturn])
include terminates

theorem readLine_fed :
    ((fed ends).write Machine.system .output Settings.default.prompt).readLine Machine.system [] =
      (some (encode "$CMD < notes" ++ ends ++ [lineFeed]), encode "exit 3" ++ ends ++ [lineFeed],
        fedFirst ends) := by
  have unended : lineFeed ∉ encode "$CMD < notes" ++ ends := by
    obtain rfl | rfl := terminates <;> decide
  have block : (Machine.system.input ((fed ends).write Machine.system .output
      Settings.default.prompt).shell.world).take Session.inputBlock = fedScript ends := by
    show (fedScript ends).take Session.inputBlock = fedScript ends
    obtain rfl | rfl := terminates <;> decide
  have moved : Machine.system.skipInput (fedScript ends).length ((fed ends).write Machine.system
      .output Settings.default.prompt).shell.world = (fedFirst ends).shell.world := by
    show Machine.feeding (fedScript ends) (0 + (fedScript ends).length) _ 100 [] = _
    rw [Nat.zero_add]
    rfl
  have reads := Session.readLine_block _ unended block
  rw [← fedScript, moved] at reads
  exact reads

theorem inputLine_fed :
    inputLine (encode "$CMD < notes" ++ ends ++ [lineFeed]) = some "$CMD < notes" ∧
      inputLine (encode "exit 3" ++ ends ++ [lineFeed]) = some "exit 3" := by
  obtain rfl | rfl := terminates <;> decide

theorem unended_exit : lineFeed ∉ encode "exit 3" ++ ends := by
  obtain rfl | rfl := terminates <;> decide

/-- Only the first line of the script hands something over. -/
theorem carriesOut_fed {index : Nat} {line : String} {reached : Session Machine}
    (carries : Session.CarriesOut Machine.system (Supervision.run Machine.system) .default []
      (fed ends) index line reached) :
    (line = "$CMD < notes" ∧ reached = fedFirst ends) ∨ line = "exit 3" := by
  obtain ⟨isText, isTextToo⟩ := inputLine_fed terminates
  obtain ⟨-, rfl, rfl⟩ | ⟨_, _, _, -, -, -, carries⟩ :=
    carries.of_reads (readLine_fed terminates) isText
  · exact .inl ⟨rfl, rfl⟩
  · obtain ⟨-, rfl, -⟩ | ⟨_, _, _, -, ran, stays, -⟩ :=
      carries.of_reads (Session.readLine_kept _ (unended_exit terminates)) isTextToo
    · exact .inr rfl
    · exact absurd ((congrArg Prod.fst ran).symm.trans (Session.runLine_exitThree _)) (stays 3)

end

/-- The program that is fed runs to its end, and the session goes on to the line that exits. -/
theorem code_run_fed :
    (Session.run Machine.system (Supervision.run Machine.system) .default (fed [])).1 = 3 := by
  obtain ⟨isText, isTextToo⟩ := inputLine_fed (.inl rfl)
  obtain ⟨shell, hands, table, world⟩ :=
    hands_fedCat (fedFirst []) Settings.default.outputMode rfl rfl rfl rfl rfl
  have ended : (Supervision.run Machine.system fedCat (fedFirst []).store shell).1 = .ok 0 := by
    have environment : (fedFirst []).store.environment = .ok [] := rfl
    have ran := run_fedCat shell environment table (fedScript []) (fedScript []).length
    rw [← world] at ran
    exact congrArg Prod.fst ran
  have ran := hands (Supervision.run Machine.system)
  generalize Supervision.run Machine.system fedCat (fedFirst []).store shell = ending at ended ran
  obtain ⟨_, after⟩ := ending
  obtain rfl := ended
  have stays := Session.runLines_of_stays (readLine_fed (.inl rfl)) isText ran nofun
  have lines : (fedScript []).length + 1 = 19 + 1 + 1 := by decide
  show (Session.runLines Machine.system _ .default ((fedScript []).length + 1) [] (fed [])).1 = 3
  rw [lines, stays]
  exact congrArg Prod.fst (Session.runLines_of_exits
    (Session.readLine_kept _ (unended_exit (.inl rfl))) isTextToo (Session.runLine_exitThree _) 19)

theorem withReturns_fedScript : withReturns (fedScript []) = fedScript [carriageReturn] := by
  decide

theorem inStep_fed (ends other : Bytes) :
    (fed ends).InStep Machine.SameButInput (fed other) :=
  ⟨rfl, _, rfl, inputApart_feeding _ _ _ _ _, fedScript other, 0, rfl⟩

theorem spareInput_fed :
    Session.SpareInput Machine.system (Supervision.run Machine.system) .default
      (fun machine => machine.InputApart) Machine.SameButInput [] [] (fed [])
      (fed [carriageReturn]) := by
  intro _ line _ _ carries carriesToo pipeline store shell shellToo hands handsToo inStep
  obtain ⟨rfl, rfl⟩ | rfl := carriesOut_fed (.inl rfl) carries
  · obtain ⟨-, rfl⟩ | other := carriesOut_fed (.inr rfl) carriesToo
    · obtain ⟨_, handsFed, table, world⟩ :=
        hands_fedCat (fedFirst []) Settings.default.outputMode rfl rfl rfl rfl rfl
      obtain ⟨_, handsFedToo, -, worldToo⟩ := hands_fedCat (fedFirst [carriageReturn])
        Settings.default.outputMode rfl rfl rfl rfl rfl
      obtain ⟨rfl, rfl, rfl⟩ := hands.unique handsFed
      obtain ⟨-, -, rfl⟩ := handsToo.unique handsFedToo
      exact ignoresInput_fedCat rfl table world worldToo inStep
    · exact absurd other (by decide)
  · exact absurd hands Session.not_hands_exitThree

/-- Two scripts whose lines end differently. Each line feed of the second one has a carriage return
before it. The first line runs a program that reads from a file. -/
theorem run_rewritten_fed :
    let first := fed []
    let second := fed [carriageReturn]
    first.shell.world.InputApart ∧ second.shell.world.InputApart ∧
      first.InStep Machine.SameButInput second ∧
      Rewritten (Machine.system.input first.shell.world) (Machine.system.input second.shell.world) ∧
      Session.SpareInput Machine.system (Supervision.run Machine.system) .default
        (fun machine => machine.InputApart) Machine.SameButInput [] [] first second ∧
      Session.ReadsAll Machine.system [] first.shell.world ∧
      (Session.run Machine.system (Supervision.run Machine.system) .default first).1 = 3 ∧
      Session.RunsAlike Machine.system (Supervision.run Machine.system) Machine.SameButInput
        .default first second := by
  have rewritten : Rewritten (Machine.system.input (fed []).shell.world)
      (Machine.system.input (fed [carriageReturn]).shell.world) := by
    show Rewritten (fedScript []) (fedScript [carriageReturn])
    rw [← withReturns_fedScript]
    exact .returns
  have sound (ends : Bytes) : (fed ends).shell.world.InputApart := inputApart_feeding _ _ _ _ _
  obtain ⟨reads, runs⟩ :=
    Session.run_rewritten Machine.undisturbed_idle Machine.ignoresInput
  exact ⟨sound _, sound _, inStep_fed _ _, rewritten, spareInput_fed, reads _ _ (sound _),
    code_run_fed, runs _ _ _ _ (sound _) (sound _) (inStep_fed _ _) rewritten spareInput_fed⟩

/-! ### A program that reads on -/

/-- The machine with the program alone, after the shell has read a block of the script. -/
def Machine.paused (script : Bytes) (nextPid : ProcessId) : Machine :=
  .copying script Session.inputBlock prompted nextPid

/-- What `cat` is started as. -/
def catActivity : Activity :=
  ⟨100, Machine.shellProcess, .standard, [], 0o022, Machine.ignoredSignals, [], [encode "cat"], []⟩

theorem refusal_cat (script : Bytes) :
    Machine.system.refusal .standard ⟨.standard, [encode "cat"], []⟩ (encode "/bin/cat")
      (Machine.paused script 101) = none := by
  cbv

theorem load_cat (script : Bytes) :
    Execution.load (Machine.paused script 101).toKernel catActivity.handles [] [] [encode "cat"] []
      (encode "/bin/cat") = .ok ⟨"cat", [encode "cat"]⟩ := by
  cbv

theorem runChild_cat (script : Bytes) :
    Supervision.runChild Machine.system .standard 100 "cat"
        ⟨[encode "/bin/cat", encode "/usr/bin/cat"], [encode "cat"]⟩ [] (none, .standard)
        (Machine.paused script 101) =
      (Machine.paused script 101).assign catActivity
        (Execution.Loaded.run ⟨"cat", [encode "cat"]⟩ catActivity) := by
  rw [Supervision.runChild]
  dsimp only
  rw [Lookup.search, Lookup.tryFrom, refusal_cat]
  show Machine.execute _ _ _ _ = _
  unfold Machine.execute
  dsimp only
  split
  · rename_i found same
    obtain rfl := Except.ok.inj (same.symm.trans (load_cat script))
    rfl
  · rename_i errno same
    cases same.symm.trans (load_cat script)

/-- What waiting for `cat` comes to, if it was started when the shell had read a block. -/
def catWaited (script : Bytes) : WaitHistory × Machine :=
  ((Machine.paused script 101).assign catActivity
    (Execution.Loaded.run ⟨"cat", [encode "cat"]⟩ catActivity)).wait 100

/-- Whether `cat` ends well and leaves nothing of the input, in a machine with no journal. -/
def TakesRest (script : Bytes) : Prop :=
  (catWaited script).1.last = .exited 0 ∧ (catWaited script).1.reports = [] ∧
    (catWaited script).2.sink = .nowhere ∧ (catWaited script).2.inputLeft = []

instance (script : Bytes) : Decidable (TakesRest script) := inferInstanceAs (Decidable (_ ∧ _))

theorem Machine.enter_of_nowhere {machine : Machine} (sink : machine.sink = .nowhere)
    (entry : Entry) : Machine.system.enter entry machine = machine := by
  show Machine.mk (machine.toKernel.enter entry) machine.queue = machine
  rw [Kernel.enter, sink]
  split <;> rfl

theorem Machine.input_write (machine : Machine) (text : String) :
    Machine.system.input (Machine.system.write .output text machine) = machine.inputLeft := rfl

theorem spawn_cat {shell : Interpreter Machine} {script : Bytes}
    (table : shell.table = .standard) (world : shell.world = .paused script 100) :
    ∃ after,
      Supervision.spawn Machine.system (.named "cat") [] [] shell = (.ok ⟨100, "cat"⟩, after) ∧
      after.world = (Machine.paused script 101).assign catActivity
        (Execution.Loaded.run ⟨"cat", [encode "cat"]⟩ catActivity) := by
  have prepared : Supervision.prepare (.named "cat") [] =
      .ok ⟨[encode "/bin/cat", encode "/usr/bin/cat"], [encode "cat"]⟩ := by decide
  have setup : Supervision.childTable shell.table (.named "cat") [] = (none, .standard) := by
    rw [table]
    rfl
  have forked : Machine.system.fork (Machine.paused script 100) =
      (.ok 100, Machine.paused script 101) := rfl
  rw [Supervision.spawn, prepared]
  dsimp only
  rw [world, forked]
  refine ⟨_, rfl, ?_⟩
  have child := runChild_cat script
  rw [← setup, ← table] at child
  exact congrArg (Machine.system.enter _) child

theorem run_cat {script : Bytes} (takes : TakesRest script) (shell : Interpreter Machine)
    (table : shell.table = .standard)
    (world : shell.world = .paused script 100) :
    ∃ after, Supervision.run Machine.system ⟨[.named "cat"], false⟩ .empty shell = (.ok 0, after) ∧
      after.world = (catWaited script).2 := by
  obtain ⟨last, reports, sink, -⟩ := takes
  obtain ⟨ready, spawned, assigned⟩ := spawn_cat table world
  have waited : Supervision.await Machine.system ⟨100, "cat"⟩ ready =
      Supervision.settle Machine.system ⟨100, "cat"⟩ (catWaited script).1.last
        (catWaited script).1.reports
        ({ ready with world := (catWaited script).2 }.record (.awaited 100)) := by
    rw [catWaited, ← assigned]
    rfl
  rw [last, reports] at waited
  have released : ready.release (.named "cat") = ready := rfl
  have children : Supervision.spawnAll Machine.system [] [.named "cat"] [] shell =
      (none, [⟨100, "cat"⟩], ready) := by
    rw [Supervision.spawnAll, spawned]
    dsimp only
    rw [released]
    rfl
  have unnamed : ¬ ∃ stage ∈ (⟨[.named "cat"], false⟩ : Pipeline).stages, stage.program = "" := by
    decide
  have handed : Variables.empty.environment = .ok [] := rfl
  have ran := Supervision.run_of_environment Machine.system unnamed handed shell
  have noticed : Supervision.notice Machine.system ⟨[.named "cat"], false⟩ shell = shell := rfl
  rw [noticed, children] at ran
  dsimp only at ran
  rw [Supervision.awaitAll, waited] at ran
  exact ⟨_, ran, Machine.enter_of_nowhere sink _⟩

theorem build_cat (system : System σ) (mode : OutputMode) (shell : Interpreter σ) :
    Construction.build system mode ["cat"] shell =
      (.ok ⟨[.named "cat"], false⟩,
        shell.enter system .debug (Construction.built ⟨[.named "cat"], false⟩)) := by
  have cut : Construction.segments ["cat"] = [["cat"]] := by decide
  rw [Construction.build, if_neg (List.cons_ne_nil _ _), cut]
  rfl

theorem runLine_cat {script : Bytes} {line : String} (takes : TakesRest script)
    (mode : OutputMode) (session : Session Machine) (words : Words.ofLine line = ["cat"])
    (store : session.store = .empty) (table : session.shell.table = .standard)
    (world : session.shell.world = .paused script 100) :
    ∃ after,
      Session.runLine Machine.system (Supervision.run Machine.system) mode line session =
        (.ok (.executed 0), after) ∧
      after.store = .empty ∧ after.shell.world = (catWaited script).2 := by
  have expanded : session.store.expand (Words.ofLine line) = .ok ["cat"] := by
    rw [store, words]
    decide
  have hands := Session.hands_of_build expanded (by decide)
    (build_cat Machine.system mode _) (Supervision.run Machine.system)
  obtain ⟨after, ran, left⟩ := run_cat takes
    (((session.shell.enter Machine.system .debug
      ("tokens: " ++ quotedList ["cat"])).enter Machine.system .debug
        (Construction.built ⟨[.named "cat"], false⟩)).record (.handed ⟨[.named "cat"], false⟩))
    table (congrArg (fun world => Machine.system.enter _ (Machine.system.enter _ world)) world)
  rw [← store] at ran
  exact ⟨{ session with shell := after }, hands.trans (congrArg (Session.concluded session) ran),
    store, left⟩

/-- A script whose first line runs `cat` and whose first block ends in the second line, which is
left without its end: all that comes after the block is taken by `cat`. -/
structure CutShort (script first last : Bytes) : Prop where
  block : script.take Session.inputBlock = first ++ lineFeed :: last
  size : (first ++ lineFeed :: last).length = Session.inputBlock
  unended : lineFeed ∉ first
  lastUnended : lineFeed ∉ last
  takes : TakesRest script

/-- A session that starts on such a script. -/
def starting (script : Bytes) : Session Machine := ⟨.empty, .start (.copying script 0 .empty 100)⟩

theorem readLine_starting {script first last : Bytes} (cut : CutShort script first last) :
    ((starting script).write Machine.system .output Settings.default.prompt).readLine
        Machine.system [] =
      (some (first ++ [lineFeed]), last,
        ((starting script).write Machine.system .output Settings.default.prompt).inWorld
          (.paused script 100)) := by
  have block : (Machine.system.input ((starting script).write Machine.system .output
      Settings.default.prompt).shell.world).take Session.inputBlock = first ++ lineFeed :: last :=
    cut.block
  have reads := Session.readLine_block _ cut.unended block
  rw [cut.size] at reads
  have moved : Machine.system.skipInput Session.inputBlock
        ((starting script).write Machine.system .output Settings.default.prompt).shell.world =
      .paused script 100 := by
    show Machine.copying script (0 + Session.inputBlock) _ 100 = _
    rw [Nat.zero_add]
    rfl
  rw [reads, moved]

theorem CutShort.code_run {script first last : Bytes} {line : String} {code : Int}
    (cut : CutShort script first last) (text : String) (runs : inputLine first = some line)
    (words : Words.ofLine line = ["cat"]) (nonempty : last ≠ [])
    (isText : inputLine last = some text)
    (exits : ∀ session : Session Machine, session.store = .empty →
      (Session.runLine Machine.system (Supervision.run Machine.system)
        Settings.default.outputMode text session).1 = .ok (.exit code)) :
    (Session.run Machine.system (Supervision.run Machine.system) .default (starting script)).1 =
      code := by
  obtain ⟨bound, lines⟩ : ∃ bound, script.length + 1 = bound + 1 + 1 := by
    refine ⟨script.length - 1, ?_⟩
    have long : script ≠ [] := by
      rintro rfl
      simpa using cut.block
    have := List.length_pos_iff.mpr long
    omega
  obtain ⟨after, ran, store, world⟩ := runLine_cat cut.takes Settings.default.outputMode
    (((starting script).write Machine.system .output Settings.default.prompt).inWorld
      (.paused script 100)) words rfl rfl rfl
  have ranFirst := Session.runLines_of_stays (readLine_starting cut)
    ((inputLine_append (.inl rfl) _).trans runs) ran nofun (bound + 1)
  have quiet : (Session.noted Machine.system (.ok (.executed 0)) after).shell.world =
      (catWaited script).2 := by
    show Machine.system.enter _ after.shell.world = _
    rw [world]
    exact Machine.enter_of_nowhere cut.takes.2.2.1 _
  have nothing : Machine.system.input ((Session.noted Machine.system (.ok (.executed 0))
      after).write Machine.system .output Settings.default.prompt).shell.world = [] := by
    show Machine.system.input (Machine.system.write .output _
      (Session.noted Machine.system (.ok (.executed 0)) after).shell.world) = []
    rw [quiet, Machine.input_write]
    exact cut.takes.2.2.2
  have ranLast : (Session.runLines Machine.system (Supervision.run Machine.system) .default
      (bound + 1) last (Session.noted Machine.system (.ok (.executed 0)) after)).1 = code :=
    congrArg Prod.fst (Session.runLines_of_exits
      (Session.readLine_last nonempty cut.lastUnended nothing) isText (exits _ store) bound)
  show (Session.runLines Machine.system _ .default (script.length + 1) [] (starting script)).1 =
    code
  rw [lines, ranFirst, ranLast]

/-- So many blanks. -/
def padding (count : Nat) : String := String.ofList (List.replicate count ' ')

theorem blank_padding (count : Nat) : Blank (padding count) := by
  intro character mem
  rw [padding, String.toList_ofList, List.mem_replicate] at mem
  exact mem.2 ▸ by decide

theorem encode_padding (count : Nat) : encode (padding count) = List.replicate count 32 := by
  have one : String.utf8EncodeChar ' ' = [32] := by decide
  rw [encode_eq_flatMap, padding, String.toList_ofList, List.flatMap_replicate, one,
    List.flatten_replicate_singleton]

theorem inputApart_starting (script : Bytes) : (starting script).shell.world.InputApart := by
  have nodes : ∀ entry ∈ copyingTree.nodes, entry.2 ≠ .slot Stream.input.slot := by decide
  exact Kernel.inputApart_of_nodes List.not_mem_nil nodes nofun

theorem inStep_starting (script other : Bytes) :
    (starting script).InStep Machine.SameButInput (starting other) :=
  ⟨rfl, _, rfl, inputApart_starting script, other, 0, rfl⟩

/-- A script of two lines that fills one block: the first one runs `cat`, the second one exits. -/
def copied : Bytes := encode ("cat" ++ padding 8182) ++ lineFeed :: encode "exit 3"

theorem encode_cat_padding :
    encode ("cat" ++ padding 8182) = encode "cat" ++ List.replicate 8182 32 := by
  rw [encode_append, encode_padding]

theorem length_cat_padding : (encode ("cat" ++ padding 8182)).length = 8185 := by
  rw [encode_cat_padding, List.length_append, List.length_replicate]
  decide

theorem unended_cat_padding : lineFeed ∉ encode ("cat" ++ padding 8182) := by
  rw [encode_cat_padding, List.mem_append, List.mem_replicate]
  decide

theorem withReturns_copied : withReturns copied =
    encode ("cat" ++ padding 8182) ++ [carriageReturn] ++ lineFeed :: encode "exit 3" := by
  have rest : withReturns (lineFeed :: encode "exit 3") =
      carriageReturn :: lineFeed :: encode "exit 3" := by decide
  rw [copied, withReturns, List.flatMap_append, ← withReturns, ← withReturns,
    withReturns_of_notMem unended_cat_padding, rest, List.append_assoc _ [_]]
  rfl

theorem cut_copied : CutShort copied (encode ("cat" ++ padding 8182)) (encode "exit 3") where
  block := by
    refine List.take_of_length_le ?_
    rw [copied, List.length_append, length_cat_padding]
    decide
  size := by
    rw [List.length_append, length_cat_padding]
    decide
  unended := unended_cat_padding
  lastUnended := by decide
  takes := by
    rw [copied, encode_cat_padding]
    decide +kernel

theorem cut_withReturns : CutShort (withReturns copied)
    (encode ("cat" ++ padding 8182) ++ [carriageReturn]) (encode "exit ") where
  block := by
    have line : encode "exit 3" = encode "exit " ++ encode "3" := by decide
    rw [withReturns_copied, line, ← List.cons_append, ← List.append_assoc]
    refine List.take_left' ?_
    rw [List.length_append, List.length_append, length_cat_padding]
    decide
  size := by
    rw [List.length_append, List.length_append, length_cat_padding]
    decide
  unended := by
    rw [List.mem_append, not_or]
    exact ⟨unended_cat_padding, by decide⟩
  lastUnended := by decide
  takes := by
    rw [withReturns_copied, encode_cat_padding]
    decide +kernel

/-- With a carriage return the first block ends before the code that the last line asks for. It is
left to `cat`, and the session ends with another exit code. -/
theorem runs_copied :
    let original := starting copied
    let changed := starting (withReturns copied)
    original.shell.world.InputApart ∧ changed.shell.world.InputApart ∧
      original.InStep Machine.SameButInput changed ∧
      Rewritten (Machine.system.input original.shell.world)
        (Machine.system.input changed.shell.world) ∧
      (Session.run Machine.system (Supervision.run Machine.system) .default original).1 = 3 ∧
      (Session.run Machine.system (Supervision.run Machine.system) .default changed).1 = 0 ∧
      ¬ Session.RunsAlike Machine.system (Supervision.run Machine.system) Machine.SameButInput
        .default original changed := by
  obtain ⟨line, runs, words⟩ := exists_inputLine ("cat" ++ padding 8182)
  have named : Words.ofLine "cat" = ["cat"] := by decide
  rw [Words.ofLine_append_blanks (blank_padding _), named] at words
  have first : (Session.run Machine.system (Supervision.run Machine.system) .default
      (starting copied)).1 = 3 := by
    exact cut_copied.code_run "exit 3" runs words (by decide) (by decide)
      fun session _ => Session.runLine_exitThree session
  have second : (Session.run Machine.system (Supervision.run Machine.system) .default
      (starting (withReturns copied))).1 = 0 := by
    refine cut_withReturns.code_run "exit " ((inputLine_append (.inr rfl) _).trans runs) words
      (by decide) (by decide) ?_
    intro session store
    exact Session.runLine_exit [] (by rw [store]; decide) fun _ => rfl
  refine ⟨inputApart_starting _, inputApart_starting _, inStep_starting _ _, .returns, first,
    second, ?_⟩
  rintro ⟨_, _, _, codes, _⟩
  rw [first, second] at codes
  cases codes

end PipelineShell
