/-
Two sessions in worlds that the shell cannot tell apart.

All that the shell learns about the world are the answers of the system, and what it then does
depends on nothing else. So if the system answers alike in two worlds, and goes on to do so in the
worlds that it leaves, a line comes to the same in both: the same outcome, the same variables, the
same descriptors and the same history. This is proved for each function of the shell, one run beside
the other.

Of what runs the pipelines nothing like this is known. It is only asked for at the pipelines that
the two sessions hand over, as these are handed over: there running one has to take nothing from the
input and to come to the same in both. Two sessions go through their lines together under this
condition, one line of each at a time.
-/

import PipelineShell.Proofs.Reading

namespace PipelineShell

variable {σ : Type}

/-! ### Results in two worlds -/

/-- Whether two results are the same, and what they leave behind is related. -/
def Matching {α β : Type} (related : β → β → Prop) (first second : α × β) : Prop :=
  first.1 = second.1 ∧ related first.2 second.2

theorem Matching.exists_eq {α β : Type} {related : β → β → Prop} {first second : α × β}
    (matching : Matching related first second) :
    ∃ value one other, first = (value, one) ∧ second = (value, other) ∧ related one other :=
  ⟨first.1, first.2, second.2, rfl, Prod.ext matching.1.symm rfl, matching.2⟩

/-- Whether a system answers in one world as in another that is related to it, and leaves them
related. -/
structure System.Indifferent (system : System σ) (same : σ → σ → Prop) : Prop where
  openFile : ∀ path truncate serial first second, same first second →
    Matching same (system.openFile path truncate serial first)
      (system.openFile path truncate serial second)
  makePipe : ∀ serial first second, same first second →
    Matching same (system.makePipe serial first) (system.makePipe serial second)
  changeDirectory : ∀ path first second, same first second →
    Matching same (system.changeDirectory path first) (system.changeDirectory path second)
  write : ∀ stream text first second, same first second →
    same (system.write stream text first) (system.write stream text second)
  enter : ∀ entry first second, same first second →
    same (system.enter entry first) (system.enter entry second)

namespace Interpreter

/-- The same process in another world. -/
def inWorld (shell : Interpreter σ) (world : σ) : Interpreter σ := { shell with world }

/-- Whether two processes are the same but for their worlds, which are related. -/
def InStep (same : σ → σ → Prop) (first second : Interpreter σ) : Prop :=
  ∃ world, second = first.inWorld world ∧ same first.world world

theorem closeAll_inWorld (shell : Interpreter σ) (world : σ) (descriptors : List Descriptor) :
    (shell.inWorld world).closeAll descriptors = (shell.closeAll descriptors).inWorld world := by
  induction descriptors generalizing shell with
  | nil => rfl
  | cons descriptor rest inductionHypothesis => exact inductionHypothesis (shell.close descriptor)

namespace InStep

variable {system : System σ} {same : σ → σ → Prop} {first second : Interpreter σ}
variable (inStep : first.InStep same second)
include inStep

theorem record (event : Event) : (first.record event).InStep same (second.record event) := by
  obtain ⟨world, rfl, related⟩ := inStep
  exact ⟨world, rfl, related⟩

theorem closeAll (descriptors : List Descriptor) :
    (first.closeAll descriptors).InStep same (second.closeAll descriptors) := by
  obtain ⟨world, rfl, related⟩ := inStep
  exact ⟨world, first.closeAll_inWorld world descriptors,
    (first.world_closeAll descriptors).symm ▸ related⟩

variable (indifferent : system.Indifferent same)
include indifferent

theorem enter (level : Level) (message : String) :
    (first.enter system level message).InStep same (second.enter system level message) := by
  obtain ⟨world, rfl, related⟩ := inStep
  exact ⟨_, rfl, indifferent.enter _ _ _ related⟩

theorem write (stream : Stream) (text : String) :
    (first.write system stream text).InStep same (second.write system stream text) := by
  obtain ⟨world, rfl, related⟩ := inStep
  exact ⟨_, rfl, indifferent.write _ _ _ _ related⟩

theorem openFile (path : String) (truncate : Bool) :
    Matching (InStep same) (first.openFile system path truncate)
      (second.openFile system path truncate) := by
  obtain ⟨world, rfl, related⟩ := inStep
  unfold Interpreter.openFile
  cases systemPath path with
  | error fault => exact ⟨rfl, world, rfl, related⟩
  | ok bytes =>
    dsimp only
    by_cases room : first.hasRoom 1
    · rw [if_pos room, if_pos (show (first.inWorld world).hasRoom 1 = true from room)]
      obtain ⟨answer, one, other, asked, askedToo, kept⟩ :=
        (indifferent.openFile bytes truncate first.minted _ _ related).exists_eq
      simp only [Interpreter.record, inWorld] at asked askedToo ⊢
      rw [asked, askedToo]
      cases answer with
      | error errno => exact ⟨rfl, other, rfl, kept⟩
      | ok => exact ⟨rfl, other, rfl, kept⟩
    · rw [if_neg room, if_neg (show ¬ (first.inWorld world).hasRoom 1 = true from room)]
      exact ⟨rfl, world, rfl, related⟩

theorem makePipe :
    Matching (InStep same) (first.makePipe system) (second.makePipe system) := by
  obtain ⟨world, rfl, related⟩ := inStep
  unfold Interpreter.makePipe
  by_cases room : first.hasRoom 2
  · rw [if_pos room, if_pos (show (first.inWorld world).hasRoom 2 = true from room)]
    obtain ⟨answer, one, other, asked, askedToo, kept⟩ :=
      (indifferent.makePipe first.minted _ _ related).exists_eq
    simp only [inWorld] at asked askedToo ⊢
    rw [asked, askedToo]
    cases answer with
    | error errno => exact ⟨rfl, other, rfl, kept⟩
    | ok => exact ⟨rfl, other, rfl, kept⟩
  · rw [if_neg room, if_neg (show ¬ (first.inWorld world).hasRoom 2 = true from room)]
    exact ⟨rfl, world, rfl, related⟩

end InStep

end Interpreter

/-! ### Building a pipeline -/

namespace Construction

variable {system : System σ} {same : σ → σ → Prop} {first second : Interpreter σ}
variable (indifferent : system.Indifferent same)
include indifferent

theorem scan_inStep (mode : OutputMode) (place : Place) (words : List String) (stage : Stage)
    (background : Bool) (inStep : first.InStep same second) :
    Matching (Interpreter.InStep same) (scan system mode place words stage background first)
      (scan system mode place words stage background second) := by
  fun_induction scan system mode place words stage background first generalizing second with
  | case1 stage background first => exact ⟨rfl, inStep⟩
  | case2 word rest stage background first plain inductionHypothesis =>
    rw [scan, plain]
    exact inductionHypothesis inStep
  | case3 word rest stage background first asked inductionHypothesis =>
    rw [scan, asked]
    exact inductionHypothesis inStep
  | case4 word rest stage background first stray =>
    rw [scan, stray]
    exact ⟨rfl, inStep.closeAll _⟩
  | case5 word stage background first direction redirects allowed =>
    simp only [scan, redirects, allowed, if_pos]
    exact ⟨rfl, inStep.closeAll _⟩
  | case6 word stage background first direction redirects allowed target rest operator =>
    simp only [scan, redirects, allowed, operator, if_pos]
    exact ⟨rfl, inStep.closeAll _⟩
  | case7 word stage background first direction redirects allowed target rest plain fault after
      failed =>
    obtain ⟨answer, one, other, asked, askedToo, next⟩ :=
      (inStep.openFile indifferent target (truncates mode direction)).exists_eq
    obtain ⟨rfl, rfl⟩ := Prod.mk.inj (failed.symm.trans asked)
    simp only [scan, redirects, allowed, if_pos, plain, askedToo]
    exact ⟨rfl, next.closeAll _⟩
  | case8 word stage background first direction redirects allowed target rest plain descriptor after
      opened attached replaced taken inductionHypothesis =>
    obtain ⟨answer, one, other, asked, askedToo, next⟩ :=
      (inStep.openFile indifferent target (truncates mode direction)).exists_eq
    obtain ⟨rfl, rfl⟩ := Prod.mk.inj (opened.symm.trans asked)
    obtain ⟨rfl, rfl⟩ := Prod.mk.inj taken
    simp only [scan, redirects, allowed, if_pos, plain, askedToo]
    exact inductionHypothesis (next.closeAll _)
  | case9 word rest stage background first direction redirects refused =>
    simp only [scan, redirects, refused]
    exact ⟨rfl, inStep.closeAll _⟩

theorem buildStage_inStep (mode : OutputMode) (place : Place) (segment : List String)
    (background : Bool) (inStep : first.InStep same second) :
    Matching (Interpreter.InStep same) (buildStage system mode place segment background first)
      (buildStage system mode place segment background second) := by
  cases segment with
  | nil => exact ⟨rfl, inStep⟩
  | cons program rest =>
    unfold buildStage
    dsimp only
    cases Operator.ofWord? program with
    | some operator => exact ⟨rfl, inStep⟩
    | none => exact scan_inStep indifferent mode place rest _ background inStep

theorem buildStages_inStep (mode : OutputMode) (last : Nat) (segments : List (List String))
    (built : List Stage) (background : Bool) (inStep : first.InStep same second) :
    Matching (Interpreter.InStep same)
      (buildStages system mode last segments built background first)
      (buildStages system mode last segments built background second) := by
  induction segments generalizing built background first second with
  | nil => exact ⟨rfl, inStep⟩
  | cons segment rest inductionHypothesis =>
    obtain ⟨answer, one, other, read, readToo, next⟩ :=
      (buildStage_inStep indifferent mode ⟨built.length, last⟩ segment background inStep).exists_eq
    rw [buildStages, buildStages, read, readToo]
    rcases answer with error | ⟨stage, isBackground⟩
    · exact ⟨rfl, (next.enter indifferent _ _).closeAll _⟩
    · exact inductionHypothesis _ isBackground next

theorem join_inStep (left : Stage) (rest : List Stage) (inStep : first.InStep same second) :
    Matching (Interpreter.InStep same) (join system left rest first)
      (join system left rest second) := by
  induction rest generalizing left first second with
  | nil => exact ⟨rfl, inStep⟩
  | cons right rest inductionHypothesis =>
    obtain ⟨answer, one, other, made, madeToo, next⟩ := (inStep.makePipe indifferent).exists_eq
    rw [join, join, made, madeToo]
    cases answer with
    | error errno => exact ⟨rfl, next.closeAll _⟩
    | ok ends =>
      have attached := ((next.record (.joined left right)).closeAll
        (left.endpoint .output).owned?.toList).closeAll (right.endpoint .input).owned?.toList
      obtain ⟨result, reached, reachedToo, joined, joinedToo, last⟩ :=
        (inductionHypothesis (right.connect .input (.owned ends.readEnd)) attached).exists_eq
      dsimp only [Interpreter.attach]
      rw [joined, joinedToo]
      cases result with
      | error errno => exact ⟨rfl, last.closeAll _⟩
      | ok stages => exact ⟨rfl, last⟩

theorem joinAll_inStep (stages : List Stage) (inStep : first.InStep same second) :
    Matching (Interpreter.InStep same) (joinAll system stages first)
      (joinAll system stages second) := by
  cases stages with
  | nil => exact ⟨rfl, inStep⟩
  | cons left rest => exact join_inStep indifferent left rest inStep

theorem build_inStep (mode : OutputMode) (words : List String) (inStep : first.InStep same second) :
    Matching (Interpreter.InStep same) (build system mode words first)
      (build system mode words second) := by
  unfold build
  by_cases nothing : words = []
  · rw [if_pos nothing, if_pos nothing]
    exact ⟨rfl, inStep⟩
  · rw [if_neg nothing, if_neg nothing]
    obtain ⟨answer, one, other, read, readToo, next⟩ :=
      (buildStages_inStep indifferent mode ((segments words).length - 1) (segments words) [] false
        inStep).exists_eq
    dsimp only
    rw [read, readToo]
    rcases answer with error | ⟨stages, background⟩
    · exact ⟨rfl, next⟩
    · obtain ⟨result, reached, reachedToo, joined, joinedToo, last⟩ :=
        (joinAll_inStep indifferent stages next).exists_eq
      dsimp only
      rw [joined, joinedToo]
      cases result with
      | error errno => exact ⟨rfl, last⟩
      | ok pipeline => exact ⟨rfl, last.enter indifferent _ _⟩

end Construction

/-! ### Carrying out a line -/

namespace Builtin

variable {system : System σ} {same : σ → σ → Prop} {first second : Interpreter σ}
variable (indifferent : system.Indifferent same)
include indifferent

theorem moveTo_inStep (target : String) (inStep : first.InStep same second) :
    Matching (Interpreter.InStep same) (moveTo system target first)
      (moveTo system target second) := by
  unfold moveTo
  cases systemPath target with
  | error fault => exact ⟨rfl, inStep⟩
  | ok path =>
    obtain ⟨world, rfl, related⟩ := inStep
    obtain ⟨answer, one, other, asked, askedToo, kept⟩ :=
      (indifferent.changeDirectory path _ _ related).exists_eq
    simp only [Interpreter.inWorld] at asked askedToo ⊢
    rw [asked, askedToo]
    cases answer with
    | error errno => exact ⟨rfl, other, rfl, kept⟩
    | ok => exact ⟨rfl, other, rfl, kept⟩

theorem run_inStep (builtin : Builtin) (arguments : List String) (store : Variables)
    (inStep : first.InStep same second) :
    Matching (Interpreter.InStep same) (builtin.run system arguments store first)
      (builtin.run system arguments store second) := by
  have entered := inStep.enter indifferent .debug
    ("builtin " ++ builtin.name ++ " " ++ Text.quotedList arguments)
  unfold run
  cases builtin with
  | help => exact ⟨rfl, entered.write indifferent _ _⟩
  | changeDirectory =>
    obtain ⟨answer, one, other, moved, movedToo, next⟩ :=
      (moveTo_inStep indifferent (destination arguments store) entered).exists_eq
    dsimp only [carryOut]
    rw [moved, movedToo]
    cases answer with
    | error fault => exact ⟨rfl, next.write indifferent _ _⟩
    | ok => exact ⟨rfl, next⟩
  | exit =>
    cases arguments with
    | nil => exact ⟨rfl, entered⟩
    | cons code rest =>
      dsimp only [carryOut]
      cases Text.readCode? code with
      | some number => exact ⟨rfl, entered⟩
      | none => exact ⟨rfl, entered.write indifferent _ _⟩

end Builtin

namespace Session

/-- Whether two sessions are the same but for their worlds, which are related. -/
def InStep (same : σ → σ → Prop) (first second : Session σ) : Prop :=
  first.store = second.store ∧ first.shell.InStep same second.shell

variable {system : System σ} {executor : Executor σ} {same : σ → σ → Prop}
variable {first second : Session σ}

section

variable (indifferent : system.Indifferent same)
include indifferent

theorem InStep.enter (inStep : first.InStep same second) (level : Level) (message : String) :
    (first.enter system level message).InStep same (second.enter system level message) :=
  ⟨inStep.1, inStep.2.enter indifferent level message⟩

theorem InStep.write (inStep : first.InStep same second) (stream : Stream) (text : String) :
    (first.write system stream text).InStep same (second.write system stream text) :=
  ⟨inStep.1, inStep.2.write indifferent stream text⟩

theorem assign_inStep (word : String) (changed : Variables) (rest : List String)
    (inStep : first.InStep same second) :
    (assign system word changed rest first).InStep same
      (assign system word changed rest second) := by
  unfold assign
  by_cases nothing : rest = []
  · simp only [if_pos nothing]
    exact ⟨rfl, inStep.2⟩
  · simp only [if_neg nothing]
    exact ⟨rfl, (inStep.enter indifferent _ _).2⟩

theorem runBuiltin_inStep (builtin : Builtin) (rest : List String)
    (inStep : first.InStep same second) :
    Matching (InStep same) (runBuiltin system builtin rest first)
      (runBuiltin system builtin rest second) := by
  unfold runBuiltin
  dsimp only
  generalize rest.takeWhile (fun word => !isOperator word) = arguments
  obtain ⟨status, one, other, ran, ranToo, next⟩ :=
    (builtin.run_inStep indifferent arguments second.store inStep.2).exists_eq
  rw [inStep.1, ran, ranToo]
  have carried : InStep same ⟨second.store, one⟩ ⟨second.store, other⟩ := ⟨rfl, next⟩
  by_cases short : arguments.length < rest.length
  · simp only [if_pos short]
    have warned := carried.enter indifferent .warn
      ("pipes and redirections are ignored for builtin '" ++ builtin.name ++ "'")
    cases status <;> exact ⟨rfl, warned⟩
  · simp only [if_neg short]
    cases status <;> exact ⟨rfl, carried⟩

/-- Words that ask for no programs come to the same in two worlds that are related. -/
theorem runWords_inStep (mode : OutputMode) {words : List String} (asks : ¬ AsksForPrograms words)
    (inStep : first.InStep same second) :
    Matching (InStep same) (runWords system executor mode words first)
      (runWords system executor mode words second) := by
  cases words with
  | nil => exact ⟨rfl, inStep⟩
  | cons word rest =>
    simp only [runWords, Variables.assign?, inStep.1]
    cases writes : splitAssignment? word with
    | some pair => exact ⟨rfl, assign_inStep indifferent word _ rest inStep⟩
    | none =>
      cases named : Builtin.ofName? word with
      | some builtin =>
        obtain ⟨outcome, one, other, ran, ranToo, next⟩ :=
          (runBuiltin_inStep indifferent builtin rest inStep).exists_eq
        simp only [Option.map_none, ran, ranToo]
        exact ⟨rfl, next⟩
      | none => exact absurd ⟨writes, named⟩ asks

omit indifferent in
theorem concluded_inStep {ending other : Except ExecError Int × Interpreter σ}
    (stores : first.store = second.store)
    (matching : Matching (Interpreter.InStep same) ending other) :
    Matching (InStep same) (concluded first ending) (concluded second other) := by
  obtain ⟨result, one, another, rfl, rfl, ended⟩ := matching.exists_eq
  cases result <;> exact ⟨rfl, stores, ended⟩

variable {mode : OutputMode} {line : String}

/-- A line comes to the same in two worlds that are related, if what it hands over does. -/
theorem runLine_inStep (inStep : first.InStep same second)
    (runs : ∀ pipeline store shell other,
      Hands system mode line first pipeline store shell →
      Hands system mode line second pipeline store other → shell.InStep same other →
      Matching (Interpreter.InStep same) (executor pipeline store shell)
        (executor pipeline store other)) :
    Matching (InStep same) (runLine system executor mode line first)
      (runLine system executor mode line second) := by
  have stores := inStep.1
  cases expanded : first.store.expand (Words.ofLine line) with
  | error error =>
    unfold runLine
    rw [← stores, expanded]
    exact ⟨rfl, inStep⟩
  | ok words =>
    have expandedToo : second.store.expand (Words.ofLine line) = .ok words := stores ▸ expanded
    have entered := inStep.enter indifferent .debug ("tokens: " ++ Text.quotedList words)
    by_cases asks : AsksForPrograms words
    · obtain ⟨answer, one, other, built, builtToo, next⟩ :=
        (Construction.build_inStep indifferent mode words entered.2).exists_eq
      cases answer with
      | error error =>
        rw [runLine_of_ok executor expanded, runLine_of_ok executor expandedToo,
          runWords_of_asks executor asks, runWords_of_asks executor asks,
          runPipeline_of_error executor built, runPipeline_of_error executor builtToo]
        exact ⟨rfl, stores, next⟩
      | ok pipeline =>
        have hands := hands_of_build expanded asks built
        have handsToo := hands_of_build expandedToo asks builtToo
        rw [← stores] at handsToo
        rw [hands, handsToo]
        exact concluded_inStep stores
          (runs pipeline _ _ _ hands handsToo (next.record (.handed pipeline)))
    · rw [runLine_of_ok executor expanded, runLine_of_ok executor expandedToo]
      exact runWords_inStep indifferent mode asks entered

variable {pipeline : Pipeline} {store : Variables} {shell : Interpreter σ}

/-- What the first of two sessions in step hands over, the second one hands over, too. -/
theorem Hands.exists_second (inStep : first.InStep same second)
    (hands : Hands system mode line first pipeline store shell) :
    ∃ other, Hands system mode line second pipeline store other ∧ shell.InStep same other := by
  obtain ⟨words, built, expanded, asks, builds, rfl, rfl⟩ := hands_iff.mp hands
  obtain ⟨answer, one, other, found, foundToo, next⟩ :=
    (Construction.build_inStep indifferent mode words
      (inStep.enter indifferent .debug ("tokens: " ++ Text.quotedList words)).2).exists_eq
  obtain ⟨rfl, rfl⟩ := Prod.mk.inj (builds.symm.trans found)
  rw [inStep.1] at expanded ⊢
  exact ⟨_, hands_of_build expanded asks foundToo, next.record (.handed pipeline)⟩

/-- What the second of two sessions in step hands over, the first one hands over, too. -/
theorem Hands.exists_first (inStep : first.InStep same second)
    (hands : Hands system mode line second pipeline store shell) :
    ∃ other, Hands system mode line first pipeline store other ∧ other.InStep same shell := by
  obtain ⟨words, built, expanded, asks, builds, rfl, rfl⟩ := hands_iff.mp hands
  obtain ⟨answer, one, other, found, foundToo, next⟩ :=
    (Construction.build_inStep indifferent mode words
      (inStep.enter indifferent .debug ("tokens: " ++ Text.quotedList words)).2).exists_eq
  obtain ⟨rfl, rfl⟩ := Prod.mk.inj (builds.symm.trans foundToo)
  rw [← inStep.1] at expanded ⊢
  exact ⟨_, hands_of_build expanded asks found, next.record (.handed pipeline)⟩

end

end Session

/-! ### Going through lines -/

/-- Whether worlds that are related may differ in what is left of the input: reading some of it
leaves them related. -/
structure System.IgnoresInput (system : System σ) (same : σ → σ → Prop) : Prop
    extends system.Indifferent same where
  skipInput : ∀ count first second, same first second →
    same (system.skipInput count first) second ∧ same first (system.skipInput count second)

/-- Whether an executor runs a pipeline that two sessions hand over without regard to their inputs:
it takes nothing from either of them, and comes to the same in both. -/
structure Executor.IgnoresInput (executor : Executor σ) (system : System σ) (Sound : σ → Prop)
    (same : σ → σ → Prop) (pipeline : Pipeline) (store : Variables) (first second : Interpreter σ) :
    Prop where
  keeps : system.KeepsInput Sound first.world (executor pipeline store first).2.world
  keepsToo : system.KeepsInput Sound second.world (executor pipeline store second).2.world
  matching : Matching (Interpreter.InStep same) (executor pipeline store first)
    (executor pipeline store second)

theorem System.IgnoresInput.skipBlocks {system : System σ} {same : σ → σ → Prop}
    (ignores : system.IgnoresInput same) (blocks others : List Nat) {first second : σ}
    (related : same first second) :
    same (PipelineShell.skipBlocks system blocks first)
      (PipelineShell.skipBlocks system others second) := by
  induction blocks generalizing first with
  | cons count rest inductionHypothesis =>
    exact inductionHypothesis (ignores.skipInput count _ _ related).1
  | nil =>
    induction others generalizing second with
    | nil => exact related
    | cons count rest inductionHypothesis =>
      exact inductionHypothesis (ignores.skipInput count _ _ related).2

namespace Session

section

variable (system : System σ) (executor : Executor σ) (settings : Settings)

/-- Notes what became of a line: an outcome is entered in the journal, and an error is reported. -/
def noted (result : Except LineError Outcome) (session : Session σ) : Session σ :=
  match result with
  | .ok outcome => session.enter system .debug outcome.label
  | .error error => session.write system .errors (report error.message)

/-- A session goes through lines, each of which is read after a prompt and comes to a result of its
own, until one of them exits, is not text, or is the last one. -/
inductive Course : List (Option String) → Session σ → List (Except LineError Outcome) →
    Int × Session σ → Prop where
  | noMore {session current : Session σ} (prompted : Prompted system settings session current) :
      Course [] session [] (0, current.write system .output "\n")
  | notText {session current : Session σ} (rest : List (Option String))
      (prompted : Prompted system settings session current) :
      Course (none :: rest) session []
        (1, current.write system .errors
          (report ("cannot read input: " ++ Fault.message .notText)))
  | exit {session current after : Session σ} {line : String} {code : Int}
      (rest : List (Option String)) (prompted : Prompted system settings session current)
      (ran : runLine system executor settings.outputMode line current =
        (.ok (.exit code), after)) :
      Course (some line :: rest) session [.ok (.exit code)] (code, after)
  | goesOn {session current after : Session σ} {line : String} {lines : List (Option String)}
      {result : Except LineError Outcome} {results : List (Except LineError Outcome)}
      {ending : Int × Session σ} (prompted : Prompted system settings session current)
      (ran : runLine system executor settings.outputMode line current = (result, after))
      (stays : ∀ code, result ≠ .ok (.exit code))
      (later : Course lines (noted system result after) results ending) :
      Course (some line :: lines) session (result :: results) ending

/-- A session carries out a line of its input, with the session as it is then. The index counts the
lines from the next one on, and `unread` was read before. -/
inductive CarriesOut : (unread : Bytes) → Session σ → (index : Nat) → String → Session σ →
    Prop where
  | next {unread left segment : Bytes} {session current : Session σ} {line : String}
      (reads : (session.write system .output settings.prompt).readLine system unread =
        (some segment, left, current)) (isText : Text.inputLine segment = some line) :
      CarriesOut unread session 0 line current
  | later {unread left segment : Bytes} {session current after reached : Session σ}
      {text line : String} {result : Except LineError Outcome} {index : Nat}
      (reads : (session.write system .output settings.prompt).readLine system unread =
        (some segment, left, current)) (isText : Text.inputLine segment = some text)
      (ran : runLine system executor settings.outputMode text current = (result, after))
      (stays : ∀ code, result ≠ .ok (.exit code))
      (carries : CarriesOut left (noted system result after) index line reached) :
      CarriesOut unread session (index + 1) line reached

/-- Whether two sessions run what they hand over without regard to their inputs: this is asked for
where both have come to the line at an index and hand over the same pipeline for it, being in
step. -/
def SpareInput (Sound : σ → Prop) (same : σ → σ → Prop) (unread unreadToo : Bytes)
    (first second : Session σ) : Prop :=
  ∀ index line one other,
    CarriesOut system executor settings unread first index line one →
    CarriesOut system executor settings unreadToo second index line other →
    ∀ pipeline store shell shellToo,
      Hands system settings.outputMode line one pipeline store shell →
      Hands system settings.outputMode line other pipeline store shellToo →
      shell.InStep same shellToo →
      executor.IgnoresInput system Sound same pipeline store shell shellToo

end

variable {system : System σ} {executor : Executor σ} {settings : Settings}
variable {same : σ → σ → Prop} {Sound : σ → Prop} {unread left : Bytes}

/-- Which lines a session carries out, if the next one is known. -/
theorem CarriesOut.of_reads {session current reached : Session σ} {segment : Bytes}
    {text line : String} {index : Nat}
    (carries : CarriesOut system executor settings unread session index line reached)
    (reads : (session.write system .output settings.prompt).readLine system unread =
      (some segment, left, current)) (isText : Text.inputLine segment = some text) :
    (index = 0 ∧ line = text ∧ reached = current) ∨
      ∃ later result after, index = later + 1 ∧
        runLine system executor settings.outputMode text current = (result, after) ∧
        (∀ code, result ≠ .ok (.exit code)) ∧
        CarriesOut system executor settings left (noted system result after) later line
          reached := by
  cases carries with
  | next readsToo isTextToo =>
    cases reads.symm.trans readsToo
    cases isText.symm.trans isTextToo
    exact .inl ⟨rfl, rfl, rfl⟩
  | later readsToo isTextToo ran stays carries =>
    cases reads.symm.trans readsToo
    cases isText.symm.trans isTextToo
    exact .inr ⟨_, _, _, rfl, ran, stays, carries⟩

/-- A line that does not exit is followed by the next one. -/
theorem runLines_of_stays {session current after : Session σ} {segment : Bytes} {text : String}
    {result : Except LineError Outcome}
    (reads : (session.write system .output settings.prompt).readLine system unread =
      (some segment, left, current))
    (isText : Text.inputLine segment = some text)
    (ran : runLine system executor settings.outputMode text current = (result, after))
    (stays : ∀ code, result ≠ .ok (.exit code)) (bound : Nat) :
    runLines system executor settings (bound + 1) unread session =
      runLines system executor settings bound left (noted system result after) := by
  rw [runLines, reads]
  dsimp only
  rw [isText]
  dsimp only
  rw [ran]
  cases result with
  | error error => rfl
  | ok outcome =>
    cases outcome with
    | exit code => exact absurd rfl (stays code)
    | empty | assigned | builtin | executed => rfl

/-- A line that exits is the last one. -/
theorem runLines_of_exits {session current : Session σ} {segment : Bytes} {text : String}
    {code : Int}
    (reads : (session.write system .output settings.prompt).readLine system unread =
      (some segment, left, current))
    (isText : Text.inputLine segment = some text)
    (exits : (runLine system executor settings.outputMode text current).1 = .ok (.exit code))
    (bound : Nat) :
    runLines system executor settings (bound + 1) unread session =
      (code, (runLine system executor settings.outputMode text current).2) := by
  rw [runLines, reads]
  dsimp only
  rw [isText]
  dsimp only
  rcases ran : runLine system executor settings.outputMode text current with ⟨result, after⟩
  rw [ran] at exits
  obtain rfl := exits
  rfl

/-- Noting what became of a line takes nothing from the input. -/
theorem noted_keeps {other : Executor σ} (undisturbed : Undisturbed system other Sound)
    (result : Except LineError Outcome) {session : Session σ} (sound : Sound session.shell.world) :
    system.KeepsInput Sound session.shell.world (noted system result session).shell.world := by
  cases result with
  | ok outcome => exact undisturbed.enter _ _ sound
  | error error => exact undisturbed.write _ _ _ sound

variable {first second : Session σ}

section

variable (ignores : system.IgnoresInput same)
include ignores

theorem Prompted.inStep {current other : Session σ}
    (prompted : Prompted system settings first current)
    (promptedToo : Prompted system settings second other) (inStep : first.InStep same second) :
    current.InStep same other := by
  obtain ⟨blocks, rfl⟩ := prompted
  obtain ⟨others, rfl⟩ := promptedToo
  obtain ⟨stores, world, shells, related⟩ :=
    inStep.write ignores.toIndifferent .output settings.prompt
  have skipped := ignores.skipBlocks blocks others related
  refine ⟨stores, _, ?_, skipped⟩
  unfold inWorld
  rw [shells]
  rfl

theorem noted_inStep (result : Except LineError Outcome) (inStep : first.InStep same second) :
    (noted system result first).InStep same (noted system result second) := by
  cases result with
  | ok outcome => exact inStep.enter ignores.toIndifferent _ _
  | error error => exact inStep.write ignores.toIndifferent _ _

end

variable {other : Executor σ} (undisturbed : Undisturbed system other Sound)
variable (ignores : system.IgnoresInput same)
include undisturbed ignores

/-- Two sessions in step that carry out a line stay in step and take nothing from their inputs, if
what they hand over is run without regard to these. -/
theorem runLine_together {mode : OutputMode} {line : String} (sound : Sound first.shell.world)
    (soundToo : Sound second.shell.world) (inStep : first.InStep same second)
    (spares : ∀ pipeline store shell shellToo,
      Hands system mode line first pipeline store shell →
      Hands system mode line second pipeline store shellToo → shell.InStep same shellToo →
      executor.IgnoresInput system Sound same pipeline store shell shellToo) :
    Matching (InStep same) (runLine system executor mode line first)
        (runLine system executor mode line second) ∧
      system.KeepsInput Sound first.shell.world
        (runLine system executor mode line first).2.shell.world ∧
      system.KeepsInput Sound second.shell.world
        (runLine system executor mode line second).2.shell.world := by
  have indifferent := ignores.toIndifferent
  refine ⟨runLine_inStep indifferent inStep fun pipeline store shell shellToo hands handsToo next =>
      (spares pipeline store shell shellToo hands handsToo next).matching,
    undisturbed.runLine_of_keeps ?_ sound, undisturbed.runLine_of_keeps ?_ soundToo⟩
  · intro pipeline store shell hands _
    obtain ⟨shellToo, handsToo, next⟩ := hands.exists_second indifferent inStep
    exact (spares pipeline store shell shellToo hands handsToo next).keeps
  · intro pipeline store shellToo handsToo _
    obtain ⟨shell, hands, next⟩ := handsToo.exists_first indifferent inStep
    exact (spares pipeline store shell shellToo hands handsToo next).keepsToo

/-- Two sessions in step with the same lines to come go through them to the same results, and end in
step. How the lines are cut from their inputs, and when these are read, may differ. -/
theorem runLines_together {lines : List (Option String)} {bound boundToo : Nat}
    {unreadToo : Bytes} (sound : Sound first.shell.world) (soundToo : Sound second.shell.world)
    (inStep : first.InStep same second)
    (toCome : Text.inputLines (unread ++ system.input first.shell.world) = lines)
    (toComeToo : Text.inputLines (unreadToo ++ system.input second.shell.world) = lines)
    (enough : lines.length < bound) (enoughToo : lines.length < boundToo)
    (spare : SpareInput system executor settings Sound same unread unreadToo first second) :
    ∃ results,
      Course system executor settings lines first results
        (runLines system executor settings bound unread first) ∧
      Course system executor settings lines second results
        (runLines system executor settings boundToo unreadToo second) ∧
      Matching (InStep same) (runLines system executor settings bound unread first)
        (runLines system executor settings boundToo unreadToo second) := by
  induction lines generalizing bound boundToo unread unreadToo first second with
  | nil =>
    obtain ⟨bound, rfl⟩ := Nat.exists_eq_add_one.mpr (Nat.zero_lt_of_lt enough)
    obtain ⟨boundToo, rfl⟩ := Nat.exists_eq_add_one.mpr (Nat.zero_lt_of_lt enoughToo)
    obtain ⟨_, current, reads, prompted⟩ :=
      readLine_of_inputLines_nil undisturbed settings sound toCome
    obtain ⟨_, currentToo, readsToo, promptedToo⟩ :=
      readLine_of_inputLines_nil undisturbed settings soundToo toComeToo
    rw [runLines, runLines, reads, readsToo]
    exact ⟨[], .noMore prompted, .noMore promptedToo, rfl,
      (prompted.inStep ignores promptedToo inStep).write ignores.toIndifferent _ _⟩
  | cons item lines inductionHypothesis =>
    obtain ⟨bound, rfl⟩ := Nat.exists_eq_add_one.mpr (Nat.zero_lt_of_lt enough)
    obtain ⟨boundToo, rfl⟩ := Nat.exists_eq_add_one.mpr (Nat.zero_lt_of_lt enoughToo)
    obtain ⟨segment, left, current, reads, prompted, currentSound, isItem, areItems⟩ :=
      readLine_of_inputLines_cons undisturbed settings sound toCome
    obtain ⟨segmentToo, leftToo, currentToo, readsToo, promptedToo, currentSoundToo, isItemToo,
      areItemsToo⟩ := readLine_of_inputLines_cons undisturbed settings soundToo toComeToo
    have readied := prompted.inStep ignores promptedToo inStep
    cases item with
    | none =>
      rw [runLines, runLines, reads, readsToo]
      dsimp only
      rw [isItem, isItemToo]
      exact ⟨[], .notText _ prompted, .notText _ promptedToo, rfl,
        readied.write ignores.toIndifferent _ _⟩
    | some line =>
      obtain ⟨matching, kept, keptToo⟩ := runLine_together undisturbed ignores currentSound
        currentSoundToo readied (spare 0 line current currentToo (.next reads isItem)
          (.next readsToo isItemToo))
      obtain ⟨result, after, afterToo, ran, ranToo, next⟩ := matching.exists_eq
      rw [ran] at kept
      rw [ranToo] at keptToo
      by_cases exits : ∃ code, result = .ok (.exit code)
      · obtain ⟨code, rfl⟩ := exits
        rw [runLines_of_exits reads isItem (congrArg Prod.fst ran),
          runLines_of_exits readsToo isItemToo (congrArg Prod.fst ranToo), ran, ranToo]
        exact ⟨_, .exit _ prompted ran, .exit _ promptedToo ranToo, rfl, next⟩
      · have stays : ∀ code, result ≠ .ok (.exit code) := fun code same => exits ⟨code, same⟩
        rw [runLines_of_stays reads isItem ran stays, runLines_of_stays readsToo isItemToo ranToo
          stays]
        obtain ⟨notedSound, notedSame⟩ := noted_keeps undisturbed result kept.1
        obtain ⟨notedSoundToo, notedSameToo⟩ := noted_keeps undisturbed result keptToo.1
        -- What is to come is what was there when the line had been read.
        rw [← kept.2, ← notedSame] at areItems
        rw [← keptToo.2, ← notedSameToo] at areItemsToo
        obtain ⟨results, course, courseToo, ended⟩ := inductionHypothesis notedSound notedSoundToo
          (noted_inStep ignores result next) areItems areItemsToo (Nat.lt_of_succ_lt_succ enough)
          (Nat.lt_of_succ_lt_succ enoughToo)
          fun index text one another carries carriesToo =>
            spare (index + 1) text one another (.later reads isItem ran stays carries)
              (.later readsToo isItemToo ranToo stays carriesToo)
        exact ⟨_, .goesOn prompted ran stays course, .goesOn promptedToo ranToo stays courseToo,
          ended⟩

end Session

end PipelineShell
