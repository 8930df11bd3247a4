/-
Joining stages makes one pipe after the other.

Between two pipes the build only hands the ends of the first one to their stages. As long as nothing
else was there to be replaced, that touches no descriptor, so joining stages asks the system for
exactly as many pipes in a row as there are neighbours, fails when one of them cannot be made, and
otherwise puts the ends of each pipe where its two stages meet.
-/

import Mathlib.Data.List.Chain
import PipelineShell.Proofs.Opening

namespace PipelineShell

open Construction Grammar Interpreter

variable {σ : Type}

/-! ### What was asked for -/

/-- A file that the system was asked for. -/
structure Request where
  path : String
  truncate : Bool
  serial : Nat
  deriving DecidableEq, Repr

/-- The request that an event is. -/
def Event.request? : Event → Option Request
  | .requested path truncate serial => some ⟨path, truncate, serial⟩
  | _ => none

/-- The files that the system was asked for, in order. -/
def Interpreter.requests (shell : Interpreter σ) : List Request := shell.recorded Event.request?

/-- Only opening a file asks for one. -/
theorem Does.requests_eq {system : System σ} {deeds : List Deed} {before after : Interpreter σ}
    (does : Does system deeds before after) (absent : .openFile ∉ deeds) :
    after.requests = before.requests := by
  refine does.recorded_eq fun deed mem event shows => ?_
  cases shows with
  | enter | write | close | makePipe | join => rfl
  | request | openFile => exact absurd mem absent

/-- Only files and pipes get serial numbers. -/
theorem Does.minted_eq {system : System σ} {deeds : List Deed} {before after : Interpreter σ}
    (does : Does system deeds before after) (noFile : .openFile ∉ deeds)
    (noPipe : .makePipe ∉ deeds) : after.minted = before.minted := by
  refine does.view_eq fun deed mem first next step => ?_
  cases step with
  | enter | write | close | join | changeDirectory => rfl
  | openFile => exact absurd mem noFile
  | makePipe => exact absurd mem noPipe

/-! ### Interpreters that differ in their histories only -/

/-- Two interpreters are alike if everything but their histories is the same, and they asked for the
same files. -/
structure Alike (first second : Interpreter σ) : Prop where
  table : first.table = second.table
  limit : first.limit = second.limit
  minted : first.minted = second.minted
  world : first.world = second.world
  requests : first.requests = second.requests

namespace Alike

variable {first second third : Interpreter σ}

theorem refl (shell : Interpreter σ) : Alike shell shell := ⟨rfl, rfl, rfl, rfl, rfl⟩

theorem trans (left : Alike first second) (right : Alike second third) : Alike first third :=
  ⟨left.table.trans right.table, left.limit.trans right.limit, left.minted.trans right.minted,
    left.world.trans right.world, left.requests.trans right.requests⟩

theorem record (shell : Interpreter σ) {event : Event} (other : event.request? = none) :
    Alike (shell.record event) shell :=
  ⟨rfl, rfl, rfl, rfl, recorded_record_of_none other shell⟩

/-- Making a pipe does not depend on the history. -/
theorem makePipe (alike : Alike first second) (system : System σ) :
    (first.makePipe system).1 = (second.makePipe system).1 ∧
      Alike (first.makePipe system).2 (second.makePipe system).2 := by
  obtain ⟨table, limit, minted, past, world, known⟩ := first
  obtain ⟨_, _, _, otherPast, _, _⟩ := second
  obtain ⟨rfl, rfl, rfl, rfl, requests⟩ := alike
  have sameRoom : hasRoom ⟨table, limit, minted, otherPast, world, known⟩ 2 =
      hasRoom ⟨table, limit, minted, past, world, known⟩ 2 := rfl
  simp only [Interpreter.makePipe, sameRoom]
  split
  · rcases system.makePipe minted world with ⟨errno | made, changed⟩
    · exact ⟨rfl, rfl, rfl, rfl, rfl, requests⟩
    · refine ⟨rfl, rfl, rfl, rfl, rfl, ?_⟩
      refine Eq.trans ?_ (requests.trans ?_)
      · exact (recorded_record_of_none rfl _).trans (recorded_record_of_none rfl _)
      · exact ((recorded_record_of_none rfl _).trans (recorded_record_of_none rfl _)).symm
  · exact ⟨rfl, rfl, rfl, rfl, rfl, requests⟩

end Alike

/-! ### Pipes in a row -/

/-- Makes so many pipes, one after the other. The first that cannot be made decides the error. -/
def makePipes (system : System σ) :
    Nat → Interpreter σ → Except Errno (List PipeEnds) × Interpreter σ
  | 0, shell => (.ok [], shell)
  | count + 1, shell =>
    match shell.makePipe system with
    | (.error errno, shell) => (.error errno, shell)
    | (.ok ends, shell) =>
      match makePipes system count shell with
      | (.error errno, shell) => (.error errno, shell)
      | (.ok pipes, shell) => (.ok (ends :: pipes), shell)

theorem length_of_makePipes {system : System σ} {count : Nat} {shell after : Interpreter σ}
    {pipes : List PipeEnds} (made : makePipes system count shell = (.ok pipes, after)) :
    pipes.length = count := by
  induction count generalizing shell pipes with
  | zero =>
    cases made
    rfl
  | succ count inductionHypothesis =>
    rw [makePipes] at made
    split at made
    · cases made
    · split at made
      · cases made
      · rename_i rest last more
        cases made
        rw [List.length_cons, inductionHypothesis more]

/-! ### Stages that get the ends of pipes -/

/-- Whether nothing is redirected where two neighbouring stages meet. -/
def Meet (left right : Stage) : Prop := left.output = .inherit ∧ right.input = .inherit

/-- Stages that meet still do when the first one is redirected in its input. -/
theorem isChain_connect_input {stage : Stage} {rest : List Stage}
    (meet : (stage :: rest).IsChain Meet) (endpoint : Endpoint) :
    (stage.connect .input endpoint :: rest).IsChain Meet := by
  refine List.IsChain.imp_head ?_ meet
  intro next meets
  exact meets

/-- Stages that are joined by these pipes. -/
def joinedBy : List Stage → List PipeEnds → List Stage
  | left :: right :: rest, ends :: pipes =>
    left.connect .output (.owned ends.writeEnd) ::
      joinedBy (right.connect .input (.owned ends.readEnd) :: rest) pipes
  | stages, _ => stages

/-- The input of a stage: the pipe before it, if there is one. -/
def inputAt (pipes : List PipeEnds) (stage : Stage) : Nat → Endpoint
  | 0 => stage.input
  | index + 1 => (pipes[index]?).elim stage.input fun ends => .owned ends.readEnd

/-- The output of a stage: the pipe after it, if there is one. -/
def outputAt (pipes : List PipeEnds) (stage : Stage) (index : Nat) : Endpoint :=
  (pipes[index]?).elim stage.output fun ends => .owned ends.writeEnd

theorem length_joinedBy (stages : List Stage) (pipes : List PipeEnds) :
    (joinedBy stages pipes).length = stages.length := by
  induction pipes generalizing stages with
  | nil => rcases stages with _ | ⟨left, _ | ⟨right, rest⟩⟩ <;> rfl
  | cons ends pipes inductionHypothesis =>
    obtain _ | ⟨left, _ | ⟨right, rest⟩⟩ := stages
    · rfl
    · rfl
    · rw [joinedBy, List.length_cons, inductionHypothesis]
      rfl

theorem getElem?_joinedBy {stages : List Stage} {pipes : List PipeEnds}
    (enough : stages.length = pipes.length + 1) (index : Nat) :
    (joinedBy stages pipes)[index]? = stages[index]?.map fun stage =>
      ⟨stage.program, stage.arguments, inputAt pipes stage index, outputAt pipes stage index⟩ := by
  induction pipes generalizing stages index with
  | nil =>
    obtain ⟨stage, rfl⟩ := List.length_eq_one_iff.mp enough
    cases index <;> rfl
  | cons ends pipes inductionHypothesis =>
    obtain _ | ⟨left, _ | ⟨right, rest⟩⟩ := stages
    · cases enough
    · cases enough
    · cases index with
      | zero => rfl
      | succ index =>
        have enoughLater : (right.connect .input (.owned ends.readEnd) :: rest).length =
            pipes.length + 1 := Nat.succ.inj enough
        refine (inductionHypothesis enoughLater index).trans ?_
        cases index <;> rfl

/-- Joining a stage with those after it asks for their pipes. -/
theorem join_eq_makePipes (system : System σ) (left : Stage) (rest : List Stage)
    {shell other : Interpreter σ} (alike : Alike shell other)
    (meet : (left :: rest).IsChain Meet) :
    match makePipes system rest.length other with
    | (.error errno, failed) =>
      (join system left rest shell).1 = .error errno ∧
        (join system left rest shell).2.minted = failed.minted
    | (.ok pipes, after) =>
      (join system left rest shell).1 = .ok (joinedBy (left :: rest) pipes) ∧
        Alike (join system left rest shell).2 after := by
  induction rest generalizing left shell other with
  | nil => exact ⟨rfl, alike⟩
  | cons right rest inductionHypothesis =>
    obtain ⟨⟨outputFree, inputFree⟩, meetLater⟩ := List.isChain_cons_cons.mp meet
    obtain ⟨same, alikeAfter⟩ := alike.makePipe system
    simp only [List.length_cons, makePipes, join]
    generalize shell.makePipe system = here at same alikeAfter ⊢
    generalize other.makePipe system = there at same alikeAfter ⊢
    obtain ⟨outcome, after⟩ := here
    obtain ⟨_, afterThere⟩ := there
    obtain rfl : outcome = _ := same
    cases outcome with
    | error errno => exact ⟨rfl, (minted_closeAll after _).trans alikeAfter.minted⟩
    | ok ends =>
      -- Nothing is replaced where the two stages meet, so attaching closes nothing.
      have closesNothing :
          ((after.record (.joined left right)).attach left .output ends.writeEnd).2.attach right
            .input ends.readEnd =
          (right.connect .input (.owned ends.readEnd), after.record (.joined left right)) := by
        unfold attach
        simp only [Stage.endpoint, outputFree, inputFree]
        rfl
      have alikeRecorded : Alike (after.record (.joined left right)) afterThere :=
        (Alike.record after rfl).trans alikeAfter
      have next := inductionHypothesis (right.connect .input (.owned ends.readEnd)) alikeRecorded
        (isChain_connect_input meetLater _)
      dsimp only at next ⊢
      rw [closesNothing]
      generalize join system (right.connect .input (.owned ends.readEnd)) rest
        (after.record (.joined left right)) = joined at next ⊢
      generalize makePipes system rest.length afterThere = made at next ⊢
      obtain ⟨outcome, done⟩ := joined
      rcases made with ⟨errno | pipes, last⟩
      · obtain ⟨rfl, minted⟩ : outcome = _ ∧ _ := next
        exact ⟨rfl, (minted_closeAll done _).trans minted⟩
      · obtain ⟨rfl, alikeDone⟩ : outcome = _ ∧ _ := next
        exact ⟨rfl, alikeDone⟩

/-! ### The stages of a line -/

/-- Between the stages of a line nothing is redirected. -/
theorem isChain_seated {last first : Nat} (ends : Ends) (commands : List Command)
    (bound : first + commands.length ≤ last + 1) :
    (seated last ends first commands).IsChain Meet := by
  induction commands generalizing first with
  | nil => exact .nil
  | cons command rest inductionHypothesis =>
    cases rest with
    | nil => exact .singleton _
    | cons next rest =>
      rw [List.length_cons, List.length_cons] at bound
      have notLast : Place.allows ⟨first, last⟩ .output = false := by
        simp only [Place.allows, decide_eq_false_iff_not]
        omega
      have notFirst : Place.allows ⟨first + 1, last⟩ .input = false := rfl
      refine List.isChain_cons_cons.mpr ⟨⟨?_, ?_⟩, inductionHypothesis (by
        rw [List.length_cons]; omega)⟩
      · simp only [Command.stage, seat, notLast, Bool.false_eq_true, if_false]
      · simp only [Command.stage, seat, notFirst, Bool.false_eq_true, if_false]

theorem joinAll_seated (system : System σ) (ends : Ends) (commands : List Command)
    (shell : Interpreter σ) :
    match makePipes system (commands.length - 1) shell with
    | (.error errno, failed) =>
      (joinAll system (seated (commands.length - 1) ends 0 commands) shell).1 = .error errno ∧
        (joinAll system (seated (commands.length - 1) ends 0 commands) shell).2.minted =
          failed.minted
    | (.ok pipes, after) =>
      (joinAll system (seated (commands.length - 1) ends 0 commands) shell).1 =
          .ok (joinedBy (seated (commands.length - 1) ends 0 commands) pipes) ∧
        Alike (joinAll system (seated (commands.length - 1) ends 0 commands) shell).2 after := by
  have meet : (seated (commands.length - 1) ends 0 commands).IsChain Meet :=
    isChain_seated ends commands (by omega)
  cases commands with
  | nil => exact ⟨rfl, .refl shell⟩
  | cons command rest =>
    have joined := join_eq_makePipes system _ _ (.refl shell) meet
    rw [length_seated] at joined
    exact joined

/-- The pipeline that commands ask for, with these ends and pipes. -/
def pipelineOf (commands : List Command) (ends : Ends) (pipes : List PipeEnds) : Pipeline :=
  ⟨joinedBy (seated (commands.length - 1) ends 0 commands) pipes,
    commands.any Command.isBackground⟩

/-- Building from commands that fit their places opens their redirections, makes their pipes and
gives them what was opened. -/
theorem build_of_commands (system : System σ) (mode : OutputMode) {words : List String}
    {commands : List Command} (nonempty : words ≠ []) (grammatical : Grammatical words commands)
    (shell : Interpreter σ) :
    match openEach system mode (commands.flatMap Command.redirections) Ends.inherited shell with
    | (.error error, failed) =>
      (build system mode words shell).1 = .error error ∧
        (build system mode words shell).2.minted = failed.minted
    | (.ok ends, after) =>
      match makePipes system (commands.length - 1) after with
      | (.error errno, failed) =>
        (build system mode words shell).1 = .error (.cannotPipe errno) ∧
          (build system mode words shell).2.minted = failed.minted
      | (.ok pipes, done) =>
        (build system mode words shell).1 = .ok (pipelineOf commands ends pipes) ∧
          (build system mode words shell).2.table = done.table ∧
          (build system mode words shell).2.minted = done.minted ∧
          (build system mode words shell).2.requests = done.requests := by
  have opens := build_of_grammatical system mode nonempty grammatical shell
  generalize openEach system mode (commands.flatMap Command.redirections) Ends.inherited shell =
    opened at opens ⊢
  rcases opened with ⟨error | ends, after⟩
  · exact ⟨opens.1, opens.2.minted_eq (by decide) (by decide)⟩
  · have joins := joinAll_seated system ends commands after
    dsimp only at opens ⊢
    rw [opens]
    generalize makePipes system (commands.length - 1) after = made at joins ⊢
    generalize joinAll system (seated (commands.length - 1) ends 0 commands) after = joined
      at joins ⊢
    obtain ⟨outcome, done⟩ := joined
    rcases made with ⟨errno | pipes, last⟩
    · obtain ⟨rfl, minted⟩ : outcome = _ ∧ _ := joins
      exact ⟨rfl, minted⟩
    · obtain ⟨rfl, alike⟩ : outcome = _ ∧ _ := joins
      exact ⟨rfl, alike.table, alike.minted, (recorded_record_of_none rfl _).trans alike.requests⟩

end PipelineShell
