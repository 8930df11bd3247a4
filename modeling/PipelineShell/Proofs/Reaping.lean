/-
Every child that is started is waited for.

A run may stop at three places before it has started all its stages: at an empty program, at a
variable that cannot be handed over, and at the first stage that cannot be. Wherever it stops, it
closes what is left, and then it waits for the children that it did start, each of them once. This
file reads that off the history: what a run adds to it is first the starts of the children and the
closings of everything that the pipeline owns, and then one wait for each child and nothing else of
that kind. Failed waits change the outcome, but not the history.
-/

import Mathlib.Data.List.TakeWhile
import PipelineShell.Proofs.Handover
import PipelineShell.Proofs.History
import PipelineShell.Proofs.Wiring

namespace PipelineShell

open Supervision

variable {σ : Type}

namespace Supervision

/-! ### Starting children -/

section

variable {system : System σ} {environment : List Bytes}

/-- A stage without zero characters is started, if processes can be. -/
theorem spawn_of_not_hasNul (forks : ∀ world, ∃ pid, (system.fork world).1 = .ok pid)
    (clean : ∀ entry ∈ environment, (0 : UInt8) ∉ entry) {stage : Stage} (free : ¬ stage.HasNul)
    (pending : List Stage) (shell : Interpreter σ) :
    ∃ child after start, spawn system stage pending environment shell = (.ok child, after) ∧
      Happened [start] [] [] shell after ∧ start.stage = stage ∧ start.pid = child.pid := by
  obtain ⟨command, prepared⟩ := prepare_of_not_hasNul clean free
  obtain ⟨pid, succeeds⟩ := forks shell.world
  unfold spawn
  rw [prepared]
  rcases forked : system.fork shell.world with ⟨answer, world⟩
  rw [forked] at succeeds
  obtain rfl : answer = .ok pid := succeeds
  have starts (changed : σ) (start : Start) (message : String) :
      Happened [start] [] [] shell
        (({ shell with world := changed }.record (.started start)).enter system .info message) :=
    (Happened.record { shell with world := changed } (.started start)).trans
      (Happened.enter system .info message _)
  exact ⟨_, _, _, rfl, starts _ _ _, rfl, rfl⟩

/-- A stage with a zero character is not started. -/
theorem spawn_of_hasNul (system : System σ)
    (clean : ∀ entry ∈ environment, (0 : UInt8) ∉ entry) {stage : Stage} (nul : stage.HasNul)
    (pending : List Stage) (shell : Interpreter σ) :
    spawn system stage pending environment shell = (.error stage.rejection, shell) := by
  unfold spawn
  rw [prepare_of_hasNul clean nul]

/-- Starting the children of stages gets as far as the first stage that holds a zero character. It
closes all that the stages own, in order, and waits for nobody. -/
theorem spawnAll_happened (forks : ∀ world, ∃ pid, (system.fork world).1 = .ok pid)
    (clean : ∀ entry ∈ environment, (0 : UInt8) ∉ entry) (stages : List Stage)
    (children : List Child) (shell : Interpreter σ) :
    ∃ starts,
      Happened starts (stages.flatMap Stage.owned) [] shell
        (spawnAll system environment stages children shell).2.2 ∧
      starts.map Start.stage = stages.takeWhile (fun stage => ¬ stage.HasNul) ∧
      (spawnAll system environment stages children shell).1 =
        (stages.find? fun stage => stage.HasNul).map Stage.rejection ∧
      (spawnAll system environment stages children shell).2.1.map Child.pid =
        children.map Child.pid ++ starts.map Start.pid := by
  induction stages generalizing children shell with
  | nil => exact ⟨[], .refl shell, rfl, rfl, (List.append_nil _).symm⟩
  | cons stage pending inductionHypothesis =>
    by_cases nul : stage.HasNul
    · rw [spawnAll, spawn_of_hasNul system clean nul]
      refine ⟨[], Happened.closeAll shell _, ?_, ?_, (List.append_nil _).symm⟩
      · rw [List.takeWhile_cons_of_neg (by simpa using nul)]
        rfl
      · rw [List.find?_cons_of_pos (by simpa using nul)]
        rfl
    · obtain ⟨child, next, start, spawned, started, rfl, pid⟩ :=
        spawn_of_not_hasNul forks clean nul pending shell
      obtain ⟨starts, happened, reached, failure, pids⟩ :=
        inductionHypothesis (children ++ [child]) (next.release start.stage)
      rw [spawnAll, spawned]
      refine ⟨start :: starts, ?_, ?_, ?_, ?_⟩
      · exact (started.trans (Happened.closeAll next start.stage.owned)).trans happened
      · rw [List.map_cons, reached, List.takeWhile_cons_of_pos (by simpa using nul)]
      · rw [failure, List.find?_cons_of_neg (by simpa using nul)]
      · rw [pids, List.map_append, List.append_assoc, List.map_cons (f := Start.pid), pid]
        rfl

end

/-- The errors of waits. -/
def IsWaitError (error : ExecError) : Prop := ∃ program errno, error = .cannotWait program errno

theorem conclude_error {system : System σ} {child : Child} {ending : Ending}
    {shell : Interpreter σ} {error : ExecError}
    (failed : (conclude system child ending shell).1 = .error error) : IsWaitError error := by
  cases ending with
  | exited code => cases failed
  | killed signal => cases failed
  | failed errno => exact ⟨_, _, (Except.error.inj failed).symm⟩

theorem settle_error {system : System σ} {child : Child} {last : Ending}
    {reports : List WaitReport} {shell : Interpreter σ} {error : ExecError}
    (failed : (settle system child last reports shell).1 = .error error) : IsWaitError error := by
  fun_induction settle system child last reports shell with
  | case1 shell => exact conclude_error failed
  | case2 description rest shell inductionHypothesis => exact inductionHypothesis failed
  | case3 rest shell inductionHypothesis => exact inductionHypothesis failed
  | case4 ending rest shell _ => exact conclude_error failed

/-- If waiting fails, it is because of a wait. -/
theorem awaitAll_error {system : System σ} {children : List Child} {status : Int}
    {failure : Option ExecError} {shell : Interpreter σ} {error : ExecError}
    (earlier : ∀ reason, failure = some reason → IsWaitError reason)
    (failed : (awaitAll system children status failure shell).1 = .error error) :
    IsWaitError error := by
  induction children generalizing status failure shell with
  | nil =>
    cases failure with
    | none => cases failed
    | some reason => exact Except.error.inj failed ▸ earlier reason rfl
  | cons child rest inductionHypothesis =>
    unfold awaitAll at failed
    split at failed
    · exact inductionHypothesis earlier failed
    · rename_i reason after found
      refine inductionHypothesis (fun other same => ?_) failed
      cases failure with
      | some first => exact earlier other same
      | none =>
        have waited : IsWaitError reason := settle_error (congrArg Prod.fst found)
        exact Option.some.inj same ▸ waited

/-- A run that gets as far as its first child fails because of a start or because of a wait. -/
theorem spawnAll_or_isWaitError {system : System σ} {pipeline : Pipeline} {store : Variables}
    {environment : List Bytes} (named : ¬ ∃ stage ∈ pipeline.stages, stage.program = "")
    (handed : store.environment = .ok environment) {shell : Interpreter σ} {error : ExecError}
    (failed : (run system pipeline store shell).1 = .error error) :
    (spawnAll system environment pipeline.stages [] (notice system pipeline shell)).1 =
        some error ∨ IsWaitError error := by
  rw [run_of_environment system named handed] at failed
  dsimp only at failed
  cases failure :
      (spawnAll system environment pipeline.stages [] (notice system pipeline shell)).1 with
  | some reason =>
    rw [failure] at failed
    exact .inl (congrArg some (Except.error.inj failed))
  | none =>
    rw [failure] at failed
    have noFailure : ∀ reason, (none : Option ExecError) = some reason → IsWaitError reason :=
      fun _ same => nomatch same
    exact .inr (awaitAll_error noFailure failed)

/-! ### A whole run -/

/-- How a run treats its children. `waiting` is the interpreter when it begins to wait, `starts` are
the children that it starts, and `outcome` is how it ends. -/
structure Supervised (pipeline : Pipeline) (store : Variables) (shell waiting : Interpreter σ)
    (starts : List Start) (outcome : Except ExecError Int × Interpreter σ) : Prop where
  /-- When it begins to wait, it has closed all that the pipeline owns, and waited for nobody. -/
  launches : Happened starts pipeline.owned [] shell waiting
  /-- From then on it waits once for each child in order, and starts and closes nothing. -/
  reaps : Happened [] [] (starts.map Start.pid) waiting outcome.2
  /-- An empty program is refused before everything else. -/
  emptyCommand : (∃ stage ∈ pipeline.stages, stage.program = "") →
    starts = [] ∧ outcome.1 = .error .emptyCommand
  /-- A variable with a zero character is refused before any child is started. -/
  environment : (∀ stage ∈ pipeline.stages, stage.program ≠ "") → store.HasNul →
    starts = [] ∧ ∃ fault : NulByte,
      outcome.1 = .error (.invalidArgument ("environment: " ++ fault.message))
  /-- The first stage with a zero character is not started, nor any after it, and its rejection is
  reported whatever the waits for the earlier ones give. -/
  rejected : (∀ stage ∈ pipeline.stages, stage.program ≠ "") → ¬ store.HasNul →
    ∀ before stage after, pipeline.stages = before ++ stage :: after →
      (∀ earlier ∈ before, ¬ earlier.HasNul) → stage.HasNul →
      starts.map Start.stage = before ∧ outcome.1 = .error stage.rejection
  /-- Without zero characters all stages are started, and only a wait can fail. -/
  complete : (∀ stage ∈ pipeline.stages, stage.program ≠ "") → ¬ store.HasNul →
    (∀ stage ∈ pipeline.stages, ¬ stage.HasNul) →
      starts.map Start.stage = pipeline.stages ∧
        ∀ error, outcome.1 = .error error → IsWaitError error

/-- Whatever stops a run, every child that it started is waited for exactly once, after everything
that the pipeline owns has been closed, and the children that it started are those of the stages
before the one that stopped it. -/
theorem run_supervises (system : System σ)
    (forks : ∀ world, ∃ pid, (system.fork world).1 = .ok pid) (pipeline : Pipeline)
    (store : Variables) (shell : Interpreter σ) :
    ∃ waiting starts,
      Supervised pipeline store shell waiting starts (run system pipeline store shell) := by
  by_cases unnamed : ∃ stage ∈ pipeline.stages, stage.program = ""
  · have notNamed : ¬ ∀ stage ∈ pipeline.stages, stage.program ≠ "" := by simpa using unnamed
    rw [run_of_unnamed unnamed]
    exact ⟨shell.releaseAll pipeline.stages, [],
      { launches := Happened.closeAll shell _
        reaps := .refl _
        emptyCommand := fun _ => ⟨rfl, rfl⟩
        environment := fun named => absurd named notNamed
        rejected := fun named => absurd named notNamed
        complete := fun named => absurd named notNamed }⟩
  have noticed := notice_happened system pipeline shell
  cases handed : store.environment with
  | error fault =>
    have nul : store.HasNul := Variables.exists_environment_error_iff.mp ⟨fault, handed⟩
    rw [run_of_environment_error system unnamed handed]
    exact ⟨(notice system pipeline shell).releaseAll pipeline.stages, [],
      { launches := noticed.trans (Happened.closeAll _ _)
        reaps := .refl _
        emptyCommand := fun empty => absurd empty unnamed
        environment := fun _ _ => ⟨rfl, fault, rfl⟩
        rejected := fun _ clean => absurd nul clean
        complete := fun _ clean => absurd nul clean }⟩
  | ok environment =>
    have clean : ¬ store.HasNul := (Variables.environment_eq_ok_iff.mp handed).1
    obtain ⟨starts, happened, reached, failure, pids⟩ :=
      spawnAll_happened forks (Variables.zero_notMem_of_environment handed) pipeline.stages []
        (notice system pipeline shell)
    rw [run_of_environment system unnamed handed]
    generalize spawnAll system environment pipeline.stages [] _ = spawned
      at happened failure pids
    obtain ⟨stopped, children, waiting⟩ := spawned
    have waited := awaitAll_happened system children 0 none waiting
    rw [show children.map Child.pid = starts.map Start.pid from pids] at waited
    obtain rfl : stopped = _ := failure
    refine ⟨waiting, starts,
      { launches := noticed.trans happened
        reaps := waited
        emptyCommand := fun empty => absurd empty unnamed
        environment := fun _ nul => absurd nul clean
        rejected := ?_
        complete := ?_ }⟩
    · intro _ _ before stage after stages free nul
      have allFree : ∀ earlier ∈ before, decide (¬ earlier.HasNul) = true := by simpa using free
      have noneFound : before.find? (fun stage => decide stage.HasNul) = none := by
        simpa using free
      constructor
      · rw [reached, stages, List.takeWhile_append_of_pos allFree,
          List.takeWhile_cons_of_neg (by simpa using nul), List.append_nil]
      · rw [stages, List.find?_append, noneFound, List.find?_cons_of_pos (by simpa using nul)]
        rfl
    · intro _ _ free
      have noneFound : pipeline.stages.find? (fun stage => decide stage.HasNul) = none := by
        simpa using free
      constructor
      · rw [reached, List.takeWhile_eq_self_iff]
        simpa using free
      · have noFailure : ∀ reason, (none : Option ExecError) = some reason → IsWaitError reason :=
          fun _ same => nomatch same
        rw [noneFound]
        exact fun error failed => awaitAll_error noFailure failed

/-- A pipeline whose second stage has a zero character in an argument. -/
def secondRejected : Pipeline where
  stages := [.named "true", ⟨"echo", ["echo", "a\x00b"], .inherit, .owned 4⟩, .named "wc"]
  background := false

/-- The first stage is started and waited for, and the second one's arguments are reported. -/
theorem supervised_secondRejected :
    (∀ world, ∃ pid, (System.granting.fork world).1 = .ok pid) ∧
      ∃ waiting starts,
        Supervised secondRejected .empty (Interpreter.start 100) waiting starts
          (run System.granting secondRejected .empty (Interpreter.start 100)) ∧
        starts.map Start.stage = [.named "true"] ∧
        (run System.granting secondRejected .empty (Interpreter.start 100)).1 =
          .error (.invalidArgument "echo a\x00b") := by
  have forks : ∀ world, ∃ pid, (System.granting.fork world).1 = .ok pid := fun world => ⟨world, rfl⟩
  obtain ⟨waiting, starts, supervised⟩ :=
    run_supervises System.granting forks secondRejected .empty (Interpreter.start 100)
  have named : ∀ stage ∈ secondRejected.stages, stage.program ≠ "" := by decide
  have clean : ¬ Variables.empty.HasNul := by
    rintro ⟨name, value, found, _⟩
    cases found
  obtain ⟨started, outcome⟩ := supervised.rejected named clean [.named "true"]
    ⟨"echo", ["echo", "a\x00b"], .inherit, .owned 4⟩ [.named "wc"] rfl (by decide) (by decide)
  exact ⟨forks, waiting, starts, supervised, started, outcome⟩

end Supervision

end PipelineShell
