/-
Starting the children of a pipeline.

The stages are started one after the other, and between two of them the shell closes its copies of
what the earlier one owns. So each child inherits the table that the pipeline was given with, less
what the stages before it own, and it is told to close what its own stage and the later ones own.
When the shell begins to wait, it has closed everything that the pipeline owns, whether all children
could be started or not.
-/

import PipelineShell.Proofs.History

namespace PipelineShell

open Supervision

variable {σ : Type}

/-! ### The children that were started -/

/-- The children that were started, in order. -/
def Interpreter.starts (shell : Interpreter σ) : List Start := shell.recorded Event.start?

theorem starts_enter (system : System σ) (level : Level) (message : String)
    (shell : Interpreter σ) : (shell.enter system level message).starts = shell.starts :=
  Interpreter.recorded_record_of_none rfl shell

/-- The children that were started up to a later moment. -/
theorem Happened.starts_eq {starts : List Start} {closed : List Descriptor}
    {awaited : List ProcessId} {before after : Interpreter σ}
    (happened : Happened starts closed awaited before after) :
    after.starts = before.starts ++ starts := by
  obtain ⟨past, events, rfl, _, _⟩ := happened
  rw [Interpreter.starts, Interpreter.recorded, events, List.filterMap_append]
  rfl

/-- An error that a run ends with before it waits for anybody. -/
def Supervision.IsEarly (error : ExecError) : Prop :=
  ∀ program errno, error ≠ .cannotWait program errno

namespace Supervision

/-! ### Starting one child -/

/-- The start of a stage's child from a table. -/
def startOf (pid : ProcessId) (table : Table) (stage : Stage) (pending : List Stage) : Start :=
  ⟨pid, stage, table, closing stage pending, (childTable table stage pending).2⟩

theorem spawn_ok {system : System σ} {stage : Stage} {pending : List Stage}
    {environment : List Bytes} {shell after : Interpreter σ} {child : Child}
    (spawned : spawn system stage pending environment shell = (.ok child, after)) :
    after.table = shell.table ∧
      after.starts = shell.starts ++ [startOf child.pid shell.table stage pending] := by
  unfold spawn at spawned
  split at spawned
  · cases spawned
  · split at spawned
    · cases spawned
    · cases spawned
      refine ⟨rfl, (starts_enter _ _ _ _).trans ?_⟩
      exact Interpreter.recorded_record Event.start? _ _

theorem spawn_error {system : System σ} {stage : Stage} {pending : List Stage}
    {environment : List Bytes} {shell after : Interpreter σ} {error : ExecError}
    (failed : spawn system stage pending environment shell = (.error error, after)) :
    after.table = shell.table ∧ after.starts = shell.starts ∧ IsEarly error := by
  unfold spawn at failed
  split at failed
  · rename_i reason unprepared
    cases failed
    refine ⟨rfl, rfl, fun program errno same => ?_⟩
    subst same
    unfold prepare at unprepared
    dsimp only at unprepared
    split at unprepared
    · split at unprepared <;> cases unprepared
    · cases unprepared
  · split at failed
    · cases failed
      exact ⟨rfl, rfl, fun program errno same => nomatch same⟩
    · cases failed

/-! ### Starting all children -/

/-- Some stages from the first on were started one after the other, from this table on. -/
def Launched : Table → List Stage → List Start → Prop
  | _, _, [] => True
  | _, [], _ :: _ => False
  | table, stage :: pending, start :: later =>
    start = startOf start.pid table stage pending ∧
      Launched (closeIn table stage.owned) pending later

theorem launched_nil (table : Table) (stages : List Stage) : Launched table stages [] := by
  cases stages <;> trivial

theorem closeIn_append (table : Table) (first second : List Descriptor) :
    closeIn table (first ++ second) = closeIn (closeIn table first) second :=
  List.foldl_append

/-- The child of a stage inherits the table without what the stages before it own. -/
theorem Launched.eq_startOf {table : Table} {stages : List Stage} {starts : List Start}
    (launched : Launched table stages starts) {index : Nat} {start : Start}
    (found : starts[index]? = some start) :
    ∃ stage, stages[index]? = some stage ∧
      start = startOf start.pid (closeIn table ((stages.take index).flatMap Stage.owned)) stage
        (stages.drop (index + 1)) := by
  induction starts generalizing table stages index with
  | nil => cases found
  | cons first later inductionHypothesis =>
    cases stages with
    | nil => exact launched.elim
    | cons stage pending =>
      cases index with
      | zero =>
        obtain rfl : first = start := Option.some.inj found
        exact ⟨stage, rfl, launched.1⟩
      | succ index =>
        obtain ⟨other, there, started⟩ := inductionHypothesis launched.2 found
        refine ⟨other, there, ?_⟩
        rw [List.take_succ_cons, List.flatMap_cons, closeIn_append]
        exact started

theorem spawnAll_launched (system : System σ) (environment : List Bytes) (stages : List Stage)
    (children : List Child) (shell : Interpreter σ) :
    ∃ starts, Launched shell.table stages starts ∧
      (spawnAll system environment stages children shell).2.2.starts = shell.starts ++ starts ∧
      (spawnAll system environment stages children shell).2.2.table =
        closeIn shell.table (stages.flatMap Stage.owned) ∧
      (spawnAll system environment stages children shell).2.1.map Child.pid =
        children.map Child.pid ++ starts.map Start.pid ∧
      match (spawnAll system environment stages children shell).1 with
      | none => starts.length = stages.length
      | some error => IsEarly error := by
  induction stages generalizing children shell with
  | nil => exact ⟨[], trivial, (List.append_nil _).symm, rfl, (List.append_nil _).symm, rfl⟩
  | cons stage pending inductionHypothesis =>
    unfold spawnAll
    split
    · rename_i error after failed
      obtain ⟨table, starts, early⟩ := spawn_error failed
      refine ⟨[], trivial, ?_, ?_, (List.append_nil _).symm, early⟩
      · rw [List.append_nil, ← starts]
        exact Interpreter.recorded_closeAll (fun _ => rfl) after _
      · rw [← table]
        exact Interpreter.table_closeAll after _
    · rename_i child after started
      obtain ⟨table, starts⟩ := spawn_ok started
      obtain ⟨later, launched, startsLater, tableLater, pids, ended⟩ :=
        inductionHypothesis (children ++ [child]) (after.release stage)
      have tableClosed : (after.release stage).table = closeIn shell.table stage.owned := by
        rw [← table]
        exact Interpreter.table_closeAll after _
      have startsClosed : (after.release stage).starts = after.starts :=
        Interpreter.recorded_closeAll (fun _ => rfl) after _
      refine ⟨startOf child.pid shell.table stage pending :: later, ⟨rfl, ?_⟩, ?_, ?_, ?_, ?_⟩
      · rw [← tableClosed]
        exact launched
      · rw [startsLater, startsClosed, starts, List.append_assoc]
        rfl
      · rw [tableLater, tableClosed, List.flatMap_cons, closeIn_append]
      · rw [pids, List.map_append, List.append_assoc]
        rfl
      · generalize (spawnAll system environment pending (children ++ [child])
          (after.release stage)).1 = failure at ended ⊢
        cases failure with
        | none => exact congrArg (· + 1) ended
        | some error => exact ended

/-! ### A whole run -/

/-- What a run does: it starts children, and when it begins to wait for them it has closed all that
the pipeline owns. `waiting` is the interpreter at that moment. -/
structure Course (system : System σ) (pipeline : Pipeline) (store : Variables)
    (shell waiting : Interpreter σ) (starts : List Start) (children : List Child) : Prop where
  launched : Launched shell.table pipeline.stages starts
  table : waiting.table = closeIn shell.table pipeline.owned
  begun : waiting.starts = shell.starts ++ starts
  /-- No others are started later. -/
  all : (run system pipeline store shell).2.starts = shell.starts ++ starts
  pids : children.map Child.pid = starts.map Start.pid
  ends : (run system pipeline store shell).2 = (awaitAll system children 0 none waiting).2
  /-- Unless the run fails before it waits, all stages are started. -/
  complete : starts.length = pipeline.stages.length ∨
    ∃ error, (run system pipeline store shell).1 = .error error ∧ IsEarly error

/-- A run that fails before any child is started closes everything at once. -/
theorem course_of_error {system : System σ} {pipeline : Pipeline} {store : Variables}
    {shell ready : Interpreter σ} {error : ExecError}
    (outcome : run system pipeline store shell =
      (.error error, ready.releaseAll pipeline.stages))
    (early : IsEarly error) (table : ready.table = shell.table)
    (starts : ready.starts = shell.starts) :
    Course system pipeline store shell (ready.releaseAll pipeline.stages) [] [] :=
  have begun : (ready.releaseAll pipeline.stages).starts = shell.starts ++ [] := by
    rw [List.append_nil, ← starts]
    exact Interpreter.recorded_closeAll (fun _ => rfl) ready _
  { launched := launched_nil _ _
    table := by
      rw [← table]
      exact Interpreter.table_closeAll ready _
    begun := begun
    all := by
      rw [outcome]
      exact begun
    pids := rfl
    ends := by rw [outcome]; rfl
    complete := .inr ⟨error, by rw [outcome], early⟩ }

theorem run_course (system : System σ) (pipeline : Pipeline) (store : Variables)
    (shell : Interpreter σ) :
    ∃ waiting starts children, Course system pipeline store shell waiting starts children := by
  by_cases unnamed : ∃ stage ∈ pipeline.stages, stage.program = ""
  · exact ⟨_, _, _,
      course_of_error (run_of_unnamed unnamed store shell) (fun _ _ same => nomatch same) rfl rfl⟩
  have table : (notice system pipeline shell).table = shell.table := table_notice _ _ _
  have starts : (notice system pipeline shell).starts = shell.starts :=
    (notice_happened system pipeline shell).starts_eq.trans (List.append_nil _)
  cases exported : store.environment with
  | error fault =>
    exact ⟨_, _, _, course_of_error (run_of_environment_error system unnamed exported shell)
      (fun _ _ same => nomatch same) table starts⟩
  | ok environment =>
    obtain ⟨started, launched, begun, closed, pids, ended⟩ :=
      spawnAll_launched system environment pipeline.stages [] (notice system pipeline shell)
    have outcome := run_of_environment system unnamed exported shell
    rcases spawned : spawnAll system environment pipeline.stages []
        (notice system pipeline shell) with ⟨failure, children, waiting⟩
    rw [spawned] at begun closed pids ended outcome
    rw [table] at launched closed
    rw [starts] at begun
    have ends : (run system pipeline store shell).2 =
        (awaitAll system children 0 none waiting).2 := by
      rw [outcome]
    have waits := awaitAll_happened system children 0 none waiting
    refine ⟨waiting, started, children, launched, closed, begun, ?_, pids, ends, ?_⟩
    · rw [ends, waits.starts_eq, begun, List.append_nil]
    · cases failure with
      | none => exact .inl ended
      | some error => exact .inr ⟨error, by rw [outcome]; rfl, ended⟩

end Supervision

end PipelineShell
