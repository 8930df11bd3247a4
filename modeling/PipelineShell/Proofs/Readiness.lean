/-
Whether a session can still run programs.

A program gets all exported variables, so a single one that holds a zero character keeps every
program from being run, whatever its own words are. Only a line can bring such a character in, and
only one that holds it. What a line assigned is gone when the same name is assigned again; a name
with a zero character stays. So it depends on the names that were written and on what was written
last under each of them, and on nothing else, whether programs can be run.
-/

import PipelineShell.Proofs.Memory
import PipelineShell.Proofs.Reaping
import PipelineShell.Proofs.Separation

namespace PipelineShell

variable {σ : Type}

/-! ### Pipelines that are not rejected -/

namespace Supervision

variable {system : System σ} {environment : List Bytes}

/-- A stage without zero characters can only lack a process. -/
theorem spawn_error_of_not_hasNul (clean : ∀ entry ∈ environment, (0 : UInt8) ∉ entry)
    {stage : Stage} (free : ¬ stage.HasNul) {pending : List Stage} {shell : Interpreter σ}
    {error : ExecError} (failed : (spawn system stage pending environment shell).1 = .error error) :
    ∃ errno, error = .cannotFork stage.program errno := by
  obtain ⟨command, prepared⟩ := prepare_of_not_hasNul clean free
  unfold spawn at failed
  rw [prepared] at failed
  dsimp only at failed
  split at failed
  · exact ⟨_, (Except.error.inj failed).symm⟩
  · cases failed

theorem spawnAll_error_of_not_hasNul (clean : ∀ entry ∈ environment, (0 : UInt8) ∉ entry)
    {stages : List Stage} (free : ∀ stage ∈ stages, ¬ stage.HasNul) {children : List Child}
    {shell : Interpreter σ} {error : ExecError}
    (failed : (spawnAll system environment stages children shell).1 = some error) :
    ∃ program errno, error = .cannotFork program errno := by
  induction stages generalizing children shell with
  | nil => cases failed
  | cons stage pending inductionHypothesis =>
    obtain ⟨freeFirst, freeLater⟩ := List.forall_mem_cons.mp free
    unfold spawnAll at failed
    split at failed
    · rename_i reason after spawned
      obtain ⟨errno, rfl⟩ := spawn_error_of_not_hasNul clean freeFirst (congrArg Prod.fst spawned)
      exact ⟨stage.program, errno, (Option.some.inj failed).symm⟩
    · exact inductionHypothesis freeLater failed

/-- A pipeline without empty programs and zero characters is never found invalid, if the variables
can be handed over. -/
theorem run_ne_invalidArgument (system : System σ) {store : Variables}
    (handed : store.environment = .ok environment) {pipeline : Pipeline}
    (named : ∀ stage ∈ pipeline.stages, stage.program ≠ "")
    (free : ∀ stage ∈ pipeline.stages, ¬ stage.HasNul) (shell : Interpreter σ) (text : String) :
    (run system pipeline store shell).1 ≠ .error (.invalidArgument text) := by
  intro invalid
  have clean := Variables.zero_notMem_of_environment handed
  rcases spawnAll_or_isWaitError (by simpa using named) handed invalid with failure | ⟨_, _, same⟩
  · obtain ⟨program, errno, same⟩ := spawnAll_error_of_not_hasNul clean free failure
    cases same
  · cases same

end Supervision

/-! ### Where zero characters come from -/

namespace Variables

/-- Whether no variable holds a zero character, in its name or in its value. -/
def Clean (store : Variables) : Prop :=
  store.All fun name value => ¬ Text.HasNul name ∧ ¬ Text.HasNul value

instance : DecidablePred Clean := fun store => List.decidableBAll _ store.entries

variable {store : Variables}

theorem Clean.of_find? (clean : store.Clean) {name : String} {entry : Variable}
    (found : store.find? name = some entry) :
    ¬ Text.HasNul name ∧ ¬ Text.HasNul entry.value :=
  clean (name, entry) (Association.mem_of_get? found)

theorem Clean.exists_environment (clean : store.Clean) :
    ∃ environment, store.environment = .ok environment := by
  rw [exists_environment_ok_iff]
  rintro ⟨name, value, found, inName | inValue⟩
  · exact (clean.of_find? found).1 inName
  · exact (clean.of_find? found).2 inValue

/-- A line without zero characters assigns none, for the variables that it refers to hold none. -/
theorem Clean.after (clean : store.Clean) {line : String} (free : ¬ Text.HasNul line) :
    (store.after (store.assignment? line)).Clean := by
  refine All.after clean fun pair assigns => ?_
  obtain ⟨word, mem, expands, _, _⟩ := exists_of_assignment? assigns
  have whole : ¬ Text.HasNul (pair.1 ++ "=" ++ pair.2) := by
    rcases expandWord_eq_ok_iff.mp expands with ⟨_, same⟩ | ⟨name, _, defined⟩
    · exact fun nul => free (Words.mem_of_mem_ofLine mem (same ▸ nul))
    · obtain ⟨entry, found, same⟩ := Option.map_eq_some_iff.mp defined
      exact same ▸ (clean.of_find? found).2
  simp only [Text.hasNul_append_iff, not_or] at whole
  exact ⟨whole.1.1, whole.2⟩

end Variables

/-! ### Sessions -/

namespace Session

/-- Whether a session can run programs that has the variables `current` after it carried out these
lines and wrote `written`. -/
structure Serves (lines : List String) (written : List (String × String)) (current : Variables) :
    Prop where
  /-- The variables can be handed over exactly if no name that was written holds a zero character,
  and no value that was written last under its name. -/
  handed : (∃ environment, current.environment = .ok environment) ↔
    ∀ name value, latest? name written = some value → ¬ Text.HasNul name ∧ ¬ Text.HasNul value
  /-- So they can if no line holds one. -/
  clean : (∀ line ∈ lines, ¬ Text.HasNul line) →
    ∃ environment, current.environment = .ok environment
  /-- If they can, a pipeline without empty programs and zero characters is never found invalid. -/
  accepts : (∃ environment, current.environment = .ok environment) →
    ∀ {σ : Type} (system : System σ) (shell : Interpreter σ) (pipeline : Pipeline),
      (∀ stage ∈ pipeline.stages, stage.program ≠ "") →
      (∀ stage ∈ pipeline.stages, ¬ stage.HasNul) →
      ∀ text, (Supervision.run system pipeline current shell).1 ≠ .error (.invalidArgument text)
  /-- If they cannot, every pipeline without empty programs is found invalid. -/
  refuses : ¬ (∃ environment, current.environment = .ok environment) →
    ∀ {σ : Type} (system : System σ) (shell : Interpreter σ) (pipeline : Pipeline),
      (∀ stage ∈ pipeline.stages, stage.program ≠ "") →
      ∃ text, (Supervision.run system pipeline current shell).1 = .error (.invalidArgument text)

/-- Variables that began without zero characters have them where they were written last. -/
theorem hasNul_iff_of_remembered {initial current : Variables} (clean : initial.Clean)
    {written : List (String × String)}
    (found : ∀ name, current.find? name = remembered? initial written name) :
    current.HasNul ↔ ∃ name value, latest? name written = some value ∧
      (Text.HasNul name ∨ Text.HasNul value) := by
  unfold Variables.HasNul
  refine exists_congr fun name => exists_congr fun value => ?_
  rw [found, remembered?]
  cases latest? name written with
  | some other => simp
  | none =>
    constructor
    · rintro ⟨unchanged, inName | inValue⟩
      · exact absurd inName (clean.of_find? unchanged).1
      · exact absurd inValue (clean.of_find? unchanged).2
    · rintro ⟨impossible, _⟩
      cases impossible

/-- Lines without zero characters keep the variables without them. -/
theorem clean_runEach (system : System σ) (executor : Executor σ) (mode : OutputMode)
    {lines : List String} (free : ∀ line ∈ lines, ¬ Text.HasNul line) {session : Session σ}
    (clean : session.store.Clean) : (runEach system executor mode lines session).store.Clean := by
  rw [store_runEach]
  exact List.foldlRecOn lines _ clean fun store kept line mem => kept.after (free line mem)

/-- A session that started without zero characters can run programs unless the latest writes say
otherwise, and no line without such a character keeps it from that. -/
theorem runEach_serves (system : System σ) (executor : Executor σ) (mode : OutputMode)
    (lines : List String) (session : Session σ) (clean : session.store.Clean) :
    Serves lines (writes system executor mode lines session)
      (runEach system executor mode lines session).store := by
  constructor
  case handed =>
    have found := find?_runEach system executor mode lines session
    rw [Variables.exists_environment_ok_iff, hasNul_iff_of_remembered clean found]
    simp only [not_exists, not_and, not_or]
  case clean =>
    exact fun free => (clean_runEach system executor mode free clean).exists_environment
  case accepts =>
    rintro ⟨environment, handed⟩ _ systemToo shell pipeline named free text
    exact Supervision.run_ne_invalidArgument systemToo handed named free shell text
  case refuses =>
    intro refused _ systemToo shell pipeline named
    rw [Variables.exists_environment_ok_iff, not_not,
      ← Variables.exists_environment_error_iff] at refused
    obtain ⟨fault, refused⟩ := refused
    rw [Supervision.run_of_environment_error systemToo (by simpa using named) refused]
    exact ⟨_, rfl⟩

/-- A session without variables, after some lines on a system that grants everything. -/
def afterLines (lines : List String) : Session ProcessId :=
  runEach System.granting (Supervision.run System.granting) .truncate lines
    ⟨.empty, .start 100⟩

/-- A value with a zero character keeps no program from being run once it is replaced. -/
theorem serves_replaced :
    Variables.empty.Clean ∧
      Serves ["A=x\x00y", "A=b"] [("A", "x\x00y"), ("A", "b")]
        (afterLines ["A=x\x00y", "A=b"]).store ∧
      (afterLines ["A=x\x00y", "A=b"]).store.environment = .ok [Text.encode "A=b"] ∧
      (runLine System.granting (Supervision.run System.granting) .truncate "true"
        (afterLines ["A=x\x00y", "A=b"])).1 = .ok (.executed 0) := by
  have clean : Variables.empty.Clean := by decide
  have serves := runEach_serves System.granting (Supervision.run System.granting) .truncate
    ["A=x\x00y", "A=b"] ⟨.empty, .start 100⟩ clean
  have written : writes System.granting (Supervision.run System.granting) .truncate
      ["A=x\x00y", "A=b"] ⟨.empty, .start 100⟩ = [("A", "x\x00y"), ("A", "b")] := by
    decide +kernel
  rw [written] at serves
  refine ⟨clean, serves, ?_, by decide +kernel⟩
  rw [afterLines, store_runEach]
  decide +kernel

/-- A name with a zero character keeps all programs from being run, and assigning it again does not
help. -/
theorem refused_after_nul :
    Variables.empty.Clean ∧
      (afterLines ["A\x00B=x", "A\x00B=y"]).store.environment = .error ⟨1⟩ ∧
      (Stage.named "true").program ≠ "" ∧ ¬ (Stage.named "true").HasNul ∧
      (runLine System.granting (Supervision.run System.granting) .truncate "true"
        (afterLines ["A\x00B=x", "A\x00B=y"])).1 =
        .error (.execution (.invalidArgument
          "environment: nul byte found in provided data at position: 1")) := by
  refine ⟨by decide, ?_, by decide, by decide, by decide +kernel⟩
  rw [afterLines, store_runEach]
  decide +kernel

end Session

end PipelineShell
