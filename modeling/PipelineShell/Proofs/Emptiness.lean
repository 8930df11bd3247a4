/-
Where empty programs come from.

A run refuses a pipeline with an empty program before it starts anything. No word of a line is
empty, and a segment without words is a violation of the grammar, so such a program can only be what
a variable holds: the line refers to it where a command begins. Where that is can be told from the
words after they are expanded only, for the value of a variable can be a pipe.

This file says which words begin a command, in a line and not in its stages: those before which
there is nothing or a pipe. It then follows an empty program back from the run to the stage, to the
word of its segment, and to the reference in the line, and an empty variable all the way forward. A
line without words is left out by that, and rightly so, because nothing is built for it.
-/

import PipelineShell.Proofs.Gating
import PipelineShell.Proofs.Launching
import PipelineShell.Proofs.Neighbours
import PipelineShell.Proofs.Reaping
import PipelineShell.Proofs.Rereading
import PipelineShell.Proofs.Shape

namespace PipelineShell

open Construction Grammar

variable {σ : Type}

/-! ### Where commands begin -/

/-- Whether the command at an index begins after these words: they hold so many pipes, and the last
of them is one, unless there are none. -/
def Precede (index : Nat) (words : List String) : Prop :=
  words.count Operator.pipe.text = index ∧
    ∀ last ∈ words.getLast?, last = Operator.pipe.text

theorem precede_nil {index : Nat} : Precede index [] ↔ index = 0 :=
  ⟨fun precede => precede.1.symm, fun same => ⟨same.symm, fun _ mem => nomatch mem⟩⟩

theorem precede_pipe {index : Nat} {words : List String} :
    Precede (index + 1) (Operator.pipe.text :: words) ↔ Precede index words := by
  rw [Precede, Precede, List.count_cons_self, Nat.add_right_cancel_iff]
  refine and_congr_right fun _ => ?_
  cases words <;> simp

theorem not_precede_zero_cons (word : String) (words : List String) :
    ¬ Precede 0 (word :: words) := by
  rintro ⟨free, last⟩
  have nonempty := List.cons_ne_nil word words
  have isPipe := last _ (List.getLast?_eq_some_getLast nonempty)
  exact List.count_eq_zero.mp free (isPipe ▸ List.getLast_mem nonempty)

theorem precede_cons {index : Nat} {word : String} {words : List String}
    (different : word ≠ Operator.pipe.text) :
    Precede (index + 1) (word :: words) ↔ Precede (index + 1) words := by
  rw [Precede, Precede, List.count_cons_of_ne different]
  refine and_congr_right fun pipes => ?_
  cases words with
  | nil => cases pipes
  | cons next words => simp

@[simp] theorem commandWords_nil : commandWords [] = [none] := rfl

theorem commandWords_pipe (words : List String) :
    commandWords (Operator.pipe.text :: words) = none :: commandWords words := by
  simp [commandWords, segments, Text.pieces]

theorem commandWords_cons {word : String} (different : word ≠ Operator.pipe.text)
    (words : List String) :
    commandWords (word :: words) = some word :: (commandWords words).tail := by
  have unmarked : Operator.ofWord? word ≠ some .pipe :=
    fun found => different (Operator.ofWord?_eq_some_iff.mp found)
  simp only [commandWords, segments, Text.pieces, unmarked, decide_false, Bool.false_eq_true,
    if_false]
  cases cut : Text.pieces (fun word => decide (Operator.ofWord? word = some .pipe)) words with
  | nil => exact absurd cut (Text.pieces_ne_nil _ words)
  | cons segment rest => rfl

theorem exists_precede_cons {index : Nat} {first word : String} {rest : List String} :
    (∃ before after, first :: rest = before ++ word :: after ∧ Precede index before) ↔
      (word = first ∧ index = 0) ∨
        ∃ before after, rest = before ++ word :: after ∧ Precede index (first :: before) := by
  constructor
  · rintro ⟨before, after, whole, precede⟩
    rcases List.cons_eq_append_iff.mp whole with ⟨rfl, here⟩ | ⟨others, rfl, later⟩
    · exact .inl ⟨(List.cons.inj here).1, precede_nil.mp precede⟩
    · exact .inr ⟨others, after, later, precede⟩
  · rintro (⟨rfl, rfl⟩ | ⟨before, after, rfl, precede⟩)
    · exact ⟨[], rest, rfl, precede_nil.mpr rfl⟩
    · exact ⟨first :: before, after, rfl, precede⟩

/-- A word is the first of a segment if it is no pipe and there is a pipe or nothing before it. -/
theorem getElem?_commandWords_eq_some_iff {words : List String} {index : Nat} {word : String} :
    (commandWords words)[index]? = some (some word) ↔
      word ≠ Operator.pipe.text ∧
        ∃ before after, words = before ++ word :: after ∧ Precede index before := by
  induction words generalizing index with
  | nil => cases index <;> simp
  | cons first rest inductionHypothesis =>
    rw [exists_precede_cons]
    by_cases isPipe : first = Operator.pipe.text
    · subst isPipe
      rw [commandWords_pipe]
      cases index with
      | zero => simp [not_precede_zero_cons]
      | succ index =>
        rw [List.getElem?_cons_succ, inductionHypothesis]
        simp [precede_pipe]
    · rw [commandWords_cons isPipe]
      cases index with
      | zero =>
        have same : first = word ↔ word ≠ Operator.pipe.text ∧ word = first :=
          ⟨fun same => ⟨same ▸ isPipe, same.symm⟩, fun same => same.2.symm⟩
        simpa [not_precede_zero_cons] using same
      | succ index =>
        rw [List.getElem?_cons_succ, List.getElem?_tail, inductionHypothesis]
        simp [precede_cons isPipe]

/-- The programs of a pipeline are the command words of what it was built from. -/
theorem build_programs {system : System σ} {mode : OutputMode} {words : List String}
    {shell after : Interpreter σ} {pipeline : Pipeline} (nonempty : words ≠ [])
    (built : build system mode words shell = (.ok pipeline, after)) :
    commandWords words = pipeline.stages.map fun stage => some stage.program := by
  obtain ⟨commands, ends, opened, pipes, done, grammatical, opens, made, rfl, _, _⟩ :=
    exists_commands_of_build nonempty built
  obtain ⟨_, enough⟩ := length_pipes grammatical made
  refine List.ext_getElem? fun index => ?_
  rw [commandWords, grammatical.1, List.map_map, List.getElem?_map, List.getElem?_map,
    getElem?_pipelineOf enough]
  cases commands[index]? <;> rfl

/-! ### What words are expanded to, one by one -/

theorem exists_of_forall₂_append_cons {α β : Type} {related : α → β → Prop} {items : List α}
    {earlier later : List β} {value : β}
    (pairs : List.Forall₂ related items (earlier ++ value :: later)) :
    ∃ before item after, items = before ++ item :: after ∧
      List.Forall₂ related before earlier ∧ related item value := by
  induction earlier generalizing items with
  | nil =>
    obtain ⟨item, after, here, _, rfl⟩ := List.forall₂_cons_right_iff.mp pairs
    exact ⟨[], item, after, rfl, .nil, here⟩
  | cons first earlier inductionHypothesis =>
    obtain ⟨item, rest, here, pairsLater, rfl⟩ := List.forall₂_cons_right_iff.mp pairs
    obtain ⟨before, found, after, rfl, matched, there⟩ := inductionHypothesis pairsLater
    exact ⟨item :: before, found, after, rfl, .cons here matched, there⟩

namespace Variables

variable {store : Variables}

/-- Whether a line refers to a variable of this name where its command at an index begins. -/
def NamesProgram (store : Variables) (line : String) (index : Nat) (name : String) : Prop :=
  name ≠ "" ∧ ∃ before after earlier, Words.ofLine line = before ++ ("$" ++ name) :: after ∧
    store.expand before = .ok earlier ∧ Precede index earlier

/-- No word of a line is empty, so one that expands to nothing refers to a variable. -/
theorem exists_reference_of_empty {line word : String} (mem : word ∈ Words.ofLine line)
    (expands : store.expandWord word = .ok "") :
    ∃ name, word = "$" ++ name ∧ name ≠ "" ∧ store.get? name = some "" := by
  rcases expandWord_eq_ok_iff.mp expands with ⟨_, empty⟩ | ⟨name, refers, defined⟩
  · exact absurd empty (Words.ne_empty_of_mem_ofLine mem)
  · obtain ⟨same, nonempty⟩ := reference?_eq_some_iff.mp refers
    exact ⟨name, same, nonempty, defined⟩

/-- A command begins with an empty word exactly if the line refers there to a variable that holds
nothing. -/
theorem empty_commandWord_iff {line : String} {words : List String} {index : Nat}
    (expanded : store.expand (Words.ofLine line) = .ok words) :
    (commandWords words)[index]? = some (some "") ↔
      ∃ name, store.NamesProgram line index name ∧ store.get? name = some "" := by
  rw [expand_eq_ok_iff] at expanded
  rw [getElem?_commandWords_eq_some_iff]
  constructor
  · rintro ⟨_, earlier, later, rfl, precede⟩
    obtain ⟨before, word, after, whole, pairs, expands⟩ := exists_of_forall₂_append_cons expanded
    have mem : word ∈ Words.ofLine line := by simp [whole]
    obtain ⟨name, rfl, nonempty, defined⟩ := exists_reference_of_empty mem expands
    exact ⟨name, ⟨nonempty, before, after, earlier, whole, expand_eq_ok_iff.mpr pairs, precede⟩,
      defined⟩
  · rintro ⟨name, ⟨nonempty, before, after, earlier, whole, expandsBefore, precede⟩, defined⟩
    rw [whole] at expanded
    obtain ⟨reached, value, later, rfl, pairs, expands⟩ :=
      exists_of_forall₂_append_cons expanded.flip
    have same : store.expand before = .ok reached := expand_eq_ok_iff.mpr pairs.flip
    obtain rfl : earlier = reached := Except.ok.inj (expandsBefore.symm.trans same)
    have holds : store.expandWord ("$" ++ name) = .ok "" :=
      expandWord_eq_ok_iff.mpr
        (.inr ⟨name, reference?_eq_some_iff.mpr ⟨rfl, nonempty⟩, defined⟩)
    obtain rfl : "" = value := Except.ok.inj (holds.symm.trans expands)
    exact ⟨by decide, earlier, later, rfl, precede⟩

end Variables

/-! ### When a run refuses a pipeline for an empty program -/

namespace Supervision

theorem prepare_ne_emptyCommand (stage : Stage) (environment : List Bytes) :
    prepare stage environment ≠ .error .emptyCommand := by
  unfold prepare
  dsimp only
  split
  · split <;> exact fun same => nomatch same
  · exact fun same => nomatch same

theorem spawnAll_ne_emptyCommand (system : System σ) (environment : List Bytes)
    (stages : List Stage) (children : List Child) (shell : Interpreter σ) :
    (spawnAll system environment stages children shell).1 ≠ some .emptyCommand := by
  induction stages generalizing children shell with
  | nil => exact fun same => nomatch same
  | cons stage pending inductionHypothesis =>
    unfold spawnAll
    split
    · rename_i error after failed
      rintro ⟨⟩
      unfold spawn at failed
      split at failed
      · rename_i refused
        cases failed
        exact prepare_ne_emptyCommand stage environment refused
      · split at failed <;> cases failed
    · exact inductionHypothesis _ _

/-- Nothing but an empty program is reported as one. -/
theorem run_eq_emptyCommand_iff (system : System σ) (pipeline : Pipeline) (store : Variables)
    (shell : Interpreter σ) :
    (run system pipeline store shell).1 = .error .emptyCommand ↔
      ∃ stage ∈ pipeline.stages, stage.program = "" := by
  constructor
  · intro refused
    by_contra named
    cases handed : store.environment with
    | error fault =>
      rw [run_of_environment_error system named handed] at refused
      cases refused
    | ok environment =>
      rcases spawnAll_or_isWaitError named handed refused with failure | ⟨_, _, same⟩
      · exact spawnAll_ne_emptyCommand system environment _ _ _ failure
      · cases same
  · intro unnamed
    rw [run_of_unnamed unnamed]

end Supervision

/-! ### Lines that are refused for an empty program -/

/-- No step of the shell's own starts a child. -/
theorem Does.starts_eq {system : System σ} {deeds : List Deed} {before after : Interpreter σ}
    (does : Does system deeds before after) : after.starts = before.starts :=
  does.recorded_eq fun _ _ _ shows => by cases shows <;> rfl

namespace Session

variable {system : System σ} {mode : OutputMode} {line : String} {session : Session σ}

theorem concluded_eq_execution_iff {ending : Except ExecError Int × Interpreter σ}
    {error : ExecError} :
    (concluded session ending).1 = .error (.execution error) ↔ ending.1 = .error error := by
  obtain ⟨_ | _, _⟩ := ending <;> simp [concluded]

/-- Only the run of a pipeline reports what is reported of runs. -/
theorem exists_qualifies_of_execution {executor : Executor σ} {error : ExecError}
    (failed : (runLine system executor mode line session).1 = .error (.execution error)) :
    ∃ pipeline built, Qualifies system mode line session pipeline built := by
  have way := runLine_way system executor mode line session
  generalize runLine system executor mode line session = result at way failed
  cases way with
  | undefined | empty | assigned | builtin | unbuilt => cases failed
  | handed qualifies => exact ⟨_, _, qualifies⟩

/-- What is handed over for a line is built from the words of the line, and there are some. -/
theorem Hands.exists_words {pipeline : Pipeline} {store : Variables} {shell : Interpreter σ}
    (hands : Hands system mode line session pipeline store shell) :
    ∃ words built, words ≠ [] ∧ session.store.expand (Words.ofLine line) = .ok words ∧
      build system mode words
          (session.shell.enter system .debug ("tokens: " ++ Text.quotedList words)) =
        (.ok pipeline, built) ∧
      shell = built.record (.handed pipeline) := by
  obtain ⟨words, built, expanded, asks, builds, _, handed⟩ := hands_iff.mp hands
  refine ⟨words, built, ?_, expanded, builds, handed⟩
  rintro rfl
  exact asks

/-- A line whose pipeline is handed over is refused exactly if one of its commands begins with a
variable that holds nothing. -/
theorem Hands.emptyCommand_iff {pipeline : Pipeline} {store : Variables} {shell : Interpreter σ}
    (hands : Hands system mode line session pipeline store shell) :
    (runLine system (Supervision.run system) mode line session).1 =
        .error (.execution .emptyCommand) ↔
      ∃ index name, index < pipeline.stages.length ∧
        session.store.NamesProgram line index name ∧ session.store.get? name = some "" := by
  obtain ⟨words, built, nonempty, expanded, builds, _⟩ := hands.exists_words
  rw [hands, concluded_eq_execution_iff, Supervision.run_eq_emptyCommand_iff]
  have programs := build_programs nonempty builds
  constructor
  · rintro ⟨stage, mem, unnamed⟩
    obtain ⟨index, bound, rfl⟩ := List.getElem_of_mem mem
    have found : (commandWords words)[index]? = some (some "") := by
      rw [programs, List.getElem?_map, List.getElem?_eq_getElem bound, ← unnamed]
      rfl
    obtain ⟨name, reference⟩ := (Variables.empty_commandWord_iff expanded).mp found
    exact ⟨index, name, bound, reference⟩
  · rintro ⟨index, name, bound, reference⟩
    have found := (Variables.empty_commandWord_iff expanded).mpr ⟨name, reference⟩
    rw [programs, List.getElem?_map, List.getElem?_eq_getElem bound] at found
    exact ⟨_, List.getElem_mem bound, Option.some.inj (Option.some.inj found)⟩

/-- A line with an empty program only closes what was opened for it. -/
theorem Qualifies.runLine_of_unnamed {pipeline : Pipeline} {built : Interpreter σ}
    (qualifies : Qualifies system mode line session pipeline built)
    (unnamed : ∃ stage ∈ pipeline.stages, stage.program = "") :
    runLine system (Supervision.run system) mode line session =
      (.error (.execution .emptyCommand),
        { session with
          shell := (built.record (.handed pipeline)).releaseAll pipeline.stages }) := by
  rw [qualifies.hands, Supervision.run_of_unnamed unnamed]
  rfl

/-- When a line is refused for an empty program, and how little is done about it. `result` is what
becomes of the line. -/
structure RefusesEmpty (system : System σ) (mode : OutputMode) (line : String)
    (session : Session σ) (result : Except LineError Outcome × Session σ) : Prop where
  /-- A line whose pipeline is handed over is refused exactly if one of its commands begins with a
  variable that holds nothing. -/
  refused : ∀ pipeline store shell, Hands system mode line session pipeline store shell →
    (result.1 = .error (.execution .emptyCommand) ↔
      ∃ index name, index < pipeline.stages.length ∧
        session.store.NamesProgram line index name ∧ session.store.get? name = some "")
  /-- What is handed over was built from at least one word. -/
  worded : ∀ pipeline store shell, Hands system mode line session pipeline store shell →
    ∃ words built, words ≠ [] ∧ session.store.expand (Words.ofLine line) = .ok words ∧
      build system mode words
          (session.shell.enter system .debug ("tokens: " ++ Text.quotedList words)) =
        (.ok pipeline, built) ∧
      shell = built.record (.handed pipeline)
  /-- For a line without words nothing is built at all. -/
  wordless : session.store.expand (Words.ofLine line) = .ok [] →
    result = (.ok .empty, session.enter system .debug ("tokens: " ++ Text.quotedList []))
  /-- For a line that is refused no child is started: from the moment at which its pipeline is
  handed over, the shell only closes what the pipeline owns, and the world stays as it is. -/
  unstarted : result.1 = .error (.execution .emptyCommand) →
    ∃ pipeline store shell, Hands system mode line session pipeline store shell ∧
      result.2.shell = shell.releaseAll pipeline.stages ∧
      result.2.shell.world = shell.world ∧ result.2.shell.starts = session.shell.starts
  /-- A line that refers to no variable that holds nothing is not refused for an empty program. -/
  unrefused : (∀ name, name ≠ "" → "$" ++ name ∈ Words.ofLine line →
      session.store.get? name ≠ some "") →
    result.1 ≠ .error (.execution .emptyCommand)

/-- An empty program comes only from an empty variable, and it keeps all programs of its line from
being started. -/
theorem runLine_refusesEmpty (system : System σ) (mode : OutputMode) (line : String)
    (session : Session σ) :
    RefusesEmpty system mode line session
      (runLine system (Supervision.run system) mode line session) := by
  constructor
  case refused => exact fun pipeline store shell hands => hands.emptyCommand_iff
  case worded => exact fun pipeline store shell hands => hands.exists_words
  case wordless =>
    intro expanded
    rw [runLine_of_ok _ expanded]
    rfl
  case unstarted =>
    intro refused
    obtain ⟨pipeline, built, qualifies⟩ := exists_qualifies_of_execution refused
    rw [qualifies.hands, concluded_eq_execution_iff,
      Supervision.run_eq_emptyCommand_iff] at refused
    rw [qualifies.runLine_of_unnamed refused]
    refine ⟨pipeline, session.store, _, qualifies.hands, rfl, Interpreter.world_closeAll _ _, ?_⟩
    calc ((built.record (.handed pipeline)).releaseAll pipeline.stages).starts
        = (built.record (.handed pipeline)).starts :=
          Interpreter.recorded_closeAll (fun _ => rfl) _ _
      _ = built.starts := Interpreter.recorded_record_of_none rfl built
      _ = session.shell.starts := qualifies.does.starts_eq
  case unrefused =>
    intro valued refused
    obtain ⟨pipeline, built, qualifies⟩ := exists_qualifies_of_execution refused
    obtain ⟨index, name, _, ⟨nonempty, before, after, _, whole, _⟩, empty⟩ :=
      qualifies.hands.emptyCommand_iff.mp refused
    exact valued name nonempty (by simp [whole]) empty

/-- A line whose first command is complete and whose second one is a variable that holds nothing.
The first one is not started either. -/
theorem refusesEmpty_laterCommand :
    (∃ shell, Hands System.granting .truncate "echo a | $P" (holding "")
      ⟨[⟨"echo", ["echo", "a"], .inherit, .owned 4⟩, ⟨"", [""], .owned 3, .inherit⟩], false⟩
      (holding "").store shell) ∧
      (runLine System.granting (Supervision.run System.granting) .truncate "echo a | $P"
        (holding "")).1 = .error (.execution .emptyCommand) ∧
      (runLine System.granting (Supervision.run System.granting) .truncate "echo a | $P"
        (holding "")).2.shell.starts = [] := by
  have refuses := runLine_refusesEmpty System.granting .truncate "echo a | $P" (holding "")
  obtain ⟨shell, hands⟩ : ∃ shell, Hands System.granting .truncate "echo a | $P" (holding "")
      ⟨[⟨"echo", ["echo", "a"], .inherit, .owned 4⟩, ⟨"", [""], .owned 3, .inherit⟩], false⟩
      (holding "").store shell :=
    exists_hands_of_build ["echo", "a", "|", ""] (by decide +kernel) (by decide +kernel)
      (by decide +kernel)
  have names : (holding "").store.NamesProgram "echo a | $P" 1 "P" :=
    ⟨by decide, ["echo", "a", "|"], [], ["echo", "a", "|"], by decide +kernel, by decide +kernel,
      by decide +kernel, fun last mem => (Option.some.inj mem).symm⟩
  have refused := (refuses.refused _ _ _ hands).mpr
    ⟨1, "P", Nat.one_lt_two, names, by decide +kernel⟩
  obtain ⟨_, _, _, _, _, _, starts⟩ := refuses.unstarted refused
  exact ⟨⟨shell, hands⟩, refused, starts⟩

end Session

end PipelineShell
