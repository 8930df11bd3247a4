/-
What becomes of a line.

The words of a line are expanded one for one, and the first of them decides what the line is. This
file says what there is to know about that from the outside. The variables after a line depend on
the variables before it and on the line only: they change if it is an assignment, and otherwise
they stay, whatever else happens. And a line hands a pipeline over exactly if its words expand, are
neither an assignment nor a command of the shell itself, and can be built; what runs the pipeline
then gets the variables as they are.
-/

import Mathlib.Data.List.TakeDrop
import Mathlib.Data.List.TakeWhile
import PipelineShell.Proofs.Handover
import PipelineShell.Session

namespace PipelineShell

variable {σ : Type}

/-! ### Assignments -/

/-- A sign with something before or after it is no operator. -/
theorem Operator.ofWord?_of_one_lt {word : String} (long : 1 < word.length) :
    ofWord? word = none := by
  unfold ofWord?
  split
  · rename_i sign single
    rw [← String.length_toList, single] at long
    exact absurd long (Nat.lt_irrefl 1)
  · rfl

theorem length_pos_of_ne {text : String} (nonempty : text ≠ "") : 0 < text.length :=
  Nat.pos_of_ne_zero (mt String.length_eq_zero_iff.mp nonempty)

/-- A list is cut at its first mark. -/
theorem span_eq_cons_iff {α : Type} [DecidableEq α] {mark found : α} {items before after : List α} :
    items.span (· ≠ mark) = (before, found :: after) ↔
      items = before ++ mark :: after ∧ found = mark ∧ mark ∉ before := by
  rw [List.span_eq_takeWhile_dropWhile, Prod.mk.injEq]
  constructor
  · rintro ⟨rfl, cut⟩
    have isMark : found = mark := by
      have stops := List.head?_dropWhile_not (fun item => decide (item ≠ mark)) items
      rw [cut] at stops
      simpa using stops
    subst isMark
    refine ⟨?_, rfl, fun mem => ?_⟩
    · rw [← cut, List.takeWhile_append_dropWhile]
    · simpa using List.mem_takeWhile_imp mem
  · rintro ⟨rfl, rfl, absent⟩
    have unmarked : ∀ item ∈ before, decide (item ≠ found) = true := by
      intro item mem
      exact decide_eq_true fun same => absent (same ▸ mem)
    rw [List.takeWhile_append_of_pos unmarked, List.dropWhile_append_of_pos unmarked]
    simp

/-- A word is an assignment if it has an equals sign that is not its first character, and the first
equals sign ends the name. -/
theorem splitAssignment?_eq_some_iff {word name value : String} :
    splitAssignment? word = some (name, value) ↔
      word = name ++ "=" ++ value ∧ '=' ∉ name.toList ∧ name ≠ "" := by
  unfold splitAssignment?
  dsimp only
  constructor
  · intro found
    split at found
    · rename_i before mark after cut
      obtain ⟨characters, rfl, absent⟩ := span_eq_cons_iff.mp cut
      split at found
      · cases found
      · rename_i nonempty
        cases found
        refine ⟨?_, ?_, ?_⟩
        · rw [← String.toList_inj, characters]
          simp
        · simpa using absent
        · simpa using nonempty
    · cases found
  · rintro ⟨rfl, absent, nonempty⟩
    have cut : (name ++ "=" ++ value).toList.span (· ≠ '=') = (name.toList, '=' :: value.toList) :=
      span_eq_cons_iff.mpr ⟨by simp, rfl, absent⟩
    rw [cut]
    simp [nonempty]

/-- An operator is too short to be an assignment. -/
theorem ofWord?_of_splitAssignment? {word name value : String}
    (splits : splitAssignment? word = some (name, value)) : Operator.ofWord? word = none := by
  obtain ⟨rfl, _, nonempty⟩ := splitAssignment?_eq_some_iff.mp splits
  have named := length_pos_of_ne nonempty
  refine Operator.ofWord?_of_one_lt ?_
  rw [String.length_append, String.length_append, show "=".length = 1 from rfl]
  omega

/-- The assignment that words make, if they make one: the first of them is it. -/
def written? : List String → Option (String × String)
  | [] => none
  | first :: _ => splitAssignment? first

/-! ### Expansion -/

/-- A word refers to a variable if it is a dollar sign and the name. -/
theorem reference?_eq_some_iff {word name : String} :
    reference? word = some name ↔ word = "$" ++ name ∧ name ≠ "" := by
  unfold reference?
  constructor
  · intro found
    split at found
    · rename_i first rest characters
      cases found
      refine ⟨?_, by simp⟩
      rw [← String.toList_inj, characters]
      simp
    · cases found
  · rintro ⟨rfl, nonempty⟩
    cases characters : name.toList with
    | nil => exact absurd (String.toList_eq_nil_iff.mp characters) nonempty
    | cons first rest =>
      have whole : ("$" ++ name).toList = '$' :: first :: rest := by simp [characters]
      rw [whole]
      exact congrArg some (String.toList_inj.mp (by simp [characters]))

/-- An operator is too short to refer to a variable. -/
theorem ofWord?_of_reference? {word name : String} (refers : reference? word = some name) :
    Operator.ofWord? word = none := by
  obtain ⟨rfl, nonempty⟩ := reference?_eq_some_iff.mp refers
  have named := length_pos_of_ne nonempty
  refine Operator.ofWord?_of_one_lt ?_
  rw [String.length_append, show "$".length = 1 from rfl]
  omega

namespace Variables

/-- A word stands for itself, unless it refers to a variable; then it stands for its value. -/
theorem expandWord_eq_ok_iff {store : Variables} {word expanded : String} :
    store.expandWord word = .ok expanded ↔
      (reference? word = none ∧ word = expanded) ∨
        ∃ name, reference? word = some name ∧ store.get? name = some expanded := by
  unfold expandWord
  cases reference? word with
  | none => simp
  | some name =>
    simp only [reduceCtorEq, false_and, false_or, Option.some.injEq, exists_eq_left']
    cases store.get? name <;> simp

/-- Only a reference to a variable that is not defined stands for nothing. -/
theorem expandWord_eq_error_iff {store : Variables} {word : String} {fault : UndefinedVariable} :
    store.expandWord word = .error fault ↔
      reference? word = some fault.name ∧ store.get? fault.name = none := by
  obtain ⟨missing⟩ := fault
  unfold expandWord
  cases reference? word with
  | none => simp
  | some name =>
    rw [Option.some.injEq]
    cases found : store.get? name with
    | none =>
      simp only [found, Except.error.injEq, UndefinedVariable.mk.injEq]
      exact ⟨fun same => ⟨same, same ▸ found⟩, And.left⟩
    | some value =>
      simp only [found, reduceCtorEq, false_iff, not_and]
      rintro rfl
      rw [found]
      exact Option.some_ne_none value

/-- Words are expanded one for one. -/
theorem expand_eq_ok_iff {store : Variables} {words expanded : List String} :
    store.expand words = .ok expanded ↔
      List.Forall₂ (fun word value => store.expandWord word = .ok value) words expanded :=
  mapM_eq_ok_iff

theorem exists_expandWord_ok_iff {store : Variables} {word : String} :
    (∃ value, store.expandWord word = .ok value) ↔
      ∀ name, reference? word = some name → store.get? name ≠ none := by
  constructor
  · rintro ⟨value, expands⟩ name refers undefined
    rcases expandWord_eq_ok_iff.mp expands with ⟨plain, _⟩ | ⟨other, refersToo, defined⟩
    · rw [plain] at refers
      cases refers
    · rw [refers] at refersToo
      rw [← Option.some.inj refersToo, undefined] at defined
      cases defined
  · intro defined
    cases expands : store.expandWord word with
    | ok value => exact ⟨value, rfl⟩
    | error fault =>
      obtain ⟨refers, undefined⟩ := expandWord_eq_error_iff.mp expands
      exact absurd undefined (defined fault.name refers)

/-- The first reference to a variable that is not defined decides the error. -/
theorem expand_eq_error_iff {store : Variables} {words : List String} {fault : UndefinedVariable} :
    store.expand words = .error fault ↔
      ∃ before word after, words = before ++ word :: after ∧ reference? word = some fault.name ∧
        store.get? fault.name = none ∧
        ∀ earlier ∈ before, ∀ name, reference? earlier = some name → store.get? name ≠ none := by
  simp only [expand, mapM_eq_error_iff, expandWord_eq_error_iff, exists_expandWord_ok_iff,
    and_assoc]

/-- Operators stay where they are, unless the value of a variable that is referred to is one. -/
theorem map_ofWord?_of_expand {store : Variables} {words expanded : List String}
    (expands : store.expand words = .ok expanded)
    (plain : ∀ word ∈ words, ∀ name, reference? word = some name →
      ∀ value, store.get? name = some value → Operator.ofWord? value = none) :
    expanded.map Operator.ofWord? = words.map Operator.ofWord? := by
  rw [expand_eq_ok_iff] at expands
  induction expands with
  | nil => rfl
  | @cons word value words expanded found _ inductionHypothesis =>
    rw [List.forall_mem_cons] at plain
    rw [List.map_cons, List.map_cons, inductionHypothesis plain.2]
    refine congrArg (· :: _) ?_
    rcases expandWord_eq_ok_iff.mp found with ⟨_, rfl⟩ | ⟨name, refers, defined⟩
    · rfl
    · rw [plain.1 name refers value defined, ofWord?_of_reference? refers]

/-! ### What a line does to the variables -/

/-- The assignment that a line is, when it is read with the variables of this store. -/
def assignment? (store : Variables) (line : String) : Option (String × String) :=
  match store.expand (Words.ofLine line) with
  | .error _ => none
  | .ok words => written? words

/-- What a line assigns is what its first word stands for, cut at the first equals sign. -/
theorem exists_of_assignment? {store : Variables} {line name value : String}
    (assigns : store.assignment? line = some (name, value)) :
    ∃ word ∈ Words.ofLine line, store.expandWord word = .ok (name ++ "=" ++ value) ∧
      '=' ∉ name.toList ∧ name ≠ "" := by
  unfold assignment? at assigns
  split at assigns
  · cases assigns
  · rename_i words expands
    cases words with
    | nil => cases assigns
    | cons first rest =>
      obtain ⟨word, others, found, _, cut⟩ :=
        List.forall₂_cons_right_iff.mp (expand_eq_ok_iff.mp expands)
      obtain ⟨rfl, absent, nonempty⟩ := splitAssignment?_eq_some_iff.mp assigns
      exact ⟨word, cut ▸ List.mem_cons_self, found, absent, nonempty⟩

/-- The variables after an assignment, if there is one. -/
def after (store : Variables) : Option (String × String) → Variables
  | none => store
  | some (name, value) => (store.set name value).mark name

theorem find?_after_self (store : Variables) (name value : String) :
    (store.after (some (name, value))).find? name = some ⟨value, true⟩ := by
  rw [after, find?_mark_self, find?_set_self]
  rfl

theorem find?_after_of_ne (store : Variables) {name asked : String} (different : asked ≠ name)
    (value : String) :
    (store.after (some (name, value))).find? asked = store.find? asked := by
  rw [after, find?_mark_of_ne _ different, find?_set_of_ne _ different]

/-- Whether all variables have a property of their names and values. -/
def All (property : String → String → Prop) (store : Variables) : Prop :=
  ∀ pair ∈ store.entries, property pair.1 pair.2.value

section

variable {property : String → String → Prop} {store : Variables}

theorem All.insert (all : store.All property) {name : String} {entry : Variable}
    (new : property name entry.value) : (store.insert name entry).All property := by
  intro pair mem
  rcases Association.eq_or_mem_of_mem_put mem with rfl | earlier
  · exact new
  · exact all pair earlier

theorem All.mark (all : store.All property) (name : String) : (store.mark name).All property := by
  unfold Variables.mark
  split
  · exact all
  · rename_i entry found
    exact all.insert (all (name, entry) (Association.mem_of_get? found))

/-- What all variables have and an assigned one gets, all have after the assignment. -/
theorem All.after (all : store.All property) {assignment : Option (String × String)}
    (new : ∀ pair, assignment = some pair → property pair.1 pair.2) :
    (store.after assignment).All property := by
  cases assignment with
  | none => exact all
  | some pair => exact (all.insert (new pair rfl)).mark pair.1

theorem All.exportAll (all : store.All property) {pairs : List (String × String)}
    (new : ∀ pair ∈ pairs, property pair.1 pair.2) : (store.exportAll pairs).All property := by
  induction pairs generalizing store with
  | nil => exact all
  | cons pair rest inductionHypothesis =>
    obtain ⟨newFirst, newLater⟩ := List.forall_mem_cons.mp new
    have exported : (store.after (some pair)).All property :=
      all.after fun _ same => Option.some.inj same ▸ newFirst
    exact inductionHypothesis exported newLater

end

end Variables

namespace Session

variable (system : System σ) (executor : Executor σ) (mode : OutputMode)

theorem store_runBuiltin (builtin : Builtin) (rest : List String) (session : Session σ) :
    (runBuiltin system builtin rest session).2.store = session.store := by
  unfold runBuiltin
  dsimp only
  split <;> split <;> rfl

theorem store_runPipeline (words : List String) (session : Session σ) :
    (runPipeline system executor mode words session).2.store = session.store := by
  unfold runPipeline
  split
  · rfl
  · split <;> rfl

theorem store_runWords (words : List String) (session : Session σ) :
    (runWords system executor mode words session).2.store =
      session.store.after (written? words) := by
  cases words with
  | nil => rfl
  | cons first rest =>
    rw [runWords, written?, Variables.assign?]
    cases splitAssignment? first with
    | some pair => rfl
    | none =>
      cases Builtin.ofName? first with
      | some builtin => exact store_runBuiltin system builtin rest session
      | none => exact store_runPipeline system executor mode (first :: rest) session

/-- The variables after a line are those before it, changed by the assignment if it is one. -/
theorem store_runLine (line : String) (session : Session σ) :
    (runLine system executor mode line session).2.store =
      session.store.after (session.store.assignment? line) := by
  rw [runLine, Variables.assignment?]
  cases session.store.expand (Words.ofLine line) with
  | error fault => rfl
  | ok words => exact store_runWords system executor mode words _

theorem fst_runBuiltin_ne_assigned (builtin : Builtin) (rest : List String) (session : Session σ) :
    (runBuiltin system builtin rest session).1 ≠ .assigned := by
  intro assigned
  unfold runBuiltin at assigned
  dsimp only at assigned
  split at assigned <;> cases assigned

theorem fst_runPipeline_ne_assigned (words : List String) (session : Session σ) :
    (runPipeline system executor mode words session).1 ≠ .ok .assigned := by
  intro assigned
  unfold runPipeline at assigned
  split at assigned
  · cases assigned
  · split at assigned <;> cases assigned

theorem runWords_eq_assigned_iff {words : List String} {session : Session σ} :
    (runWords system executor mode words session).1 = .ok .assigned ↔
      ∃ pair, written? words = some pair := by
  cases words with
  | nil => simp [runWords, written?]
  | cons first rest =>
    rw [runWords, written?, Variables.assign?]
    cases splitAssignment? first with
    | some pair => simp
    | none =>
      constructor
      · intro assigned
        cases named : Builtin.ofName? first with
        | some builtin =>
          rw [named] at assigned
          exact absurd (Except.ok.inj assigned)
            (fst_runBuiltin_ne_assigned system builtin rest session)
        | none =>
          rw [named] at assigned
          exact absurd assigned
            (fst_runPipeline_ne_assigned system executor mode (first :: rest) session)
      · rintro ⟨pair, found⟩
        cases found

/-- A line ends as an assignment exactly if it is one. -/
theorem runLine_eq_assigned_iff {line : String} {session : Session σ} :
    (runLine system executor mode line session).1 = .ok .assigned ↔
      ∃ pair, session.store.assignment? line = some pair := by
  rw [runLine, Variables.assignment?]
  cases session.store.expand (Words.ofLine line) with
  | error fault =>
    constructor
    · intro assigned
      cases assigned
    · rintro ⟨pair, found⟩
      cases found
  | ok words => exact runWords_eq_assigned_iff system executor mode

/-! ### Sequences of lines -/

/-- The session after some lines, whatever becomes of each of them. -/
def runEach (lines : List String) (session : Session σ) : Session σ :=
  lines.foldl (fun current line => (runLine system executor mode line current).2) session

theorem runEach_cons (line : String) (lines : List String) (session : Session σ) :
    runEach system executor mode (line :: lines) session =
      runEach system executor mode lines (runLine system executor mode line session).2 := rfl

/-- The variables after some lines depend on nothing but the lines and the variables before them. -/
theorem store_runEach (lines : List String) (session : Session σ) :
    (runEach system executor mode lines session).store =
      lines.foldl (fun current line => current.after (current.assignment? line)) session.store := by
  induction lines generalizing session with
  | nil => rfl
  | cons line lines inductionHypothesis =>
    rw [runEach_cons, inductionHypothesis, store_runLine]
    rfl

/-- What every assignment keeps is kept by all lines. -/
theorem store_runEach_induction {Invariant : Variables → Prop}
    (step : ∀ store line, Invariant store → Invariant (store.after (store.assignment? line)))
    (lines : List String) (session : Session σ) (holds : Invariant session.store) :
    Invariant (runEach system executor mode lines session).store := by
  rw [store_runEach]
  exact List.foldlRecOn lines _ holds fun store kept line _ => step store line kept

/-! ### Handing a pipeline over -/

/-- Whether words ask for programs to be run: the first of them is neither an assignment nor a
command of the shell itself. -/
def AsksForPrograms : List String → Prop
  | [] => False
  | first :: _ => splitAssignment? first = none ∧ Builtin.ofName? first = none

instance : DecidablePred AsksForPrograms
  | [] => inferInstanceAs (Decidable False)
  | _ :: _ => inferInstanceAs (Decidable (_ ∧ _))

/-- How a line ends whose pipeline was run. -/
def concluded (session : Session σ) :
    Except ExecError Int × Interpreter σ → Except LineError Outcome × Session σ
  | (.error error, shell) => (.error (.execution error), { session with shell })
  | (.ok code, shell) => (.ok (.executed code), { session with shell })

/-- A line hands a pipeline over: whatever runs pipelines, the line ends as the run of this pipeline
does, with these variables and from this point. -/
def Hands (system : System σ) (mode : OutputMode) (line : String) (session : Session σ)
    (pipeline : Pipeline) (store : Variables) (shell : Interpreter σ) : Prop :=
  ∀ executor, runLine system executor mode line session =
    concluded session (executor pipeline store shell)

theorem concluded_inj {session : Session σ} {first second : Except ExecError Int × Interpreter σ} :
    concluded session first = concluded session second ↔ first = second := by
  refine ⟨fun same => ?_, congrArg _⟩
  obtain ⟨_ | _, _⟩ := first <;> obtain ⟨_ | _, _⟩ := second <;> simp_all [concluded]

variable {system mode}

theorem runPipeline_of_ok {words : List String} {session : Session σ} {pipeline : Pipeline}
    {built : Interpreter σ}
    (builds : Construction.build system mode words session.shell = (.ok pipeline, built)) :
    runPipeline system executor mode words session =
      concluded session (executor pipeline session.store (built.record (.handed pipeline))) := by
  rw [runPipeline, builds]
  dsimp only
  split <;> rename_i ending <;> rw [ending] <;> rfl

theorem runPipeline_of_error {words : List String} {session : Session σ} {error : BuildError}
    {after : Interpreter σ}
    (fails : Construction.build system mode words session.shell = (.error error, after)) :
    runPipeline system executor mode words session =
      (.error (.construction error), { session with shell := after }) := by
  rw [runPipeline, fails]

theorem runWords_of_asks {words : List String} (asks : AsksForPrograms words)
    (session : Session σ) :
    runWords system executor mode words session =
      runPipeline system executor mode words session := by
  cases words with
  | nil => cases asks
  | cons first rest =>
    rw [runWords, Variables.assign?, asks.1, asks.2]
    rfl

/-- Words that ask for no programs come to the same whatever runs pipelines. -/
theorem runWords_of_not_asks {words : List String} (asks : ¬ AsksForPrograms words)
    (first second : Executor σ) (session : Session σ) :
    runWords system first mode words session = runWords system second mode words session := by
  cases words with
  | nil => rfl
  | cons word rest =>
    simp only [runWords, Variables.assign?]
    cases split : splitAssignment? word with
    | some pair => rfl
    | none =>
      cases named : Builtin.ofName? word with
      | some builtin => rfl
      | none => exact absurd ⟨split, named⟩ asks

theorem runLine_of_ok {line : String} {session : Session σ} {words : List String}
    (expanded : session.store.expand (Words.ofLine line) = .ok words) :
    runLine system executor mode line session =
      runWords system executor mode words
        (session.enter system .debug ("tokens: " ++ Text.quotedList words)) := by
  rw [runLine, expanded]

theorem hands_of_build {line : String} {session : Session σ} {words : List String}
    {pipeline : Pipeline} {built : Interpreter σ}
    (expanded : session.store.expand (Words.ofLine line) = .ok words)
    (asks : AsksForPrograms words)
    (builds : Construction.build system mode words
        (session.shell.enter system .debug ("tokens: " ++ Text.quotedList words)) =
      (.ok pipeline, built)) :
    Hands system mode line session pipeline session.store (built.record (.handed pipeline)) := by
  intro executor
  rw [runLine_of_ok executor expanded, runWords_of_asks executor asks]
  exact runPipeline_of_ok executor builds

/-- A line that hands no pipeline over comes to the same whatever runs pipelines. -/
theorem runLine_of_quiet {line : String} {session : Session σ}
    (quiet : ∀ words pipeline built,
      session.store.expand (Words.ofLine line) = .ok words → AsksForPrograms words →
      Construction.build system mode words
          (session.shell.enter system .debug ("tokens: " ++ Text.quotedList words)) ≠
        (.ok pipeline, built))
    (first second : Executor σ) :
    runLine system first mode line session = runLine system second mode line session := by
  cases expanded : session.store.expand (Words.ofLine line) with
  | error fault => rw [runLine, runLine, expanded]
  | ok words =>
    rw [runLine_of_ok first expanded, runLine_of_ok second expanded]
    by_cases asks : AsksForPrograms words
    · rw [runWords_of_asks first asks, runWords_of_asks second asks]
      rcases builds : Construction.build system mode words
          (session.shell.enter system .debug ("tokens: " ++ Text.quotedList words)) with
        ⟨error | pipeline, built⟩
      · exact (runPipeline_of_error first builds).trans (runPipeline_of_error second builds).symm
      · exact absurd builds (quiet words pipeline built expanded asks)
    · exact runWords_of_not_asks asks first second _

/-- A line hands over one pipeline at most. -/
theorem Hands.unique {line : String} {session : Session σ} {first second : Pipeline}
    {firstStore secondStore : Variables} {firstShell secondShell : Interpreter σ}
    (hands : Hands system mode line session first firstStore firstShell)
    (handsToo : Hands system mode line session second secondStore secondShell) :
    second = first ∧ secondStore = firstStore ∧ secondShell = firstShell := by
  classical
  -- Its exit code tells this pipeline from all others.
  let telling : Executor σ := fun pipeline store shell =>
    (.ok (if pipeline = first ∧ store = firstStore ∧ shell = firstShell then 0 else 1), firstShell)
  have same := (hands telling).symm.trans (handsToo telling)
  rw [concluded_inj] at same
  by_contra different
  simp [telling, different] at same

/-- A line hands a pipeline over exactly if its words expand, ask for programs and can be built. It
is the pipeline that was built, and the variables are those of the session. -/
theorem hands_iff {line : String} {session : Session σ} {pipeline : Pipeline} {store : Variables}
    {shell : Interpreter σ} :
    Hands system mode line session pipeline store shell ↔
      ∃ words built, session.store.expand (Words.ofLine line) = .ok words ∧
        AsksForPrograms words ∧
        Construction.build system mode words
            (session.shell.enter system .debug ("tokens: " ++ Text.quotedList words)) =
          (.ok pipeline, built) ∧
        store = session.store ∧ shell = built.record (.handed pipeline) := by
  constructor
  · intro hands
    by_cases found : ∃ words other built, session.store.expand (Words.ofLine line) = .ok words ∧
        AsksForPrograms words ∧
        Construction.build system mode words
            (session.shell.enter system .debug ("tokens: " ++ Text.quotedList words)) =
          (.ok other, built)
    · obtain ⟨words, other, built, expanded, asks, builds⟩ := found
      obtain ⟨rfl, rfl, rfl⟩ := (hands_of_build expanded asks builds).unique hands
      exact ⟨words, built, expanded, asks, builds, rfl, rfl⟩
    · -- Nothing would be run, but the line must show the exit code of whatever runs it.
      exfalso
      have same := runLine_of_quiet
        (fun words other built expanded asks builds =>
          found ⟨words, other, built, expanded, asks, builds⟩)
        (fun _ _ shell => (.ok 0, shell)) (fun _ _ shell => (.ok 1, shell))
      rw [hands, hands, concluded_inj] at same
      cases same
  · rintro ⟨words, built, expanded, asks, builds, rfl, rfl⟩
    exact hands_of_build expanded asks builds

end Session

end PipelineShell
