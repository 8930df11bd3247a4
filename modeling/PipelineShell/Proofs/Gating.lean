/-
What a line may do before a pipeline is run.

Only a line that qualifies gets as far as whatever runs pipelines: its words expand, there are some,
the first of them is neither an assignment nor the name of a command of the shell, and a pipeline
can be built from all of them. Then the pipeline is handed over once, and the line ends as its run
does. Every other line goes a way of its own, and this file says how little may happen on each: an
assignment or a command of the shell opens nothing, whatever operators the line holds; nothing but
`cd` changes the directory; and a variable that is not defined keeps the line from doing anything.
-/

import PipelineShell.Proofs.Dispatch
import PipelineShell.Proofs.Places

namespace PipelineShell

variable {σ : Type}

/-! ### Giving pipelines away -/

/-- The pipeline that is given away in an event. -/
def Event.handed? : Event → Option Pipeline
  | .handed pipeline => some pipeline
  | _ => none

/-- The pipelines that were given away to be run, in order. -/
def Interpreter.handedOver (shell : Interpreter σ) : List Pipeline :=
  shell.recorded Event.handed?

variable {system : System σ} {deeds : List Deed} {before after : Interpreter σ}

/-- No step gives a pipeline away. -/
theorem Does.handedOver_eq (does : Does system deeds before after) :
    after.handedOver = before.handedOver :=
  does.recorded_eq fun _ _ _ shows => by cases shows <;> rfl

/-! ### Where the shell's process is -/

/-- Whether something about the world tells where the shell's process is: nothing but a change of
the directory that succeeds makes a difference to it. -/
structure System.IsDirectory (system : System σ) {α : Type} (directory : σ → α) : Prop where
  openFile : ∀ path truncate serial world,
    directory (system.openFile path truncate serial world).2 = directory world
  makePipe : ∀ serial world, directory (system.makePipe serial world).2 = directory world
  refused : ∀ path errno world changed,
    system.changeDirectory path world = (.error errno, changed) → directory changed = directory world
  write : ∀ stream text world, directory (system.write stream text world) = directory world
  enter : ∀ entry world, directory (system.enter entry world) = directory world

variable {α : Type} {directory : σ → α}

/-- Steps of all other kinds leave the directory alone. -/
theorem Does.directory_eq (does : Does system deeds before after)
    (isDirectory : system.IsDirectory directory) (absent : .changeDirectory ∉ deeds) :
    directory after.world = directory before.world := by
  refine does.world_induction (motive := fun world => directory world = directory before.world)
    rfl fun deed mem first next change holds => ?_
  cases change with
  | none => exact holds
  | enter => exact (isDirectory.enter _ _).trans holds
  | write => exact (isDirectory.write _ _ _).trans holds
  | openFile => exact (isDirectory.openFile _ _ _ _).trans holds
  | makePipe => exact (isDirectory.makePipe _ _).trans holds
  | changeDirectory => exact absurd mem absent

/-- Only `cd` changes the directory, and only when it succeeds. -/
theorem System.IsDirectory.run_eq (isDirectory : system.IsDirectory directory) (builtin : Builtin)
    (arguments : List String) (store : Variables) (shell : Interpreter σ)
    (other : ¬ (builtin = .changeDirectory ∧
      (builtin.run system arguments store shell).1 = .proceed 0)) :
    directory (builtin.run system arguments store shell).2.world = directory shell.world := by
  have entered : directory (shell.enter system .debug
      ("builtin " ++ builtin.name ++ " " ++ Text.quotedList arguments)).world =
    directory shell.world := isDirectory.enter _ _
  unfold Builtin.run at other ⊢
  generalize shell.enter system .debug _ = ready at entered other ⊢
  refine Eq.trans ?_ entered
  cases builtin with
  | help => exact isDirectory.write _ _ _
  | changeDirectory =>
    dsimp only [Builtin.carryOut] at other ⊢
    split
    · rename_i after succeeded
      rw [succeeded] at other
      exact absurd ⟨rfl, rfl⟩ other
    · rename_i fault after failed
      refine (isDirectory.write _ _ _).trans ?_
      unfold Builtin.moveTo at failed
      split at failed
      · cases failed
        rfl
      · rename_i path _
        split at failed
        · cases failed
        · rename_i errno changed refused
          cases failed
          exact isDirectory.refused path errno ready.world changed refused
  | exit =>
    simp only [Builtin.carryOut]
    split
    · rfl
    · split
      · rfl
      · exact isDirectory.write _ _ _

/-- The directory of the machine tells where the shell's process is. -/
theorem Machine.isDirectory : Machine.system.IsDirectory fun machine => machine.directory where
  openFile path truncate serial machine :=
    machine.toKernel.directory_openPath serial path truncate
  makePipe _ _ := rfl
  refused path errno machine changed refused := by
    simp only [Machine.system, Machine.call, Kernel.changeDirectory] at refused
    split at refused
    · cases refused
      rfl
    · cases refused
  write stream text machine := by cases stream <;> rfl
  enter entry machine := (machine.toKernel.enter_agree entry).1

/-! ### Lines that qualify -/

namespace Session

variable {executor : Executor σ} {mode : OutputMode} {line : String} {session : Session σ}

/-- A line qualifies if its words expand, the first of them is neither an assignment nor the name of
a command of the shell, and a pipeline is built from all of them. -/
def Qualifies (system : System σ) (mode : OutputMode) (line : String) (session : Session σ)
    (pipeline : Pipeline) (built : Interpreter σ) : Prop :=
  ∃ first rest, session.store.expand (Words.ofLine line) = .ok (first :: rest) ∧
    (∀ name value, name ≠ "" → '=' ∉ name.toList → first ≠ name ++ "=" ++ value) ∧
    (∀ builtin : Builtin, first ≠ builtin.name) ∧
    Construction.build system mode (first :: rest)
        (session.shell.enter system .debug ("tokens: " ++ Text.quotedList (first :: rest))) =
      (.ok pipeline, built)

theorem ofName?_eq_none_iff {word : String} :
    Builtin.ofName? word = none ↔ ∀ builtin : Builtin, word ≠ builtin.name := by
  simp only [Builtin.ofName?, List.find?_eq_none, decide_eq_true_eq]
  constructor
  · intro unnamed builtin same
    exact unnamed builtin (by cases builtin <;> simp) same.symm
  · intro unnamed builtin _ same
    exact unnamed builtin same.symm

theorem splitAssignment?_eq_none_iff {word : String} :
    splitAssignment? word = none ↔
      ∀ name value, name ≠ "" → '=' ∉ name.toList → word ≠ name ++ "=" ++ value := by
  constructor
  · intro plain name value nonempty absent same
    rw [splitAssignment?_eq_some_iff.mpr ⟨same, absent, nonempty⟩] at plain
    cases plain
  · intro plain
    refine Option.eq_none_iff_forall_ne_some.mpr fun pair splits => ?_
    obtain ⟨same, absent, nonempty⟩ := splitAssignment?_eq_some_iff.mp splits
    exact plain _ _ nonempty absent same

/-- A line qualifies if its words ask for programs and can be built. -/
theorem qualifies_iff {pipeline : Pipeline} {built : Interpreter σ} :
    Qualifies system mode line session pipeline built ↔
      ∃ words, session.store.expand (Words.ofLine line) = .ok words ∧ AsksForPrograms words ∧
        Construction.build system mode words
            (session.shell.enter system .debug ("tokens: " ++ Text.quotedList words)) =
          (.ok pipeline, built) := by
  constructor
  · rintro ⟨first, rest, expanded, plain, unnamed, builds⟩
    exact ⟨first :: rest, expanded,
      ⟨splitAssignment?_eq_none_iff.mpr plain, ofName?_eq_none_iff.mpr unnamed⟩, builds⟩
  · rintro ⟨words, expanded, asks, builds⟩
    cases words with
    | nil => cases asks
    | cons first rest =>
      exact ⟨first, rest, expanded, splitAssignment?_eq_none_iff.mp asks.1,
        ofName?_eq_none_iff.mp asks.2, builds⟩

/-! ### The ways of a line -/

/-- The ways that a line may go, with what becomes of it on each. -/
inductive Way (system : System σ) (executor : Executor σ) (mode : OutputMode) (line : String)
    (session : Session σ) : Except LineError Outcome × Session σ → Prop where
  | undefined {fault : UndefinedVariable}
      (fails : session.store.expand (Words.ofLine line) = .error fault) :
      Way system executor mode line session (.error (.expansion fault), session)
  | empty (expanded : session.store.expand (Words.ofLine line) = .ok []) :
      Way system executor mode line session
        (.ok .empty, session.enter system .debug ("tokens: " ++ Text.quotedList []))
  | assigned {first : String} {rest : List String} {pair : String × String} {changed : Variables}
      (expanded : session.store.expand (Words.ofLine line) = .ok (first :: rest))
      (splits : splitAssignment? first = some pair) :
      Way system executor mode line session
        (.ok .assigned, assign system first changed rest
          (session.enter system .debug ("tokens: " ++ Text.quotedList (first :: rest))))
  | builtin {builtin : Builtin} {rest : List String}
      (expanded : session.store.expand (Words.ofLine line) = .ok (builtin.name :: rest)) :
      Way system executor mode line session
        ((runBuiltin system builtin rest
            (session.enter system .debug
              ("tokens: " ++ Text.quotedList (builtin.name :: rest)))).map .ok id)
  | unbuilt {words : List String} {error : BuildError} {after : Interpreter σ}
      (expanded : session.store.expand (Words.ofLine line) = .ok words)
      (asks : AsksForPrograms words)
      (fails : Construction.build system mode words
          (session.shell.enter system .debug ("tokens: " ++ Text.quotedList words)) =
        (.error error, after)) :
      Way system executor mode line session
        (.error (.construction error), { session with shell := after })
  | handed {pipeline : Pipeline} {built : Interpreter σ}
      (qualifies : Qualifies system mode line session pipeline built) :
      Way system executor mode line session
        (concluded session (executor pipeline session.store (built.record (.handed pipeline))))

theorem name_of_ofName? {word : String} {builtin : Builtin}
    (named : Builtin.ofName? word = some builtin) : builtin.name = word := by
  simpa using List.find?_some named

theorem runLine_way (system : System σ) (executor : Executor σ) (mode : OutputMode) (line : String)
    (session : Session σ) :
    Way system executor mode line session (runLine system executor mode line session) := by
  cases expanded : session.store.expand (Words.ofLine line) with
  | error fault =>
    rw [runLine, expanded]
    exact .undefined expanded
  | ok words =>
    rw [runLine_of_ok executor expanded]
    by_cases asks : AsksForPrograms words
    · rw [runWords_of_asks executor asks]
      rcases builds : Construction.build system mode words
          (session.shell.enter system .debug ("tokens: " ++ Text.quotedList words)) with
        ⟨error | pipeline, built⟩
      · rw [runPipeline_of_error executor builds]
        exact .unbuilt expanded asks builds
      · rw [runPipeline_of_ok executor builds]
        exact .handed (qualifies_iff.mpr ⟨words, expanded, asks, builds⟩)
    · cases words with
      | nil => exact .empty expanded
      | cons first rest =>
        rw [runWords, Variables.assign?]
        cases splits : splitAssignment? first with
        | some pair => exact .assigned expanded splits
        | none =>
          cases named : Builtin.ofName? first with
          | some builtin =>
            obtain rfl := name_of_ofName? named
            exact .builtin expanded
          | none => exact absurd ⟨splits, named⟩ asks

/-- A reference to a variable that is not defined, wherever it is, keeps words from expanding. -/
theorem exists_expand_error {store : Variables} {words : List String} {name : String}
    (nonempty : name ≠ "") (mem : "$" ++ name ∈ words) (undefined : store.get? name = none) :
    ∃ fault, store.expand words = .error fault := by
  cases expands : store.expand words with
  | error fault => exact ⟨fault, rfl⟩
  | ok expanded =>
    have each := (Variables.expand_eq_ok_iff.mp expands).imp fun word value found =>
      (⟨⟨value, found⟩, found⟩ : (∃ value, store.expandWord word = .ok value) ∧ _)
    have stands := ((List.forall₂_and_left _ _).mp each).1 _ mem
    exact absurd undefined (Variables.exists_expandWord_ok_iff.mp stands name
      (reference?_eq_some_iff.mpr ⟨rfl, nonempty⟩))

/-- A line qualifies for one pipeline at most. -/
theorem Qualifies.unique {first second : Pipeline} {firstBuilt secondBuilt : Interpreter σ}
    (qualifies : Qualifies system mode line session first firstBuilt)
    (qualifiesToo : Qualifies system mode line session second secondBuilt) :
    second = first ∧ secondBuilt = firstBuilt := by
  obtain ⟨words, expanded, _, builds⟩ := qualifies_iff.mp qualifies
  obtain ⟨others, expandedToo, _, buildsToo⟩ := qualifies_iff.mp qualifiesToo
  obtain rfl : words = others := Except.ok.inj (expanded.symm.trans expandedToo)
  rw [builds] at buildsToo
  cases buildsToo
  exact ⟨rfl, rfl⟩

/-! ### What happens on each way -/

/-- Whether a line ends as one that asks for no programs. -/
def EndsQuietly : Except LineError Outcome → Prop
  | .ok .empty | .ok .assigned | .ok (.builtin _) | .ok (.exit _) => True
  | .error (.expansion _) => True
  | .ok (.executed _) | .error (.construction _) | .error (.execution _) => False

/-- Whether a line ends as the run of a pipeline does. -/
def EndsAsRun : Except LineError Outcome → Prop
  | .ok (.executed _) | .error (.execution _) => True
  | .ok .empty | .ok .assigned | .ok (.builtin _) | .ok (.exit _) => False
  | .error (.expansion _) | .error (.construction _) => False

theorem endsAsRun_concluded (session : Session σ)
    (ending : Except ExecError Int × Interpreter σ) : EndsAsRun (concluded session ending).1 := by
  obtain ⟨_ | _, _⟩ := ending <;> trivial

theorem not_endsQuietly_concluded (session : Session σ)
    (ending : Except ExecError Int × Interpreter σ) :
    ¬ EndsQuietly (concluded session ending).1 := by
  obtain ⟨_ | _, _⟩ := ending <;> exact id

/-- How a line ends that is a command of the shell. -/
theorem fst_runBuiltin (system : System σ) (builtin : Builtin) (rest : List String)
    (session : Session σ) :
    (runBuiltin system builtin rest session).1 =
      match (builtin.run system (rest.takeWhile fun word => !isOperator word) session.store
        session.shell).1 with
      | .exit code => .exit code
      | .proceed code => .builtin code := by
  unfold runBuiltin
  dsimp only
  generalize builtin.run system (rest.takeWhile fun word => !isOperator word) session.store
    session.shell = ending
  obtain ⟨_ | _, _⟩ := ending <;> rfl

theorem warned_does (system : System σ) (builtin : Builtin) (rest : List String)
    (session : Session σ) :
    Does system [.enter] (builtin.run system (rest.takeWhile fun word => !isOperator word)
        session.store session.shell).2 (runBuiltin system builtin rest session).2.shell := by
  unfold runBuiltin
  dsimp only
  split <;> split
  · exact (Does.refl _).step (.enter .warn _ _) (by decide)
  · exact .refl _
  · exact (Does.refl _).step (.enter .warn _ _) (by decide)
  · exact .refl _

theorem endsQuietly_runBuiltin (system : System σ) (builtin : Builtin) (rest : List String)
    (session : Session σ) : EndsQuietly (.ok (runBuiltin system builtin rest session).1) := by
  rw [fst_runBuiltin]
  split <;> trivial

theorem not_endsAsRun_runBuiltin (system : System σ) (builtin : Builtin) (rest : List String)
    (session : Session σ) : ¬ EndsAsRun (.ok (runBuiltin system builtin rest session).1) := by
  rw [fst_runBuiltin]
  split <;> exact id

theorem assign_does (system : System σ) (word : String) (changed : Variables) (rest : List String)
    (session : Session σ) :
    Does system [.enter] session.shell (assign system word changed rest session).shell := by
  unfold assign
  split
  · exact .refl _
  · exact (Does.refl session.shell).step (.enter .warn _ session.shell) (by decide)

theorem runBuiltin_does (system : System σ) (builtin : Builtin) (rest : List String)
    (session : Session σ) :
    Does system [.enter, .write, .changeDirectory] session.shell
      (runBuiltin system builtin rest session).2.shell :=
  (Builtin.run_does system builtin _ session.store session.shell).trans
    ((warned_does system builtin rest session).mono (by decide))

/-- Words are entered in the journal before anything is done about them. -/
theorem entered_does (system : System σ) (words : List String) (session : Session σ) :
    Does system [.enter] session.shell
      (session.enter system .debug ("tokens: " ++ Text.quotedList words)).shell :=
  (Does.refl session.shell).step (.enter .debug _ session.shell) (by decide)

/-- A line whose words are built gets along with what builds do. -/
theorem build_line_does {words : List String} {outcome : Except BuildError Pipeline}
    {after : Interpreter σ}
    (builds : Construction.build system mode words
        (session.shell.enter system .debug ("tokens: " ++ Text.quotedList words)) =
      (outcome, after)) : Does system Construction.deeds session.shell after := by
  have built := Construction.build_does system mode words
    (session.shell.enter system .debug ("tokens: " ++ Text.quotedList words))
  rw [builds] at built
  exact ((entered_does system words session).mono (by decide)).trans built

namespace Way

variable {result : Except LineError Outcome × Session σ}

/-- Without a pipeline to run, a line keeps the journal, writes and may change the directory. -/
theorem does_of_endsQuietly (way : Way system executor mode line session result)
    (quiet : EndsQuietly result.1) :
    Does system [.enter, .write, .changeDirectory] session.shell result.2.shell := by
  cases way with
  | undefined => exact .refl _
  | empty => exact (entered_does system [] session).mono (by decide)
  | @assigned first rest _ changed =>
    have entered := entered_does system (first :: rest) session
    exact (entered.trans (assign_does system first changed rest _)).mono (by decide)
  | @builtin builtin rest =>
    have entered := entered_does system (builtin.name :: rest) session
    exact (entered.mono (by decide)).trans (runBuiltin_does system builtin rest _)
  | unbuilt => cases quiet
  | handed => exact absurd quiet (not_endsQuietly_concluded _ _)

/-- The shell goes its own steps with a line that does not qualify. -/
theorem does_of_unqualified (way : Way system executor mode line session result)
    (unqualified : ¬ ∃ pipeline built, Qualifies system mode line session pipeline built) :
    Does system (.write :: .changeDirectory :: Construction.deeds) session.shell
      result.2.shell := by
  by_cases quiet : EndsQuietly result.1
  · exact (way.does_of_endsQuietly quiet).mono (by decide)
  · cases way with
    | undefined | empty | assigned => exact absurd trivial quiet
    | builtin => exact absurd (endsQuietly_runBuiltin _ _ _ _) quiet
    | unbuilt _ _ fails => exact (build_line_does fails).mono (by decide)
    | handed qualifies => exact absurd ⟨_, _, qualifies⟩ unqualified

end Way

/-- A command of the shell that changes the directory is `cd`, and it ends well. -/
theorem directory_runBuiltin (isDirectory : system.IsDirectory directory) (builtin : Builtin)
    (rest : List String) (session : Session σ)
    (other : ¬ (builtin = .changeDirectory ∧
      (runBuiltin system builtin rest session).1 = .builtin 0)) :
    directory (runBuiltin system builtin rest session).2.shell.world =
      directory session.shell.world := by
  refine ((warned_does system builtin rest session).directory_eq isDirectory (by decide)).trans ?_
  refine isDirectory.run_eq builtin _ session.store session.shell fun moved => other ⟨moved.1, ?_⟩
  rw [fst_runBuiltin, moved.2]

/-! ### The gate -/

/-- How little of what a line may do it does without being what it takes. -/
structure Gated (system : System σ) (executor : Executor σ) (mode : OutputMode) (line : String)
    (session : Session σ) : Prop where
  /-- A line that qualifies is run: the pipeline is handed over once, and the line ends as its run
  does. -/
  called : ∀ pipeline built, Qualifies system mode line session pipeline built →
    runLine system executor mode line session =
      concluded session (executor pipeline session.store (built.record (.handed pipeline)))
  /-- Any other line comes to the same whatever runs pipelines. -/
  uncalled : (¬ ∃ pipeline built, Qualifies system mode line session pipeline built) →
    ∀ other, runLine system other mode line session = runLine system executor mode line session
  /-- The history shows one pipeline that was given away, or none, provided that whatever runs them
  gives none away itself. -/
  given : (∀ pipeline store shell,
      (executor pipeline store shell).2.handedOver = shell.handedOver) →
    ∃ given : Option Pipeline,
      (runLine system executor mode line session).2.shell.handedOver =
        session.shell.handedOver ++ given.toList ∧
      ∀ pipeline, given = some pipeline ↔
        ∃ built, Qualifies system mode line session pipeline built
  /-- A line ends as a run exactly if it qualifies. -/
  ran : EndsAsRun (runLine system executor mode line session).1 ↔
    ∃ pipeline built, Qualifies system mode line session pipeline built
  /-- A line that asks for no programs opens nothing. -/
  quiet : EndsQuietly (runLine system executor mode line session).1 →
    Does system [.enter, .write, .changeDirectory] session.shell
        (runLine system executor mode line session).2.shell ∧
      (runLine system executor mode line session).2.shell.requests = session.shell.requests
  /-- What runs a pipeline finds the directory as it was. -/
  stays : ∀ {α : Type} (directory : σ → α), system.IsDirectory directory →
    ∀ pipeline built, Qualifies system mode line session pipeline built →
      directory built.world = directory session.shell.world
  /-- Unless the run of a pipeline changes it, the directory is another one only after `cd`. -/
  moves : ∀ {α : Type} (directory : σ → α), system.IsDirectory directory →
    directory (runLine system executor mode line session).2.shell.world ≠
        directory session.shell.world →
    ((∃ rest, session.store.expand (Words.ofLine line) = .ok ("cd" :: rest)) ∧
        (runLine system executor mode line session).1 = .ok (.builtin 0)) ∨
      ∃ pipeline built, Qualifies system mode line session pipeline built ∧
        directory (executor pipeline session.store (built.record (.handed pipeline))).2.world ≠
          directory built.world
  /-- A variable that is not defined, wherever the line refers to it, ends the line before it does
  anything. -/
  undefined : ∀ name, name ≠ "" → "$" ++ name ∈ Words.ofLine line →
    session.store.get? name = none →
    ∃ fault, runLine system executor mode line session = (.error (.expansion fault), session)

variable (executor) in
theorem runLine_of_qualifies {pipeline : Pipeline} {built : Interpreter σ}
    (qualifies : Qualifies system mode line session pipeline built) :
    runLine system executor mode line session =
      concluded session (executor pipeline session.store (built.record (.handed pipeline))) := by
  obtain ⟨words, expanded, asks, builds⟩ := qualifies_iff.mp qualifies
  exact hands_of_build expanded asks builds executor

theorem Qualifies.hands {pipeline : Pipeline} {built : Interpreter σ}
    (qualifies : Qualifies system mode line session pipeline built) :
    Hands system mode line session pipeline session.store (built.record (.handed pipeline)) :=
  fun executor => runLine_of_qualifies executor qualifies

theorem Qualifies.does {pipeline : Pipeline} {built : Interpreter σ}
    (qualifies : Qualifies system mode line session pipeline built) :
    Does system Construction.deeds session.shell built := by
  obtain ⟨words, _, _, builds⟩ := qualifies_iff.mp qualifies
  exact build_line_does builds

theorem snd_concluded (session : Session σ) (ending : Except ExecError Int × Interpreter σ) :
    (concluded session ending).2.shell = ending.2 := by
  obtain ⟨_ | _, _⟩ := ending <;> rfl

/-- The directory is another one after `cd` only, or because the run of a pipeline changed it. -/
theorem Way.moved {result : Except LineError Outcome × Session σ}
    (way : Way system executor mode line session result)
    (isDirectory : system.IsDirectory directory)
    (moved : directory result.2.shell.world ≠ directory session.shell.world) :
    ((∃ rest, session.store.expand (Words.ofLine line) = .ok ("cd" :: rest)) ∧
        result.1 = .ok (.builtin 0)) ∨
      ∃ pipeline built, Qualifies system mode line session pipeline built ∧
        directory (executor pipeline session.store (built.record (.handed pipeline))).2.world ≠
          directory built.world := by
  have entered : ∀ words, directory
      (session.enter system .debug ("tokens: " ++ Text.quotedList words)).shell.world =
        directory session.shell.world :=
    fun words => (entered_does system words session).directory_eq isDirectory (by decide)
  cases way with
  | undefined => exact absurd rfl moved
  | empty => exact absurd (entered []) moved
  | @assigned first rest _ changed =>
    refine absurd (Eq.trans ?_ (entered (first :: rest))) moved
    exact (assign_does system first changed rest _).directory_eq isDirectory (by decide)
  | @builtin builtin rest expanded =>
    by_cases succeeded : builtin = .changeDirectory ∧ (runBuiltin system builtin rest
      (session.enter system .debug ("tokens: " ++ Text.quotedList (builtin.name :: rest)))).1 =
        .builtin 0
    · obtain ⟨rfl, ending⟩ := succeeded
      exact .inl ⟨⟨rest, expanded⟩, congrArg Except.ok ending⟩
    · exact absurd ((directory_runBuiltin isDirectory builtin rest _ succeeded).trans (entered _))
        moved
  | unbuilt _ _ fails =>
    exact absurd ((build_line_does fails).directory_eq isDirectory (by decide)) moved
  | @handed pipeline built qualifies =>
    rw [snd_concluded] at moved
    refine .inr ⟨pipeline, built, qualifies, fun same => moved (same.trans ?_)⟩
    exact qualifies.does.directory_eq isDirectory (by decide)

/-- Nothing that a line may do gets past the gate: a pipeline is run for a line that qualifies and
for no other, a line that asks for no programs opens nothing, only `cd` changes the directory, and
a variable that is not defined keeps the line from doing anything. -/
theorem runLine_gated (system : System σ) (executor : Executor σ) (mode : OutputMode)
    (line : String) (session : Session σ) : Gated system executor mode line session := by
  have way := runLine_way system executor mode line session
  constructor
  case called => exact fun pipeline built qualifies => runLine_of_qualifies executor qualifies
  case uncalled =>
    intro unqualified other
    refine runLine_of_quiet (fun words pipeline built expanded asks builds => ?_) other executor
    exact unqualified ⟨pipeline, built, qualifies_iff.mpr ⟨words, expanded, asks, builds⟩⟩
  case given =>
    intro givesNone
    by_cases qualified : ∃ pipeline built, Qualifies system mode line session pipeline built
    · obtain ⟨pipeline, built, qualifies⟩ := qualified
      refine ⟨some pipeline, ?_, fun other => ⟨?_, ?_⟩⟩
      · rw [runLine_of_qualifies executor qualifies, snd_concluded, givesNone,
          ← qualifies.does.handedOver_eq]
        exact Interpreter.recorded_record _ _ _
      · rintro ⟨⟩
        exact ⟨built, qualifies⟩
      · rintro ⟨_, qualifiesToo⟩
        rw [(qualifies.unique qualifiesToo).1]
    · refine ⟨none, ?_, fun other => ⟨?_, ?_⟩⟩
      · rw [(way.does_of_unqualified qualified).handedOver_eq]
        exact (List.append_nil _).symm
      · rintro ⟨⟩
      · rintro ⟨built, qualifies⟩
        exact absurd ⟨other, built, qualifies⟩ qualified
  case ran =>
    constructor
    · intro ran
      generalize runLine system executor mode line session = result at way ran
      cases way with
      | undefined | empty | assigned | unbuilt => cases ran
      | builtin => exact absurd ran (not_endsAsRun_runBuiltin _ _ _ _)
      | handed qualifies => exact ⟨_, _, qualifies⟩
    · rintro ⟨pipeline, built, qualifies⟩
      rw [runLine_of_qualifies executor qualifies]
      exact endsAsRun_concluded _ _
  case quiet =>
    intro quiet
    have does := way.does_of_endsQuietly quiet
    exact ⟨does, does.requests_eq (by decide)⟩
  case stays =>
    intro _ directory isDirectory pipeline built qualifies
    exact qualifies.does.directory_eq isDirectory (by decide)
  case moves => exact fun directory isDirectory => way.moved isDirectory
  case undefined =>
    intro name nonempty mem undefined
    obtain ⟨fault, fails⟩ := exists_expand_error nonempty mem undefined
    exact ⟨fault, by rw [runLine, fails]⟩

end Session

end PipelineShell
