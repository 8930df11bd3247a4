/-
What the shape of a pipeline depends on.

How many stages a pipeline has, how many arguments each of them has, what is redirected and whether
the background was asked for: all this can be read off which words of its line are which operators.
The other words do not matter. So variables leave the shape alone as long as none that the line
refers to holds exactly an operator. One that does is taken for the operator, because words are
looked at after they are expanded.
-/

import Mathlib.Data.List.Count
import PipelineShell.Proofs.Dispatch
import PipelineShell.Proofs.Wiring

namespace PipelineShell

open Construction Grammar

variable {σ τ : Type}

/-! ### Shapes -/

/-- The shape of a stage: how many arguments it has, and whether its streams are redirected or
joined to others. -/
@[ext]
structure StageShape where
  arguments : Nat
  input : Bool
  output : Bool
  deriving DecidableEq, Repr

def Stage.shape (stage : Stage) : StageShape where
  arguments := stage.arguments.length
  input := stage.input.owned?.isSome
  output := stage.output.owned?.isSome

/-- The shape of a pipeline: the shapes of its stages, and whether the background was asked for. -/
structure Shape where
  stages : List StageShape
  background : Bool
  deriving DecidableEq, Repr

def Pipeline.shape (pipeline : Pipeline) : Shape where
  stages := pipeline.stages.map Stage.shape
  background := pipeline.background

/-- The shape of the stage that the segment at an index becomes. -/
def stageShapeOf (words : List String) (index : Nat) (segment : List String) : StageShape where
  arguments := (plainWords segment).length
  input := index ≠ 0 ∨ (Operator.redirect .input).text ∈ words
  output := index ≠ words.count Operator.pipe.text ∨ (Operator.redirect .output).text ∈ words

/-- The shape of what words become. -/
def shapeOf (words : List String) : Shape where
  stages := (segments words).mapIdx (stageShapeOf words)
  background := Operator.background.text ∈ words

/-! ### What is built has the shape of its words -/

theorem Endpoint.LeadsTo.isSome_owned {endpoint : Endpoint} {table : Table}
    {handle? : Option Handle} (leads : endpoint.LeadsTo table handle?) :
    endpoint.owned?.isSome = handle?.isSome := by
  have lengths := leads.length_owned
  cases handle? <;> cases endpoint <;> simp_all [Endpoint.owned?]

section

variable {words : List String} {commands : List Command}

theorem isSome_lastFile (grammatical : Grammatical words commands) (direction : Direction)
    (first : Nat) :
    (lastFile direction first (redirectionsOf words)).isSome =
      decide ((Operator.redirect direction).text ∈ words) := by
  have lengths := length_lastFile direction first (redirectionsOf words)
  simp only [← sign_mem_grammatical grammatical] at lengths
  cases found : lastFile direction first (redirectionsOf words) <;> simp_all

theorem isSome_inputOf (grammatical : Grammatical words commands) (first index : Nat) :
    (inputOf first words index).isSome =
      decide (index ≠ 0 ∨ (Operator.redirect .input).text ∈ words) := by
  cases index with
  | zero => simpa [inputOf] using isSome_lastFile grammatical .input first
  | succ index => simp [inputOf]

theorem isSome_outputOf (grammatical : Grammatical words commands) (first index : Nat) :
    (outputOf first words index).isSome =
      decide (index ≠ words.count Operator.pipe.text ∨
        (Operator.redirect .output).text ∈ words) := by
  by_cases isLast : index = words.count Operator.pipe.text
  · simpa [outputOf, isLast] using isSome_lastFile grammatical .output first
  · simp [outputOf, isLast]

end

/-- A pipeline that is built has the shape of its words. -/
theorem build_shape {system : System σ} {mode : OutputMode} {words : List String}
    {shell after : Interpreter σ} {pipeline : Pipeline} (nonempty : words ≠ [])
    (built : build system mode words shell = (.ok pipeline, after)) :
    pipeline.shape = shapeOf words := by
  have leads := build_leads nonempty built
  obtain ⟨commands, ends, opened, pipes, done, grammatical, opens, made, rfl, _, _⟩ :=
    exists_commands_of_build nonempty built
  obtain ⟨_, enough⟩ := length_pipes grammatical made
  rw [Pipeline.shape, shapeOf, Shape.mk.injEq]
  constructor
  · refine List.ext_getElem? fun index => ?_
    rw [List.getElem?_map, List.getElem?_mapIdx, grammatical.1, List.getElem?_map]
    cases there : commands[index]? with
    | none => rw [getElem?_pipelineOf enough, there]; rfl
    | some command =>
      have found := (getElem?_pipelineOf enough ends index).trans (congrArg _ there)
      obtain ⟨input, output⟩ := leads index _ found
      rw [found]
      refine congrArg some (StageShape.ext ?_ ?_ ?_)
      · exact congrArg List.length (plainWords_command command).symm
      · exact input.isSome_owned.trans (isSome_inputOf grammatical _ index)
      · exact output.isSome_owned.trans (isSome_outputOf grammatical _ index)
  · rw [Bool.eq_iff_iff, decide_eq_true_eq]
    exact (background_mem_grammatical grammatical).symm

/-! ### Words with the same operators -/

theorem mapIdx_eq_of_forall₂ {α β γ : Type} {related : α → β → Prop} {first : Nat → α → γ}
    {second : Nat → β → γ} {items : List α} {others : List β}
    (same : ∀ index item other, related item other → first index item = second index other)
    (pairs : List.Forall₂ related items others) : items.mapIdx first = others.mapIdx second := by
  induction pairs generalizing first second with
  | nil => rfl
  | @cons item other items others here _ inductionHypothesis =>
    rw [List.mapIdx_cons, List.mapIdx_cons, same 0 item other here,
      inductionHypothesis fun index => same (index + 1)]

/-- Whether words have the same operators at the same places. -/
def SameOperators (words others : List String) : Prop :=
  List.Forall₂ (fun word other => Operator.ofWord? word = Operator.ofWord? other) words others

theorem sameOperators_iff {words others : List String} :
    SameOperators words others ↔
      words.map Operator.ofWord? = others.map Operator.ofWord? := by
  rw [SameOperators, ← List.forall₂_eq_eq_eq, List.forall₂_map_left_iff, List.forall₂_map_right_iff]

theorem redirects?_congr {word other : String}
    (same : Operator.ofWord? word = Operator.ofWord? other) :
    redirects? word = redirects? other := by
  rw [redirects?, redirects?, same]

namespace SameOperators

variable {words others : List String}

theorem text_mem_iff (same : SameOperators words others) (operator : Operator) :
    operator.text ∈ words ↔ operator.text ∈ others := by
  have inKinds (words : List String) :
      operator.text ∈ words ↔ some operator ∈ words.map Operator.ofWord? := by
    simp only [List.mem_map, Operator.ofWord?_eq_some_iff, exists_eq_right]
  rw [inKinds, inKinds, sameOperators_iff.mp same]

/-- They are cut into segments at the same places. -/
theorem segments (same : SameOperators words others) :
    List.Forall₂ SameOperators (segments words) (segments others) := by
  unfold Construction.segments
  induction same with
  | nil => exact .cons .nil .nil
  | @cons word other words others here _ inductionHypothesis =>
    rw [Text.pieces, Text.pieces, here]
    split
    · exact .cons .nil inductionHypothesis
    · generalize Text.pieces _ words = pieces at inductionHypothesis ⊢
      generalize Text.pieces _ others = piecesToo at inductionHypothesis ⊢
      cases inductionHypothesis with
      | nil => exact .cons (.cons here .nil) .nil
      | cons first rest => exact .cons (.cons here first) rest

theorem count_pipe (same : SameOperators words others) :
    words.count Operator.pipe.text = others.count Operator.pipe.text := by
  have lengths := same.segments.length_eq
  rw [length_segments, length_segments] at lengths
  exact Nat.succ.inj lengths

/-- They have the same number of plain words: whether a word is plain depends on which operators it
and the word before it are. -/
theorem length_plainWords (same : SameOperators words others) :
    (plainWords words).length = (plainWords others).length := by
  -- The words before the first ones matter only through what they redirect.
  suffices ∀ before beforeToo : Option String,
      before.bind redirects? = beforeToo.bind redirects? →
      ((successive before words).filterMap plain?).length =
        ((successive beforeToo others).filterMap plain?).length from this none none rfl
  induction same with
  | nil => exact fun _ _ _ => rfl
  | @cons word other words others here _ inductionHypothesis =>
    intro before beforeToo sameBefore
    have later := inductionHypothesis (some word) (some other) (redirects?_congr here)
    rw [successive, successive, List.filterMap_cons, List.filterMap_cons, plain?, plain?,
      isOperator, isOperator, here, sameBefore]
    by_cases hidden :
        ((Operator.ofWord? other).isSome || (beforeToo.bind redirects?).isSome) = true
    · rw [if_pos hidden, if_pos hidden]
      exact later
    · rw [if_neg hidden, if_neg hidden]
      exact congrArg (· + 1) later

theorem stageShapeOf_eq (same : SameOperators words others) (index : Nat)
    {segment segmentToo : List String} (here : SameOperators segment segmentToo) :
    stageShapeOf words index segment = stageShapeOf others index segmentToo := by
  simp only [stageShapeOf, here.length_plainWords, same.text_mem_iff, same.count_pipe]

theorem shapeOf_eq (same : SameOperators words others) : shapeOf words = shapeOf others := by
  have stages : (Construction.segments words).mapIdx (stageShapeOf words) =
      (Construction.segments others).mapIdx (stageShapeOf others) :=
    mapIdx_eq_of_forall₂ (fun index _ _ here => same.stageShapeOf_eq index here) same.segments
  simp only [shapeOf, stages, same.text_mem_iff]

end SameOperators

/-! ### The pipes of a line -/

theorem Words.count_flush {carried : List Char} (free : '|' ∉ carried) :
    (flush carried).count ['|'] = 0 := by
  refine List.count_eq_zero.mpr fun mem => ?_
  unfold flush at mem
  split at mem
  · cases mem
  · have whole := List.mem_singleton.mp mem
    exact free (List.mem_reverse.mp (whole ▸ List.mem_singleton_self '|'))

theorem Words.count_scan {carried : List Char} (free : '|' ∉ carried) (characters : List Char) :
    (scan carried characters).count ['|'] = characters.count '|' := by
  have fresh : '|' ∉ ([] : List Char) := List.not_mem_nil
  induction characters generalizing carried with
  | nil => exact count_flush free
  | cons character rest inductionHypothesis =>
    rw [scan, List.count_cons]
    split
    · rename_i blank
      have different : character ≠ '|' := by
        rintro rfl
        exact absurd blank (by decide)
      rw [List.count_append, count_flush free, inductionHypothesis fresh]
      simp [different]
    · split
      · rw [List.count_append, count_flush free, List.count_cons, inductionHypothesis fresh]
        simp
      · rename_i unsigned
        have different : character ≠ '|' := by
          rintro rfl
          exact absurd (by decide) unsigned
        rw [inductionHypothesis (List.not_mem_cons_of_ne_of_not_mem different.symm free)]
        simp [different]

/-- A line has as many pipes as it has vertical bars. -/
theorem Words.count_ofLine (line : String) :
    (ofLine line).count Operator.pipe.text = line.toList.count '|' := by
  have injective : Function.Injective String.ofList := fun _ _ => String.ofList_injective
  have pipe : Operator.pipe.text = String.ofList ['|'] := rfl
  rw [ofLine, pipe, List.count_map_of_injective _ _ injective, count_scan List.not_mem_nil]

/-! ### Handing over the same shape -/

/-- Whether no variable that a line refers to holds an operator. -/
def Variables.IsPlainFor (store : Variables) (line : String) : Prop :=
  ∀ name, name ≠ "" → "$" ++ name ∈ Words.ofLine line →
    ∀ operator : Operator, store.get? name ≠ some operator.text

theorem Variables.isPlainFor_of_entries {store : Variables} {line : String}
    (plain : ∀ pair ∈ store.entries, Operator.ofWord? pair.2.value = none) :
    store.IsPlainFor line := by
  intro name _ _ operator defined
  obtain ⟨entry, found, value⟩ := Option.map_eq_some_iff.mp defined
  have unread := plain (name, entry) (Association.mem_of_get? found)
  rw [value, Operator.ofWord?_text] at unread
  cases unread

namespace Session

/-- What is handed over for a line has the shape of the line itself, unless a variable that the line
refers to holds an operator. -/
theorem Hands.shape_eq {system : System σ} {mode : OutputMode} {line : String}
    {session : Session σ} {pipeline : Pipeline} {store : Variables} {shell : Interpreter σ}
    (hands : Hands system mode line session pipeline store shell)
    (plain : session.store.IsPlainFor line) :
    pipeline.shape = shapeOf (Words.ofLine line) := by
  obtain ⟨words, built, expands, asks, builds, _, _⟩ := hands_iff.mp hands
  have nonempty : words ≠ [] := by
    rintro rfl
    exact asks
  have kept : words.map Operator.ofWord? = (Words.ofLine line).map Operator.ofWord? := by
    refine Variables.map_ofWord?_of_expand expands fun word mem name refers value defined => ?_
    obtain ⟨rfl, named⟩ := reference?_eq_some_iff.mp refers
    by_contra isOperator
    obtain ⟨operator, found⟩ := Option.ne_none_iff_exists'.mp isOperator
    rw [Operator.ofWord?_eq_some_iff.mp found] at defined
    exact plain name named mem operator defined
  rw [build_shape nonempty builds, (sameOperators_iff.mpr kept).shapeOf_eq]

/-- Two sessions that hand a pipeline over for the same line hand over the same shape, with one
stage more than the line has vertical bars, unless a variable that the line refers to holds an
operator in one of them. -/
theorem hands_same_shape {system : System σ} {otherSystem : System τ} {mode otherMode : OutputMode}
    {line : String} {session : Session σ} {otherSession : Session τ}
    {pipeline otherPipeline : Pipeline} {store otherStore : Variables} {shell : Interpreter σ}
    {otherShell : Interpreter τ}
    (hands : Hands system mode line session pipeline store shell)
    (otherHands : Hands otherSystem otherMode line otherSession otherPipeline otherStore otherShell)
    (plain : session.store.IsPlainFor line) (otherPlain : otherSession.store.IsPlainFor line) :
    pipeline.shape = otherPipeline.shape ∧
      pipeline.stages.length = 1 + line.toList.count '|' := by
  refine ⟨(hands.shape_eq plain).trans (otherHands.shape_eq otherPlain).symm, ?_⟩
  have lengths := congrArg (fun shape : Shape => shape.stages.length) (hands.shape_eq plain)
  simp only [Pipeline.shape, shapeOf, List.length_map, List.length_mapIdx] at lengths
  rw [lengths, length_segments, Words.count_ofLine, Nat.add_comm]

/-- A session with one variable, which holds this value. -/
def holding (value : String) : Session ProcessId where
  store := Variables.empty.exportAll [("P", value)]
  shell := .start 100

/-- What `echo $P wc` hands over when the value is no operator. -/
def echoing (value : String) : Pipeline where
  stages := [⟨"echo", ["echo", value, "wc"], .inherit, .inherit⟩]
  background := false

theorem exists_hands_of_build {system : System σ} {mode : OutputMode} {line : String}
    {session : Session σ} (words : List String) {pipeline : Pipeline}
    (expanded : session.store.expand (Words.ofLine line) = .ok words)
    (asks : AsksForPrograms words)
    (builds : (build system mode words
      (session.shell.enter system .debug ("tokens: " ++ Text.quotedList words))).1 = .ok pipeline) :
    ∃ shell, Hands system mode line session pipeline session.store shell :=
  ⟨_, hands_of_build expanded asks (Prod.ext builds rfl)⟩

/-- A value that merely contains an operator is an argument like any other. -/
theorem same_shape_holding_sign :
    ∃ shell otherShell,
      Hands System.granting .truncate "echo $P wc" (holding "x") (echoing "x") (holding "x").store
        shell ∧
      Hands System.granting .truncate "echo $P wc" (holding "a | b") (echoing "a | b")
        (holding "a | b").store otherShell ∧
      (holding "x").store.IsPlainFor "echo $P wc" ∧
      (holding "a | b").store.IsPlainFor "echo $P wc" ∧
      (echoing "x").shape = (echoing "a | b").shape ∧
      (echoing "x").stages.length = 1 + "echo $P wc".toList.count '|' := by
  obtain ⟨shell, hands⟩ : ∃ shell, Hands System.granting .truncate "echo $P wc" (holding "x")
      (echoing "x") (holding "x").store shell :=
    exists_hands_of_build ["echo", "x", "wc"] (by decide +kernel) (by decide +kernel)
      (by decide +kernel)
  obtain ⟨otherShell, otherHands⟩ : ∃ shell, Hands System.granting .truncate "echo $P wc"
      (holding "a | b") (echoing "a | b") (holding "a | b").store shell :=
    exists_hands_of_build ["echo", "a | b", "wc"] (by decide +kernel) (by decide +kernel)
      (by decide +kernel)
  have plain : (holding "x").store.IsPlainFor "echo $P wc" :=
    Variables.isPlainFor_of_entries (by decide +kernel)
  have otherPlain : (holding "a | b").store.IsPlainFor "echo $P wc" :=
    Variables.isPlainFor_of_entries (by decide +kernel)
  exact ⟨shell, otherShell, hands, otherHands, plain, otherPlain,
    hands_same_shape hands otherHands plain otherPlain⟩

/-- A value that is an operator is taken for it: the line has no vertical bar, but its pipeline has
two stages. -/
theorem shape_holding_pipe :
    ∃ pipeline shell otherShell,
      Hands System.granting .truncate "echo $P wc" (holding "|") pipeline (holding "|").store
        shell ∧
      Hands System.granting .truncate "echo $P wc" (holding "x") (echoing "x") (holding "x").store
        otherShell ∧
      pipeline.shape ≠ (echoing "x").shape ∧
      pipeline.stages.length ≠ 1 + "echo $P wc".toList.count '|' := by
  obtain ⟨shell, hands⟩ : ∃ shell, Hands System.granting .truncate "echo $P wc" (holding "|")
      ⟨[⟨"echo", ["echo"], .inherit, .owned 4⟩, ⟨"wc", ["wc"], .owned 3, .inherit⟩], false⟩
      (holding "|").store shell :=
    exists_hands_of_build ["echo", "|", "wc"] (by decide +kernel) (by decide +kernel)
      (by decide +kernel)
  obtain ⟨otherShell, otherHands⟩ : ∃ shell, Hands System.granting .truncate "echo $P wc"
      (holding "x") (echoing "x") (holding "x").store shell :=
    exists_hands_of_build ["echo", "x", "wc"] (by decide +kernel) (by decide +kernel)
      (by decide +kernel)
  exact ⟨_, shell, otherShell, hands, otherHands, by decide +kernel, by decide +kernel⟩

end Session

end PipelineShell
