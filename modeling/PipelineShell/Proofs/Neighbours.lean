/-
What a build takes for granted.

A build relies on three things without looking. It takes one from the number of segments, so there
has to be a segment. It has a report for a pipe inside a segment, which no line may get. And when it
joins two stages by a pipe, it puts the ends of the pipe where the stages meet, so nothing may be
redirected there, or the redirection would be lost.

The last one holds because a stage is redirected only in the directions that its place allows, and
only the two ends of a line are allowed any. Reading keeps this word by word. Joining goes from left
to right, and when it comes to a pair of stages, it has changed the left one already, but only in
its input. The history shows each pair as it was just before it was joined, so all of this can be
said about the history of any build, also of one that runs out of pipes on the way.
-/

import PipelineShell.Proofs.Joining
import PipelineShell.Proofs.Spelling

namespace PipelineShell

open Construction Grammar

variable {σ : Type}

/-! ### The stages that were joined -/

/-- The stages that an event joins. -/
def Event.joint? : Event → Option (Stage × Stage)
  | .joined left right => some (left, right)
  | _ => none

/-- The stages that were joined, pair by pair, as they were just before. -/
def Interpreter.joints (shell : Interpreter σ) : List (Stage × Stage) :=
  shell.recorded Event.joint?

theorem Does.joints_eq {system : System σ} {deeds : List Deed} {before after : Interpreter σ}
    (does : Does system deeds before after) (absent : .join ∉ deeds) :
    after.joints = before.joints := by
  refine does.recorded_eq fun deed mem event shows => ?_
  cases shows with
  | enter | write | close | request | openFile | makePipe => rfl
  | join => exact absurd mem absent

/-- Pairs of stages that were joined from left to right. The left stage of a pair has its input from
the pair before. -/
inductive Joints : List Stage → List (Stage × Stage) → Prop where
  | none (stages : List Stage) : Joints stages []
  | join {left right : Stage} {rest : List Stage} {joints : List (Stage × Stage)}
      (readEnd : Endpoint) (later : Joints (right.connect .input readEnd :: rest) joints) :
      Joints (left :: right :: rest) ((left, right) :: joints)

namespace Joints

variable {stages : List Stage} {joints : List (Stage × Stage)}

/-- Where nothing is redirected between neighbours, nothing is when they are joined. -/
theorem meet (joined : Joints stages joints) (chain : stages.IsChain Meet) :
    ∀ joint ∈ joints, Meet joint.1 joint.2 := by
  induction joined with
  | none stages => exact fun joint mem => absurd mem List.not_mem_nil
  | join readEnd later inductionHypothesis =>
    obtain ⟨here, chainLater⟩ := List.isChain_cons_cons.mp chain
    exact List.forall_mem_cons.mpr
      ⟨here, inductionHypothesis (isChain_connect_input chainLater readEnd)⟩

/-- The pair at an index is the stage at that index and the one after it. -/
theorem programs (joined : Joints stages joints) {index : Nat} {joint : Stage × Stage}
    (found : joints[index]? = some joint) :
    (stages.map Stage.program)[index]? = some joint.1.program ∧
      (stages.map Stage.program)[index + 1]? = some joint.2.program := by
  induction joined generalizing index with
  | none stages => cases found
  | join readEnd later inductionHypothesis =>
    cases index with
    | zero =>
      obtain rfl := Option.some.inj found
      exact ⟨rfl, rfl⟩
    | succ index => exact inductionHypothesis found

end Joints

/-- Joining stages joins neighbours from left to right, all of them unless a pipe cannot be made. -/
theorem join_joints (system : System σ) (left : Stage) (rest : List Stage)
    (shell : Interpreter σ) :
    ∃ joints, Joints (left :: rest) joints ∧
      (join system left rest shell).2.joints = shell.joints ++ joints ∧
      ∀ stages, (join system left rest shell).1 = .ok stages → joints.length = rest.length := by
  induction rest generalizing left shell with
  | nil => exact ⟨[], .none _, (List.append_nil _).symm, fun _ _ => rfl⟩
  | cons right rest inductionHypothesis =>
    have made : (shell.makePipe system).2.joints = shell.joints :=
      Interpreter.recorded_makePipe (fun _ _ => rfl) system shell
    have closes (after : Interpreter σ) (descriptors : List Descriptor) :
        (after.closeAll descriptors).joints = after.joints :=
      Interpreter.recorded_closeAll (fun _ => rfl) after descriptors
    unfold join
    split
    · rename_i errno after failed
      rw [failed] at made
      exact ⟨[], .none _, by rw [List.append_nil, ← made]; exact closes after _,
        fun _ ending => by cases ending⟩
    · rename_i ends after found
      rw [found] at made
      dsimp only [Interpreter.attach]
      have recorded : (after.record (.joined left right)).joints =
          shell.joints ++ [(left, right)] := by
        rw [← made]
        exact Interpreter.recorded_record Event.joint? after _
      obtain ⟨joints, joined, shown, complete⟩ := inductionHypothesis
        (right.connect .input (.owned ends.readEnd))
        (((after.record (.joined left right)).closeAll
          (left.endpoint .output).owned?.toList).closeAll (right.endpoint .input).owned?.toList)
      rw [closes, closes, recorded, List.append_assoc] at shown
      refine ⟨(left, right) :: joints, .join _ joined, ?_⟩
      split
      · rename_i errno last failed
        rw [failed] at shown
        exact ⟨(closes last _).trans shown, fun _ ending => by cases ending⟩
      · rename_i stages last finished
        rw [finished] at shown complete
        exact ⟨shown, fun _ _ => congrArg (· + 1) (complete stages rfl)⟩

theorem joinAll_joints (system : System σ) (stages : List Stage) (shell : Interpreter σ) :
    ∃ joints, Joints stages joints ∧
      (joinAll system stages shell).2.joints = shell.joints ++ joints ∧
      ∀ joined, (joinAll system stages shell).1 = .ok joined →
        joints.length = stages.length - 1 := by
  cases stages with
  | nil => exact ⟨[], .none [], (List.append_nil _).symm, fun _ _ => rfl⟩
  | cons left rest => exact join_joints system left rest shell

/-! ### Reading keeps to the places -/

/-- Whether a stage is redirected only where its place allows it. -/
def Stage.Respects (place : Place) (stage : Stage) : Prop :=
  ∀ direction, place.allows direction = false → stage.endpoint direction = .inherit

theorem Stage.respects_named (place : Place) (program : String) :
    (Stage.named program).Respects place :=
  fun direction _ => congrFun (endpoint_named program) direction

theorem Stage.Respects.connect {place : Place} {stage : Stage} (respects : stage.Respects place)
    {direction : Direction} (allowed : place.allows direction = true) (endpoint : Endpoint) :
    (stage.connect direction endpoint).Respects place := by
  intro other barred
  have different : other ≠ direction := by
    rintro rfl
    rw [allowed] at barred
    cases barred
  rw [endpoint_connect, Function.update_of_ne different]
  exact respects other barred

section

variable {system : System σ} {mode : OutputMode} {background isBackground : Bool}
  {shell : Interpreter σ}

theorem scan_respects {place : Place} {words : List String} {stage read : Stage}
    (respects : stage.Respects place)
    (finished : (scan system mode place words stage background shell).1 =
      .ok (read, isBackground)) : read.Respects place ∧ read.program = stage.program := by
  fun_induction scan system mode place words stage background shell with
  | case1 stage background shell =>
    cases finished
    exact ⟨respects, rfl⟩
  | case2 word rest stage background shell _ inductionHypothesis =>
    exact inductionHypothesis respects finished
  | case3 word rest stage background shell _ inductionHypothesis =>
    exact inductionHypothesis respects finished
  | case8 word stage background shell direction _ allowed target rest _ descriptor after _
      attached replaced taken inductionHypothesis =>
    obtain ⟨rfl, rfl⟩ : _ = attached ∧ _ = replaced := Prod.mk.inj taken
    obtain ⟨kept, program⟩ := inductionHypothesis (respects.connect allowed _) finished
    refine ⟨kept, program.trans ?_⟩
    cases direction <;> rfl
  | case4 | case5 | case6 | case7 | case9 => cases finished

theorem scan_ne_strayPipe {place : Place} {words : List String} {stage : Stage}
    (noPipe : ∀ word ∈ words, Operator.ofWord? word ≠ some .pipe) (index : Nat) :
    (scan system mode place words stage background shell).1 ≠ .error (.strayPipe index) := by
  intro stray
  fun_induction scan system mode place words stage background shell with
  | case1 stage background shell => cases stray
  | case2 word rest stage background shell _ inductionHypothesis =>
    exact inductionHypothesis (List.forall_mem_cons.mp noPipe).2 stray
  | case3 word rest stage background shell _ inductionHypothesis =>
    exact inductionHypothesis (List.forall_mem_cons.mp noPipe).2 stray
  | case4 word rest stage background shell isPipe => exact noPipe word List.mem_cons_self isPipe
  | case8 word stage background shell direction _ _ target rest _ descriptor after _
      attached replaced _ inductionHypothesis =>
    exact inductionHypothesis (List.forall_mem_cons.mp (List.forall_mem_cons.mp noPipe).2).2 stray
  | case5 | case6 | case7 | case9 => cases stray

theorem buildStage_respects {place : Place} {segment : List String} {stage : Stage}
    (finished : (buildStage system mode place segment background shell).1 =
      .ok (stage, isBackground)) :
    stage.Respects place ∧ segment.head? = some stage.program := by
  unfold buildStage at finished
  split at finished
  · cases finished
  · rename_i program rest
    split at finished
    · cases finished
    · obtain ⟨respects, named⟩ := scan_respects (Stage.respects_named place program) finished
      exact ⟨respects, congrArg some named.symm⟩

theorem buildStage_ne_strayPipe {place : Place} {segment : List String}
    (noPipe : ∀ word ∈ segment, Operator.ofWord? word ≠ some .pipe) (index : Nat) :
    (buildStage system mode place segment background shell).1 ≠ .error (.strayPipe index) := by
  intro stray
  unfold buildStage at stray
  split at stray
  · cases stray
  · split at stray
    · cases stray
    · exact scan_ne_strayPipe (List.forall_mem_cons.mp noPipe).2 index stray

/-- Stages that segments were read into, the first of them at this index. -/
inductive ReadFrom (last : Nat) : Nat → List (List String) → List Stage → Prop where
  | nil (first : Nat) : ReadFrom last first [] []
  | cons {first : Nat} {segment : List String} {stage : Stage} {segments : List (List String)}
      {stages : List Stage} (respects : stage.Respects ⟨first, last⟩)
      (program : segment.head? = some stage.program)
      (later : ReadFrom last (first + 1) segments stages) :
      ReadFrom last first (segment :: segments) (stage :: stages)

/-- What the stages read so far are does not matter: each new one keeps to its own place. -/
theorem buildStages_readFrom {last : Nat} {segments : List (List String)}
    {built stages : List Stage}
    (finished : (buildStages system mode last segments built background shell).1 =
      .ok (stages, isBackground)) :
    ∃ read, stages = built ++ read ∧ ReadFrom last built.length segments read := by
  induction segments generalizing built background shell with
  | nil =>
    cases finished
    exact ⟨[], (List.append_nil _).symm, .nil _⟩
  | cons segment rest inductionHypothesis =>
    unfold buildStages at finished
    split at finished
    · cases finished
    · rename_i stage isBackground after found
      obtain ⟨respects, program⟩ := buildStage_respects (congrArg Prod.fst found)
      obtain ⟨read, whole, later⟩ := inductionHypothesis finished
      rw [List.length_append, List.length_singleton] at later
      exact ⟨stage :: read, by rw [whole, List.append_assoc]; rfl, .cons respects program later⟩

theorem buildStages_ne_strayPipe {last : Nat} {segments : List (List String)}
    {built : List Stage}
    (noPipe : ∀ segment ∈ segments, ∀ word ∈ segment, Operator.ofWord? word ≠ some .pipe)
    (index : Nat) :
    (buildStages system mode last segments built background shell).1 ≠
      .error (.strayPipe index) := by
  intro stray
  induction segments generalizing built background shell with
  | nil => cases stray
  | cons segment rest inductionHypothesis =>
    obtain ⟨noPipeHere, noPipeLater⟩ := List.forall_mem_cons.mp noPipe
    unfold buildStages at stray
    split at stray
    · rename_i error after found
      refine buildStage_ne_strayPipe noPipeHere index (Eq.trans (congrArg Prod.fst found) ?_)
      exact congrArg Except.error (Except.error.inj stray)
    · exact inductionHypothesis noPipeLater stray

end

namespace ReadFrom

variable {last first : Nat} {segments : List (List String)} {stages : List Stage}

theorem programs (read : ReadFrom last first segments stages) :
    segments.map List.head? = (stages.map Stage.program).map some := by
  induction read with
  | nil first => rfl
  | cons respects program later inductionHypothesis =>
    rw [List.map_cons, List.map_cons, List.map_cons, program, inductionHypothesis]

/-- An output is redirected in the last segment only and an input in the first only, so nothing is
redirected between neighbours. -/
theorem isChain_meet (read : ReadFrom last first segments stages)
    (bound : first + segments.length ≤ last + 1) : stages.IsChain Meet := by
  induction read with
  | nil first => exact .nil
  | @cons first segment left segments stages respects program later inductionHypothesis =>
    cases later with
    | nil => exact .singleton _
    | cons respectsNext programNext laterStill =>
      rw [List.length_cons, List.length_cons] at bound
      have notLast : Place.allows ⟨first, last⟩ .output = false := by
        simp only [Place.allows, decide_eq_false_iff_not]
        omega
      have notFirst : Place.allows ⟨first + 1, last⟩ .input = false := rfl
      refine List.isChain_cons_cons.mpr
        ⟨⟨respects .output notLast, respectsNext .input notFirst⟩, inductionHypothesis ?_⟩
      rw [List.length_cons]
      omega

end ReadFrom

/-! ### Whole builds -/

theorem build_ne_strayPipe (system : System σ) (mode : OutputMode) (words : List String)
    (shell : Interpreter σ) (stage : Nat) :
    (build system mode words shell).1 ≠ .error (.strayPipe stage) := by
  intro stray
  unfold build at stray
  split at stray
  · cases stray
  · dsimp only at stray
    split at stray
    · rename_i error after failed
      have noPipe : ∀ segment ∈ segments words, ∀ word ∈ segment,
          Operator.ofWord? word ≠ some .pipe := fun segment mem => ne_pipe_of_mem_segments mem
      refine buildStages_ne_strayPipe noPipe stage (Eq.trans (congrArg Prod.fst failed) ?_)
      exact congrArg Except.error (Except.error.inj stray)
    · split at stray <;> cases stray

/-- The first words of the segments of a line, which its stages have as their programs. -/
def commandWords (words : List String) : List (Option String) :=
  (segments words).map List.head?

/-- Whether these pairs of stages are neighbours in a line, from the first two on, with nothing
redirected between them. -/
def Neighbours (words : List String) (joints : List (Stage × Stage)) : Prop :=
  ∀ (index : Nat) (left right : Stage), joints[index]? = some (left, right) →
    (commandWords words)[index]? = some (some left.program) ∧
    (commandWords words)[index + 1]? = some (some right.program) ∧
    left.output = .inherit ∧ right.input = .inherit

theorem neighbours_nil (words : List String) : Neighbours words [] :=
  fun _ _ _ found => nomatch found

theorem ReadFrom.neighbours {words : List String} {stages : List Stage}
    {joints : List (Stage × Stage)}
    (read : ReadFrom ((segments words).length - 1) 0 (segments words) stages)
    (joined : Joints stages joints) : Neighbours words joints := by
  intro index left right found
  obtain ⟨leftProgram, rightProgram⟩ := joined.programs found
  have meet := joined.meet (read.isChain_meet (by omega)) (left, right) (List.mem_of_getElem? found)
  refine ⟨?_, ?_, meet⟩
  · rw [commandWords, read.programs, List.getElem?_map, leftProgram]
    rfl
  · rw [commandWords, read.programs, List.getElem?_map, rightProgram]
    rfl

/-- A build joins stages in order, at every pipe unless it fails. -/
theorem build_joints (system : System σ) (mode : OutputMode) (words : List String)
    (shell : Interpreter σ) :
    ∃ joints, Neighbours words joints ∧
      (build system mode words shell).2.joints = shell.joints ++ joints ∧
      ∀ pipeline, (build system mode words shell).1 = .ok pipeline →
        joints.length = words.count Operator.pipe.text := by
  have keeps : (buildStages system mode ((segments words).length - 1) (segments words) [] false
      shell).2.joints = shell.joints :=
    (buildStages_does mode _ _ [] false (.refl shell)).joints_eq (by decide)
  unfold build
  split
  · rename_i empty
    exact ⟨[], neighbours_nil words, (List.append_nil _).symm, fun _ _ => by rw [empty]; rfl⟩
  · dsimp only
    split
    · rename_i error after failed
      rw [failed] at keeps
      exact ⟨[], neighbours_nil words, by rw [List.append_nil]; exact keeps,
        fun _ ending => by cases ending⟩
    · rename_i stages background after finished
      rw [finished] at keeps
      obtain ⟨_, rfl, read⟩ := buildStages_readFrom (congrArg Prod.fst finished)
      obtain ⟨joints, joined, shown, complete⟩ := joinAll_joints system stages after
      have count : stages.length = words.count Operator.pipe.text + 1 := by
        rw [← length_segments]
        simpa using (congrArg List.length read.programs).symm
      rw [keeps] at shown
      refine ⟨joints, read.neighbours joined, ?_⟩
      split
      · rename_i errno last failed
        rw [failed] at shown
        exact ⟨shown, fun _ ending => by cases ending⟩
      · rename_i joinedStages last succeeded
        rw [succeeded] at shown complete
        refine ⟨(Interpreter.recorded_record_of_none rfl last).trans shown, fun _ _ => ?_⟩
        rw [complete joinedStages rfl, count, Nat.add_sub_cancel]

/-- Whether what a build takes for granted holds. -/
structure Assured (words : List String) (shell : Interpreter σ)
    (result : Except BuildError Pipeline × Interpreter σ) : Prop where
  /-- There is a segment, so one can be taken from the number of segments. -/
  segment : 0 < (segments words).length
  /-- No pipe is found inside a segment. -/
  strayPipe : ∀ stage, result.1 ≠ .error (.strayPipe stage)
  /-- The stages that are joined are neighbours, and nothing is redirected between them. In a build
  that succeeds, they are joined at every pipe. -/
  joints : ∃ joints, Neighbours words joints ∧ result.2.joints = shell.joints ++ joints ∧
    ∀ pipeline, result.1 = .ok pipeline → joints.length = words.count Operator.pipe.text

/-- A build never gets into a state that it takes for impossible, whatever the words are and
whatever the system grants. -/
theorem build_assured (system : System σ) (mode : OutputMode) (words : List String)
    (shell : Interpreter σ) : Assured words shell (build system mode words shell) := by
  constructor
  case segment =>
    rw [length_segments]
    exact Nat.succ_pos _
  case strayPipe => exact build_ne_strayPipe system mode words shell
  case joints => exact build_joints system mode words shell

end PipelineShell
