/-
No descriptor outlives its line.

Whatever is opened while a line is carried out is in somebody's custody: a stage that is being read,
the stages before it, or the pipeline that they become. This file follows that custody through
reading, joining, starting and waiting, with one lemma for each function. All of them have the same
form: what was held before, together with what the function was given, is afterwards what was held
before, together with what its result owns. A failure owns nothing, so each early return closes
exactly what was built so far. For a whole line nothing is given and nothing is owned.
-/

import PipelineShell.Proofs.Custody
import PipelineShell.Session

namespace PipelineShell

variable {σ : Type} {held : List Descriptor} {before shell : Interpreter σ}

/-! ### Building a pipeline -/

namespace Construction

/-- Reading the words of a segment. The stage that is being read owns what was opened for it. -/
theorem scan_custody (system : System σ) (mode : OutputMode) (place : Place)
    (words : List String) (stage : Stage) (background : Bool)
    (custody : Custody (held ++ stage.owned) before shell) :
    Custody (held ++ ownedBy (fun read => read.1.owned)
      (scan system mode place words stage background shell).1) before
      (scan system mode place words stage background shell).2 := by
  -- The induction is on the recursion of `scan`, which takes two words at a redirection.
  fun_induction scan system mode place words stage background shell with
  | case1 stage background shell => exact custody
  | case2 word rest stage background shell _ inductionHypothesis => exact inductionHypothesis custody
  | case3 word rest stage background shell _ inductionHypothesis => exact inductionHypothesis custody
  | case4 word rest stage background shell _ => exact custody.release.refused
  | case5 word stage background shell direction _ _ => exact custody.release.refused
  | case6 word stage background shell direction _ _ target rest _ => exact custody.release.refused
  | case7 word stage background shell direction _ _ target rest _ fault after opened =>
    have kept := custody.openFile system target (truncates mode direction)
    rw [opened] at kept
    rw [ownedBy, List.append_nil] at kept
    exact kept.release.refused
  | case8 word stage background shell direction _ _ target rest _ descriptor after opened
      attached replaced taken inductionHypothesis =>
    have kept := custody.openFile system target (truncates mode direction)
    rw [opened] at kept
    have moved := Custody.attach kept direction
    rw [taken] at moved
    exact inductionHypothesis moved
  | case9 word rest stage background shell direction _ _ => exact custody.release.refused

theorem buildStage_custody (system : System σ) (mode : OutputMode) (place : Place)
    (segment : List String) (background : Bool) (custody : Custody held before shell) :
    Custody (held ++ ownedBy (fun built => built.1.owned)
      (buildStage system mode place segment background shell).1) before
      (buildStage system mode place segment background shell).2 := by
  unfold buildStage
  split
  · exact custody.refused
  · split
    · exact custody.refused
    · refine scan_custody system mode place _ _ background ?_
      show Custody (held ++ []) before shell
      rw [List.append_nil]
      exact custody

/-- Reading the segments of a line. The stages that are finished own what was opened for them. -/
theorem buildStages_custody (system : System σ) (mode : OutputMode) (last : Nat)
    (segments : List (List String)) (built : List Stage) (background : Bool)
    (custody : Custody (held ++ built.flatMap Stage.owned) before shell) :
    Custody (held ++ ownedBy (fun read => read.1.flatMap Stage.owned)
      (buildStages system mode last segments built background shell).1) before
      (buildStages system mode last segments built background shell).2 := by
  induction segments generalizing built background shell with
  | nil => exact custody
  | cons segment rest inductionHypothesis =>
    have next := buildStage_custody system mode ⟨built.length, last⟩ segment background custody
    unfold buildStages
    split
    · rename_i error after failed
      rw [failed, ownedBy, List.append_nil] at next
      exact (next.enter system .debug _).releaseAll.refused
    · rename_i stage isBackground after finished
      rw [finished, ownedBy, List.append_assoc] at next
      refine inductionHypothesis (built ++ [stage]) isBackground ?_
      rw [List.flatMap_append, List.flatMap_singleton]
      exact next

/-- Joining a stage and those after it. Both ends of each pipe go to a stage at once. -/
theorem join_custody (system : System σ) (left : Stage) (rest : List Stage)
    (custody : Custody (held ++ (left :: rest).flatMap Stage.owned) before shell) :
    Custody (held ++ ownedBy (fun stages => stages.flatMap Stage.owned)
      (join system left rest shell).1) before (join system left rest shell).2 := by
  induction rest generalizing held left shell with
  | nil => exact custody
  | cons right rest inductionHypothesis =>
    have made := custody.makePipe system
    unfold join
    split
    · rename_i errno after failed
      rw [failed, ownedBy, List.append_nil] at made
      exact made.releaseAll.refused
    · rename_i ends after joined
      rw [joined, ownedBy] at made
      have recorded := made.record (.joined left right) fun _ => rfl
      have arranged : Custody (held ++ rest.flatMap Stage.owned ++ left.owned ++ right.owned ++
          [ends.readEnd, ends.writeEnd]) before (after.record (.joined left right)) :=
        recorded.perm (List.perm_iff_count.mpr fun descriptor => by
          simp only [List.flatMap_cons, List.count_append, List.count_cons, List.count_nil]
          omega)
      have attached := arranged.attach_both
      dsimp only
      generalize (after.record (.joined left right)).attach left .output ends.writeEnd = written
        at attached ⊢
      generalize written.2.attach right .input ends.readEnd = read at attached ⊢
      have moved : Custody (held ++ written.1.owned ++ (read.1 :: rest).flatMap Stage.owned) before
          read.2 :=
        attached.perm (List.perm_iff_count.mpr fun descriptor => by
          simp only [List.flatMap_cons, List.count_append]
          omega)
      have joinedRest := inductionHypothesis read.1 moved
      split
      · rename_i errno last failed
        rw [failed, ownedBy, List.append_nil] at joinedRest
        exact joinedRest.release.refused
      · rename_i stages last finished
        rw [finished, ownedBy, List.append_assoc] at joinedRest
        exact joinedRest

theorem joinAll_custody (system : System σ) (stages : List Stage)
    (custody : Custody (held ++ stages.flatMap Stage.owned) before shell) :
    Custody (held ++ ownedBy (fun joined => joined.flatMap Stage.owned)
      (joinAll system stages shell).1) before (joinAll system stages shell).2 := by
  cases stages with
  | nil => exact custody
  | cons first rest => exact join_custody system first rest custody

/-- A pipeline that is built owns all that is still open of what the build opened, and a build that
fails has closed all of it. -/
theorem build_custody (system : System σ) (mode : OutputMode) (words : List String)
    (custody : Custody held before shell) :
    Custody (held ++ ownedBy Pipeline.owned (build system mode words shell).1) before
      (build system mode words shell).2 := by
  have none : Custody (held ++ ([] : List Stage).flatMap Stage.owned) before shell := by
    rw [List.flatMap_nil, List.append_nil]
    exact custody
  unfold build
  split
  · exact none
  · have read := buildStages_custody system mode ((segments words).length - 1) (segments words) []
      false none
    dsimp only
    split
    · rename_i error after failed
      rw [failed] at read
      exact read
    · rename_i stages background after finished
      rw [finished, ownedBy] at read
      have joined := joinAll_custody system stages read
      split
      · rename_i errno last failed
        rw [failed] at joined
        exact joined
      · rename_i joinedStages last succeeded
        rw [succeeded] at joined
        exact joined.enter system .debug _

end Construction

/-! ### Running a pipeline -/

namespace Supervision

/-- Starting a child opens and closes nothing in the shell. -/
theorem spawn_custody (system : System σ) (stage : Stage) (pending : List Stage)
    (environment : List Bytes) (custody : Custody held before shell) :
    Custody held before (spawn system stage pending environment shell).2 := by
  unfold spawn
  split
  · exact custody
  · split
    · exact custody.world _
    · exact ((custody.world _).record _ fun _ => rfl).enter system .info _

/-- Starting the children of stages closes what the stages own, whether all of them start or not. -/
theorem spawnAll_custody (system : System σ) (environment : List Bytes) (stages : List Stage)
    (children : List Child) (custody : Custody (held ++ stages.flatMap Stage.owned) before shell) :
    Custody held before (spawnAll system environment stages children shell).2.2 := by
  induction stages generalizing children shell with
  | nil =>
    rw [List.flatMap_nil, List.append_nil] at custody
    exact custody
  | cons stage pending inductionHypothesis =>
    have tried := spawn_custody system stage pending environment custody
    unfold spawnAll
    split
    · rename_i error after failed
      rw [failed] at tried
      exact tried.releaseAll
    · rename_i child after started
      rw [started] at tried
      refine inductionHypothesis (children ++ [child]) (Custody.release (tried.perm ?_))
      rw [List.flatMap_cons, ← List.append_assoc, List.append_assoc held, List.append_assoc held]
      exact List.Perm.append_left held List.perm_append_comm

theorem conclude_custody (system : System σ) (child : Child) (ending : Ending)
    (custody : Custody held before shell) :
    Custody held before (conclude system child ending shell).2 := by
  cases ending with
  | exited code => exact custody.enter system .debug _
  | killed signal => exact custody.enter system .debug _
  | failed errno => exact custody

theorem settle_custody (system : System σ) (child : Child) (last : Ending)
    (reports : List WaitReport) (custody : Custody held before shell) :
    Custody held before (settle system child last reports shell).2 := by
  fun_induction settle system child last reports shell with
  | case1 shell => exact conclude_custody system child last custody
  | case2 description rest shell inductionHypothesis =>
    exact inductionHypothesis (custody.enter system .debug _)
  | case3 rest shell inductionHypothesis => exact inductionHypothesis custody
  | case4 ending rest shell _ => exact conclude_custody system child ending custody

/-- Waiting for children opens and closes nothing in the shell. -/
theorem awaitAll_custody (system : System σ) (children : List Child) (status : Int)
    (failure : Option ExecError) (custody : Custody held before shell) :
    Custody held before (awaitAll system children status failure shell).2 := by
  induction children generalizing status failure shell with
  | nil =>
    unfold awaitAll
    split <;> exact custody
  | cons child rest inductionHypothesis =>
    have waited : Custody held before (await system child shell).2 :=
      settle_custody system child _ _ ((custody.world _).record _ fun _ => rfl)
    unfold awaitAll
    split
    · rename_i code after ended
      rw [ended] at waited
      exact inductionHypothesis code failure waited
    · rename_i error after failed
      rw [failed] at waited
      exact inductionHypothesis status _ (waited.enter system .error _)

/-- A run closes what its pipeline owns, however it ends. -/
theorem run_custody (system : System σ) (pipeline : Pipeline) (store : Variables)
    (custody : Custody (held ++ pipeline.owned) before shell) :
    Custody held before (run system pipeline store shell).2 := by
  unfold run
  split
  · exact custody.releaseAll
  · have noticed : Custody (held ++ pipeline.owned) before
        (if pipeline.background then shell.enter system .warn foregroundNotice else shell) := by
      split
      · exact custody.enter system .warn foregroundNotice
      · exact custody
    generalize (if pipeline.background then _ else _ : Interpreter σ) = ready at noticed ⊢
    dsimp only
    split
    · exact noticed.releaseAll
    · rename_i environment _
      have started := spawnAll_custody system environment pipeline.stages [] noticed
      have waited := awaitAll_custody system
        (spawnAll system environment pipeline.stages [] ready).2.1 0 none started
      split
      · exact waited
      · exact waited

end Supervision

/-! ### Carrying out a line -/

theorem Builtin.moveTo_custody (system : System σ) (target : String)
    (custody : Custody held before shell) :
    Custody held before (Builtin.moveTo system target shell).2 := by
  unfold Builtin.moveTo
  split
  · exact custody
  · split
    · exact custody.world _
    · exact custody.world _

theorem Builtin.run_custody (system : System σ) (builtin : Builtin) (arguments : List String)
    (store : Variables) (custody : Custody held before shell) :
    Custody held before (builtin.run system arguments store shell).2 := by
  have entered := custody.enter system .debug
    ("builtin " ++ builtin.name ++ " " ++ Text.quotedList arguments)
  unfold Builtin.run
  generalize shell.enter system .debug _ = ready at entered ⊢
  cases builtin with
  | help => exact entered.write system .output helpText
  | changeDirectory =>
    have moved := moveTo_custody system (destination arguments store) entered
    dsimp only [carryOut]
    split
    · rename_i after succeeded
      rw [succeeded] at moved
      exact moved
    · rename_i fault after failed
      rw [failed] at moved
      exact moved.write system .errors _
  | exit =>
    dsimp only [carryOut]
    split
    · exact entered
    · split
      · exact entered
      · exact entered.write system .errors _

namespace Session

variable {session : Session σ}

theorem runBuiltin_custody (system : System σ) (builtin : Builtin) (rest : List String)
    (custody : Custody held before session.shell) :
    Custody held before (runBuiltin system builtin rest session).2.shell := by
  have ran := builtin.run_custody system (rest.takeWhile fun word => !isOperator word)
    session.store custody
  have warned : Custody held before
      (if (rest.takeWhile fun word => !isOperator word).length < rest.length then
        Session.enter { session with shell := (builtin.run system
          (rest.takeWhile fun word => !isOperator word) session.store session.shell).2 } system .warn
          ("pipes and redirections are ignored for builtin '" ++ builtin.name ++ "'")
      else { session with shell := (builtin.run system
        (rest.takeWhile fun word => !isOperator word) session.store session.shell).2 }).shell := by
    split
    · exact ran.enter system .warn _
    · exact ran
  unfold runBuiltin
  dsimp only
  split <;> exact warned

/-- Building a pipeline and running it. What the build leaves open is closed by the run. -/
theorem runPipeline_custody (system : System σ) (mode : OutputMode) (words : List String)
    (custody : Custody held before session.shell) :
    Custody held before
      (runPipeline system (Supervision.run system) mode words session).2.shell := by
  have built := Construction.build_custody system mode words custody
  unfold runPipeline
  split
  · rename_i error after failed
    rw [failed, ownedBy, List.append_nil] at built
    exact built
  · rename_i pipeline after succeeded
    rw [succeeded, ownedBy] at built
    have handed := built.record (.handed pipeline) fun _ => rfl
    have ran := Supervision.run_custody system pipeline session.store handed
    split
    · rename_i error last failed
      rw [failed] at ran
      exact ran
    · rename_i code last finished
      rw [finished] at ran
      exact ran

theorem runWords_custody (system : System σ) (mode : OutputMode) (words : List String)
    (custody : Custody held before session.shell) :
    Custody held before (runWords system (Supervision.run system) mode words session).2.shell := by
  unfold runWords
  split
  · exact custody
  · split
    · unfold assign
      dsimp only
      split
      · exact custody
      · exact custody.enter system .warn _
    · split
      · exact runBuiltin_custody system _ _ custody
      · exact runPipeline_custody system mode _ custody

theorem runLine_custody (system : System σ) (mode : OutputMode) (line : String)
    (custody : Custody held before session.shell) :
    Custody held before (runLine system (Supervision.run system) mode line session).2.shell := by
  unfold runLine
  split
  · exact custody
  · exact runWords_custody system mode _ (custody.enter system .debug _)

/-- Carrying out a line leaves the table of open descriptors as it was, whatever becomes of the line
and whatever the system answers to any request. In the history of the line, the openings and
closings of each descriptor take turns: every opening is followed by exactly one closing, also that
of a redirection that a later one replaces, and nothing else is ever closed. -/
theorem runLine_closes_what_it_opens (system : System σ) (mode : OutputMode) (line : String)
    (session : Session σ) :
    let after := (runLine system (Supervision.run system) mode line session).2.shell
    after.table = session.shell.table ∧
      ∃ past, after.events = session.shell.events ++ past ∧
        ∀ descriptor, Settled descriptor past := by
  have custody := runLine_custody system mode line (Custody.start session.shell)
  obtain ⟨past, events, trails⟩ := custody.history
  exact ⟨custody.table_eq, past, events, fun descriptor => (trails descriptor).2 List.not_mem_nil⟩

end Session

end PipelineShell
