/-
What the shell's process does.

Whatever becomes of a line, the interpreter goes from one state to another by a few kinds of steps:
it enters something in the journal, writes to one of its streams, closes a descriptor, opens a file,
makes a pipe, notes that two stages are joined, or changes the directory. This file names the kinds
and says for the functions that build pipelines and carry out own commands which of them they get
along with. What none of the kinds touches is then left alone by the whole function, and what is not
among them does not happen: a command of the shell itself, for one, opens nothing.
-/

import Mathlib.Logic.Relation
import PipelineShell.Builtin
import PipelineShell.Construction

namespace PipelineShell

variable {σ : Type}

/-- A kind of step. -/
inductive Deed where
  | enter
  | write
  | close
  | openFile
  | makePipe
  | join
  | changeDirectory
  deriving DecidableEq, Repr

/-- One step of the shell's process. -/
inductive Step (system : System σ) : Deed → Interpreter σ → Interpreter σ → Prop where
  | enter (level : Level) (message : String) (shell : Interpreter σ) :
      Step system .enter shell (shell.enter system level message)
  | write (stream : Stream) (text : String) (shell : Interpreter σ) :
      Step system .write shell (shell.write system stream text)
  | close (descriptor : Descriptor) (shell : Interpreter σ) :
      Step system .close shell (shell.close descriptor)
  | openFile (path : String) (truncate : Bool) (shell : Interpreter σ) :
      Step system .openFile shell (shell.openFile system path truncate).2
  | makePipe (shell : Interpreter σ) : Step system .makePipe shell (shell.makePipe system).2
  | join (left right : Stage) (shell : Interpreter σ) :
      Step system .join shell (shell.record (.joined left right))
  | changeDirectory (path : Bytes) (shell : Interpreter σ) :
      Step system .changeDirectory shell
        { shell with world := (system.changeDirectory path shell.world).2 }

/-- What a step of each kind may do to the world. It may always leave the world alone. -/
inductive Change (system : System σ) : Deed → σ → σ → Prop where
  | none (deed : Deed) (world : σ) : Change system deed world world
  | enter (entry : Entry) (world : σ) : Change system .enter world (system.enter entry world)
  | write (stream : Stream) (text : String) (world : σ) :
      Change system .write world (system.write stream text world)
  | openFile (path : Bytes) (truncate : Bool) (serial : Nat) (world : σ) :
      Change system .openFile world (system.openFile path truncate serial world).2
  | makePipe (serial : Nat) (world : σ) :
      Change system .makePipe world (system.makePipe serial world).2
  | changeDirectory (path : Bytes) (world : σ) :
      Change system .changeDirectory world (system.changeDirectory path world).2

theorem Step.change {system : System σ} {deed : Deed} {before after : Interpreter σ}
    (step : Step system deed before after) : Change system deed before.world after.world := by
  cases step with
  | enter => exact .enter _ _
  | write => exact .write _ _ _
  | close | join => exact .none _ _
  | changeDirectory => exact .changeDirectory _ _
  | openFile path truncate =>
    unfold Interpreter.openFile
    split
    · exact .none _ _
    · rename_i bytes _
      split
      · have asked : Change system .openFile before.world
            (system.openFile bytes truncate before.minted
              (before.record (.requested path truncate before.minted)).world).2 :=
          .openFile bytes truncate before.minted before.world
        dsimp only
        split
        · rename_i refused
          rw [refused] at asked
          exact asked
        · rename_i opened
          rw [opened] at asked
          exact asked
      · exact .none _ _
  | makePipe =>
    unfold Interpreter.makePipe
    split
    · have asked : Change system .makePipe before.world
          (system.makePipe before.minted before.world).2 := .makePipe _ _
      split
      · rename_i refused
        rw [refused] at asked
        exact asked
      · rename_i made
        rw [made] at asked
        exact asked
    · exact .none _ _

/-- Whether the shell's process gets from one state to another by steps of these kinds. -/
def Does (system : System σ) (deeds : List Deed) : Interpreter σ → Interpreter σ → Prop :=
  Relation.ReflTransGen fun before after => ∃ deed ∈ deeds, Step system deed before after

namespace Does

variable {system : System σ} {deeds others : List Deed} {before middle after : Interpreter σ}

theorem refl (shell : Interpreter σ) : Does system deeds shell shell := Relation.ReflTransGen.refl

theorem trans (first : Does system deeds before middle) (next : Does system deeds middle after) :
    Does system deeds before after := Relation.ReflTransGen.trans first next

theorem mono (does : Does system deeds before after) (subset : deeds ⊆ others) :
    Does system others before after :=
  Relation.ReflTransGen.mono (fun _ _ ⟨deed, mem, step⟩ => ⟨deed, subset mem, step⟩) _ _ does

theorem step {deed : Deed} (does : Does system deeds before middle)
    (last : Step system deed middle after) (mem : deed ∈ deeds) :
    Does system deeds before after := Relation.ReflTransGen.tail does ⟨deed, mem, last⟩

/-- What each step leaves alone stays as it is. -/
theorem view_eq {α : Type} {view : Interpreter σ → α}
    (keeps : ∀ deed ∈ deeds, ∀ first next, Step system deed first next → view next = view first)
    (does : Does system deeds before after) : view after = view before := by
  induction does with
  | refl => rfl
  | tail _ last inductionHypothesis =>
    obtain ⟨deed, mem, step⟩ := last
    exact (keeps deed mem _ _ step).trans inductionHypothesis

/-- What is kept of the world by each change is kept by all steps. -/
theorem world_induction {motive : σ → Prop} (does : Does system deeds before after)
    (holds : motive before.world)
    (keeps : ∀ deed ∈ deeds, ∀ first next, Change system deed first next →
      motive first → motive next) : motive after.world := by
  induction does with
  | refl => exact holds
  | tail _ last inductionHypothesis =>
    obtain ⟨deed, mem, step⟩ := last
    exact keeps deed mem _ _ step.change inductionHypothesis

theorem closeAll (does : Does system deeds before after) (mem : .close ∈ deeds)
    (descriptors : List Descriptor) : Does system deeds before (after.closeAll descriptors) := by
  induction descriptors generalizing after with
  | nil => exact does
  | cons descriptor rest inductionHypothesis =>
    exact inductionHypothesis (does.step (.close descriptor after) mem)

end Does

/-! ### What a history shows of steps -/

/-- What is never picked from the history when a file is opened is not changed by it. -/
theorem Interpreter.recorded_openFile {α : Type} {pick : Event → Option α}
    (requested : ∀ path truncate serial, pick (.requested path truncate serial) = none)
    (opened : ∀ descriptor handle, pick (.opened descriptor handle) = none)
    (system : System σ) (path : String) (truncate : Bool) (shell : Interpreter σ) :
    (shell.openFile system path truncate).2.recorded pick = shell.recorded pick := by
  have asked : (shell.record (.requested path truncate shell.minted)).recorded pick =
      shell.recorded pick := recorded_record_of_none (requested _ _ _) shell
  unfold Interpreter.openFile
  split
  · rfl
  · split
    · dsimp only
      split
      · exact asked
      · exact (recorded_record_of_none (opened _ _) _).trans asked
    · rfl

theorem Interpreter.recorded_makePipe {α : Type} {pick : Event → Option α}
    (opened : ∀ descriptor handle, pick (.opened descriptor handle) = none)
    (system : System σ) (shell : Interpreter σ) :
    (shell.makePipe system).2.recorded pick = shell.recorded pick := by
  unfold Interpreter.makePipe
  split
  · split
    · rfl
    · exact (recorded_record_of_none (opened _ _) _).trans
        (recorded_record_of_none (opened _ _) _)
  · rfl

/-- The events that a step of a kind may add to the history. -/
inductive Deed.Shows : Deed → Event → Prop where
  | enter (entry : Entry) : Shows .enter (.entered entry)
  | write (stream : Stream) (text : String) : Shows .write (.wrote stream text)
  | close (descriptor : Descriptor) : Shows .close (.closed descriptor)
  | request (path : String) (truncate : Bool) (serial : Nat) :
      Shows .openFile (.requested path truncate serial)
  | openFile (descriptor : Descriptor) (handle : Handle) :
      Shows .openFile (.opened descriptor handle)
  | makePipe (descriptor : Descriptor) (handle : Handle) :
      Shows .makePipe (.opened descriptor handle)
  | join (left right : Stage) : Shows .join (.joined left right)

section

variable {α : Type} {pick : Event → Option α} {system : System σ} {before after : Interpreter σ}

theorem Step.recorded_eq {deed : Deed} (step : Step system deed before after)
    (unpicked : ∀ event, deed.Shows event → pick event = none) :
    after.recorded pick = before.recorded pick := by
  cases step with
  | enter level message => exact Interpreter.recorded_record_of_none (unpicked _ (.enter _)) before
  | write stream text => exact Interpreter.recorded_record_of_none (unpicked _ (.write _ _)) before
  | close descriptor => exact Interpreter.recorded_record_of_none (unpicked _ (.close _)) before
  | join left right => exact Interpreter.recorded_record_of_none (unpicked _ (.join _ _)) before
  | openFile path truncate =>
    exact Interpreter.recorded_openFile (fun _ _ _ => unpicked _ (.request _ _ _))
      (fun _ _ => unpicked _ (.openFile _ _)) system path truncate before
  | makePipe =>
    exact Interpreter.recorded_makePipe (fun _ _ => unpicked _ (.makePipe _ _)) system before
  | changeDirectory => rfl

/-- What is picked from the history stays the same if no step may add anything to it. -/
theorem Does.recorded_eq {deeds : List Deed} (does : Does system deeds before after)
    (unpicked : ∀ deed ∈ deeds, ∀ event, deed.Shows event → pick event = none) :
    after.recorded pick = before.recorded pick :=
  does.view_eq fun deed mem _ _ step => step.recorded_eq (unpicked deed mem)

end

/-! ### Building a pipeline -/

namespace Construction

/-- What a build gets along with. -/
def deeds : List Deed := [.enter, .close, .openFile, .makePipe, .join]

variable {system : System σ} {before shell : Interpreter σ}

/-- Reading words opens files, closes descriptors and keeps the journal. Pipes come later. -/
theorem scan_does (mode : OutputMode) (place : Place) (words : List String) (stage : Stage)
    (background : Bool) (does : Does system [.enter, .close, .openFile] before shell) :
    Does system [.enter, .close, .openFile] before
      (scan system mode place words stage background shell).2 := by
  fun_induction scan system mode place words stage background shell with
  | case1 stage background shell => exact does
  | case2 word rest stage background shell _ inductionHypothesis => exact inductionHypothesis does
  | case3 word rest stage background shell _ inductionHypothesis => exact inductionHypothesis does
  | case4 word rest stage background shell _ => exact does.closeAll (by decide) _
  | case5 word stage background shell direction _ _ => exact does.closeAll (by decide) _
  | case6 word stage background shell direction _ _ target rest _ =>
    exact does.closeAll (by decide) _
  | case7 word stage background shell direction _ _ target rest _ fault after opened =>
    have tried := does.step (.openFile target (truncates mode direction) shell) (by decide)
    rw [opened] at tried
    exact tried.closeAll (by decide) _
  | case8 word stage background shell direction _ _ target rest _ descriptor after opened
      attached replaced taken inductionHypothesis =>
    have tried := does.step (.openFile target (truncates mode direction) shell) (by decide)
    rw [opened] at tried
    obtain ⟨rfl, rfl⟩ : _ = attached ∧ _ = replaced := Prod.mk.inj taken
    exact inductionHypothesis (tried.closeAll (by decide) _)
  | case9 word rest stage background shell direction _ _ => exact does.closeAll (by decide) _

theorem buildStage_does (mode : OutputMode) (place : Place) (segment : List String)
    (background : Bool) (does : Does system [.enter, .close, .openFile] before shell) :
    Does system [.enter, .close, .openFile] before
      (buildStage system mode place segment background shell).2 := by
  unfold buildStage
  split
  · exact does
  · split
    · exact does
    · exact scan_does mode place _ _ background does

theorem buildStages_does (mode : OutputMode) (last : Nat) (segments : List (List String))
    (built : List Stage) (background : Bool)
    (does : Does system [.enter, .close, .openFile] before shell) :
    Does system [.enter, .close, .openFile] before
      (buildStages system mode last segments built background shell).2 := by
  induction segments generalizing built background shell with
  | nil => exact does
  | cons segment rest inductionHypothesis =>
    have next := buildStage_does mode ⟨built.length, last⟩ segment background does
    unfold buildStages
    split
    · rename_i error after failed
      rw [failed] at next
      exact (next.step (.enter .debug _ after) (by decide)).closeAll (by decide) _
    · rename_i stage isBackground after finished
      rw [finished] at next
      exact inductionHypothesis _ isBackground next

/-- Joining stages makes pipes and hands their ends out. -/
theorem join_does (left : Stage) (rest : List Stage)
    (does : Does system [.close, .makePipe, .join] before shell) :
    Does system [.close, .makePipe, .join] before (join system left rest shell).2 := by
  induction rest generalizing left shell with
  | nil => exact does
  | cons right rest inductionHypothesis =>
    have made := does.step (.makePipe shell) (by decide)
    unfold join
    split
    · rename_i errno after failed
      rw [failed] at made
      exact made.closeAll (by decide) _
    · rename_i ends after joined
      rw [joined] at made
      have attached := ((made.step (.join left right after) (by decide)).closeAll (by decide)
        (left.endpoint .output).owned?.toList).closeAll (by decide)
        (right.endpoint .input).owned?.toList
      have joinedRest := inductionHypothesis (right.connect .input (.owned ends.readEnd)) attached
      dsimp only [Interpreter.attach]
      split
      · rename_i errno last failed
        rw [failed] at joinedRest
        exact joinedRest.closeAll (by decide) _
      · rename_i stages last finished
        rw [finished] at joinedRest
        exact joinedRest

theorem joinAll_does (system : System σ) (stages : List Stage) (shell : Interpreter σ) :
    Does system [.close, .makePipe, .join] shell (joinAll system stages shell).2 := by
  cases stages with
  | nil => exact .refl shell
  | cons first rest => exact join_does first rest (.refl shell)

/-- A build opens files, makes pipes and joins stages, closes descriptors and keeps the journal. It
does nothing else. -/
theorem build_does (system : System σ) (mode : OutputMode) (words : List String)
    (shell : Interpreter σ) : Does system deeds shell (build system mode words shell).2 := by
  unfold build
  split
  · exact .refl shell
  · have read : Does system deeds shell
        (buildStages system mode ((segments words).length - 1) (segments words) [] false shell).2 :=
      (buildStages_does mode _ _ [] false (.refl shell)).mono (by decide)
    dsimp only
    split
    · rename_i error after failed
      rw [failed] at read
      exact read
    · rename_i stages background after finished
      rw [finished] at read
      have joined : Does system deeds shell (joinAll system stages after).2 :=
        read.trans ((joinAll_does system stages after).mono (by decide))
      split
      · rename_i errno last failed
        rw [failed] at joined
        exact joined
      · rename_i joinedStages last succeeded
        rw [succeeded] at joined
        exact joined.step (.enter .debug _ last) (by decide)

end Construction

/-! ### Commands of the shell itself -/

namespace Builtin

theorem moveTo_does (system : System σ) (target : String) (shell : Interpreter σ) :
    Does system [.changeDirectory] shell (moveTo system target shell).2 := by
  unfold moveTo
  split
  · exact .refl shell
  · rename_i path _
    have moved : Does system [.changeDirectory] shell
        { shell with world := (system.changeDirectory path shell.world).2 } :=
      (Does.refl shell).step (.changeDirectory path shell) (by decide)
    split <;> rename_i world changed <;> rw [changed] at moved <;> exact moved

/-- A command of the shell keeps the journal, writes, and may change the directory. It opens nothing. -/
theorem run_does (system : System σ) (builtin : Builtin) (arguments : List String)
    (store : Variables) (shell : Interpreter σ) :
    Does system [.enter, .write, .changeDirectory] shell
      (builtin.run system arguments store shell).2 := by
  have entered : Does system [.enter, .write, .changeDirectory] shell (shell.enter system .debug
      ("builtin " ++ builtin.name ++ " " ++ Text.quotedList arguments)) :=
    (Does.refl shell).step (.enter .debug _ shell) (by decide)
  unfold run
  generalize shell.enter system .debug _ = ready at entered ⊢
  cases builtin with
  | help => exact entered.step (.write .output helpText ready) (by decide)
  | changeDirectory =>
    have moved := entered.trans
      ((moveTo_does system (destination arguments store) ready).mono (by decide))
    dsimp only [carryOut]
    split
    · rename_i after succeeded
      rw [succeeded] at moved
      exact moved
    · rename_i fault after failed
      rw [failed] at moved
      exact moved.step (.write .errors _ after) (by decide)
  | exit =>
    dsimp only [carryOut]
    split
    · exact entered
    · split
      · exact entered
      · exact entered.step (.write .errors _ ready) (by decide)

end Builtin

end PipelineShell
