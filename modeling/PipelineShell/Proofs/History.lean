/-
What a run adds to the history.

Between two moments children are started, descriptors are closed and processes are waited for. All
three can be read off the events between the moments, and what happens in two stretches of time one
after the other is what happens in the first and then what happens in the second. This file says
what waiting adds, whatever the answers are, and which ways a whole run can take.
-/

import PipelineShell.Proofs.Release

namespace PipelineShell

variable {σ : Type}

/-! ### What happens between two moments -/

/-- The start of a child that an event is. -/
def Event.start? : Event → Option Start
  | .started start => some start
  | _ => none

/-- The descriptor that an event closes. -/
def Event.closed? : Event → Option Descriptor
  | .closed descriptor => some descriptor
  | _ => none

/-- The process that an event waits for. -/
def Event.awaited? : Event → Option ProcessId
  | .awaited pid => some pid
  | _ => none

/-- Whether between two moments exactly these children are started, these descriptors closed and
these processes waited for, each in this order. -/
def Happened (starts : List Start) (closed : List Descriptor) (awaited : List ProcessId)
    (before after : Interpreter σ) : Prop :=
  ∃ past, after.events = before.events ++ past ∧ past.filterMap Event.start? = starts ∧
    past.filterMap Event.closed? = closed ∧ past.filterMap Event.awaited? = awaited

namespace Happened

variable {starts later : List Start} {closed closedLater : List Descriptor}
  {awaited awaitedLater : List ProcessId} {first second third : Interpreter σ}

theorem refl (shell : Interpreter σ) : Happened [] [] [] shell shell :=
  ⟨[], (List.append_nil _).symm, rfl, rfl, rfl⟩

theorem trans (happened : Happened starts closed awaited first second)
    (next : Happened later closedLater awaitedLater second third) :
    Happened (starts ++ later) (closed ++ closedLater) (awaited ++ awaitedLater) first third := by
  obtain ⟨past, events, rfl, rfl, rfl⟩ := happened
  obtain ⟨pastLater, eventsLater, rfl, rfl, rfl⟩ := next
  refine ⟨past ++ pastLater, ?_, List.filterMap_append, List.filterMap_append,
    List.filterMap_append⟩
  rw [eventsLater, events, List.append_assoc]

theorem record (shell : Interpreter σ) (event : Event) :
    Happened event.start?.toList event.closed?.toList event.awaited?.toList shell
      (shell.record event) := by
  have picked {α : Type} (pick : Event → Option α) :
      [event].filterMap pick = (pick event).toList := by
    cases found : pick event <;> simp [found]
  exact ⟨[event], Interpreter.events_record shell event, picked _, picked _, picked _⟩

theorem enter (system : System σ) (level : Level) (message : String) (shell : Interpreter σ) :
    Happened [] [] [] shell (shell.enter system level message) :=
  record shell (.entered ⟨level, message⟩)

theorem closeAll (shell : Interpreter σ) (descriptors : List Descriptor) :
    Happened [] descriptors [] shell (shell.closeAll descriptors) := by
  induction descriptors generalizing shell with
  | nil => exact refl shell
  | cons descriptor rest inductionHypothesis =>
    have closes : Happened [] [descriptor] [] shell (shell.close descriptor) :=
      record shell (.closed descriptor)
    exact closes.trans (inductionHypothesis (shell.close descriptor))

end Happened

namespace Supervision

/-! ### Waiting for children -/

theorem conclude_happened (system : System σ) (child : Child) (ending : Ending)
    (shell : Interpreter σ) :
    Happened [] [] [] shell (conclude system child ending shell).2 := by
  cases ending with
  | exited code => exact .enter system .debug _ shell
  | killed signal => exact .enter system .debug _ shell
  | failed errno => exact .refl shell

theorem settle_happened (system : System σ) (child : Child) (last : Ending)
    (reports : List WaitReport) (shell : Interpreter σ) :
    Happened [] [] [] shell (settle system child last reports shell).2 := by
  fun_induction settle system child last reports shell with
  | case1 shell => exact conclude_happened system child last shell
  | case2 description rest shell inductionHypothesis =>
    exact (Happened.enter system .debug _ shell).trans inductionHypothesis
  | case3 rest shell inductionHypothesis => exact inductionHypothesis
  | case4 ending rest shell _ => exact conclude_happened system child ending shell

/-- Waiting for a child goes through all answers, but it is one wait. -/
theorem await_happened (system : System σ) (child : Child) (shell : Interpreter σ) :
    Happened [] [] [child.pid] shell (await system child shell).2 := by
  have waits := Happened.record
    ({ shell with world := (system.wait child.pid shell.world).2 } : Interpreter σ)
    (.awaited child.pid)
  exact waits.trans (settle_happened system child _ _ _)

/-- Each child is waited for once, whether the waits before it fail or not. -/
theorem awaitAll_happened (system : System σ) (children : List Child) (status : Int)
    (failure : Option ExecError) (shell : Interpreter σ) :
    Happened [] [] (children.map Child.pid) shell
      (awaitAll system children status failure shell).2 := by
  induction children generalizing status failure shell with
  | nil => cases failure <;> exact .refl shell
  | cons child rest inductionHypothesis =>
    have awaited := await_happened system child shell
    unfold awaitAll
    split
    · rename_i code after found
      rw [found] at awaited
      exact awaited.trans (inductionHypothesis code failure after)
    · rename_i error after found
      rw [found] at awaited
      exact (awaited.trans (Happened.enter system .error _ after)).trans
        (inductionHypothesis status _ _)

/-! ### The ways of a run -/

/-- The interpreter after a request for the background was noticed, and ignored. -/
def notice (system : System σ) (pipeline : Pipeline) (shell : Interpreter σ) : Interpreter σ :=
  if pipeline.background then shell.enter system .warn foregroundNotice else shell

@[simp] theorem table_notice (system : System σ) (pipeline : Pipeline) (shell : Interpreter σ) :
    (notice system pipeline shell).table = shell.table := by
  unfold notice
  split <;> rfl

theorem notice_happened (system : System σ) (pipeline : Pipeline) (shell : Interpreter σ) :
    Happened [] [] [] shell (notice system pipeline shell) := by
  unfold notice
  split
  · exact .enter system .warn foregroundNotice shell
  · exact .refl shell

/-- A run with an empty program closes everything at once. -/
theorem run_of_unnamed {system : System σ} {pipeline : Pipeline}
    (unnamed : ∃ stage ∈ pipeline.stages, stage.program = "") (store : Variables)
    (shell : Interpreter σ) :
    run system pipeline store shell = (.error .emptyCommand, shell.releaseAll pipeline.stages) := by
  rw [run, if_pos (by simpa using unnamed)]

/-- A run whose variables are refused closes everything at once, too. -/
theorem run_of_environment_error (system : System σ) {pipeline : Pipeline} {store : Variables}
    {fault : NulByte} (named : ¬ ∃ stage ∈ pipeline.stages, stage.program = "")
    (refused : store.environment = .error fault) (shell : Interpreter σ) :
    run system pipeline store shell =
      (.error (.invalidArgument ("environment: " ++ fault.message)),
        (notice system pipeline shell).releaseAll pipeline.stages) := by
  rw [run, if_neg (by simpa using named)]
  simp only [refused]
  rfl

/-- A run whose pipeline and variables are not refused starts children and then waits for them. The
failure of a start is reported, and otherwise what the waits give. -/
theorem run_of_environment (system : System σ) {pipeline : Pipeline} {store : Variables}
    {environment : List Bytes} (named : ¬ ∃ stage ∈ pipeline.stages, stage.program = "")
    (handed : store.environment = .ok environment) (shell : Interpreter σ) :
    let spawned := spawnAll system environment pipeline.stages [] (notice system pipeline shell)
    let waited := awaitAll system spawned.2.1 0 none spawned.2.2
    run system pipeline store shell = (spawned.1.elim waited.1 .error, waited.2) := by
  rw [run, if_neg (by simpa using named)]
  simp only [handed]
  rw [← notice]
  generalize spawnAll system environment pipeline.stages [] _ = spawned
  obtain ⟨failure, children, waiting⟩ := spawned
  cases failure <;> rfl

end Supervision

end PipelineShell
