/-
What a build accepts, and what it reports otherwise.

A build interleaves five checks with what it asks of the system, and its first failure ends it. This
file says the outcome without that order of work. Words are accepted if there are none, or if they
follow the grammar, all their redirections can be opened one after the other and then all their
pipes can be made. Otherwise the report is the first violation of the grammar, unless a redirection
before it cannot be opened, and a pipe is reported only where everything else went well.
-/

import PipelineShell.Proofs.Joining

namespace PipelineShell

open Construction Grammar

variable {σ : Type}

namespace Construction

/-- Everything that words need to be accepted: commands that fit, what they redirect, and their
pipes. -/
structure Acceptance (system : System σ) (mode : OutputMode) (words : List String)
    (shell : Interpreter σ) where
  commands : List Command
  grammatical : Grammatical words commands
  ends : Ends
  opened : Interpreter σ
  opens : openEach system mode (commands.flatMap Command.redirections) Ends.inherited shell =
    (.ok ends, opened)
  pipes : List Interpreter.PipeEnds
  joins : (makePipes system (commands.length - 1) opened).1 = .ok pipes

/-- Why words are refused. -/
inductive Refusal (system : System σ) (mode : OutputMode) (words : List String)
    (shell : Interpreter σ) : BuildError → Prop where
  /-- The first violation, when everything before it was opened. -/
  | violation {earlier : List Redirection} {ends : Ends} {opened : Interpreter σ}
      {error : BuildError} (first : FirstViolation words earlier error)
      (opens : openEach system mode earlier Ends.inherited shell = (.ok ends, opened)) :
      Refusal system mode words shell error
  /-- A redirection before the first violation that cannot be opened. -/
  | beforeViolation {earlier : List Redirection} {hidden error : BuildError}
      (first : FirstViolation words earlier hidden)
      (fails : (openEach system mode earlier Ends.inherited shell).1 = .error error) :
      Refusal system mode words shell error
  /-- A redirection that cannot be opened, when there is no violation. -/
  | opening {commands : List Command} {error : BuildError}
      (grammatical : Grammatical words commands)
      (fails : (openEach system mode (commands.flatMap Command.redirections) Ends.inherited
        shell).1 = .error error) :
      Refusal system mode words shell error
  /-- A pipe that cannot be made, when there is no violation and everything was opened. -/
  | pipe {commands : List Command} {ends : Ends} {opened : Interpreter σ} {errno : Errno}
      (grammatical : Grammatical words commands)
      (opens : openEach system mode (commands.flatMap Command.redirections) Ends.inherited shell =
        (.ok ends, opened))
      (fails : (makePipes system (commands.length - 1) opened).1 = .error errno) :
      Refusal system mode words shell (.cannotPipe errno)

/-! ### Acceptance and refusal decide the outcome -/

section

variable {system : System σ} {mode : OutputMode} {words : List String} {shell : Interpreter σ}

theorem Acceptance.build_eq (acceptance : Acceptance system mode words shell)
    (nonempty : words ≠ []) :
    (build system mode words shell).1 =
      .ok (pipelineOf acceptance.commands acceptance.ends acceptance.pipes) := by
  have outcome := build_of_commands system mode nonempty acceptance.grammatical shell
  have joins := acceptance.joins
  rw [acceptance.opens] at outcome
  dsimp only at outcome
  generalize makePipes system (acceptance.commands.length - 1) acceptance.opened = made
    at joins outcome
  obtain ⟨_, done⟩ := made
  obtain rfl : _ = Except.ok acceptance.pipes := joins
  exact outcome.1

theorem Refusal.build_eq {error : BuildError} (refusal : Refusal system mode words shell error)
    (nonempty : words ≠ []) : (build system mode words shell).1 = .error error := by
  cases refusal with
  | violation first opens =>
    have outcome := build_of_firstViolation system mode nonempty first shell
    rw [opens] at outcome
    exact outcome.1
  | @beforeViolation earlier _ _ first fails =>
    have outcome := build_of_firstViolation system mode nonempty first shell
    generalize openEach system mode earlier Ends.inherited shell = opened at fails outcome
    obtain ⟨_, after⟩ := opened
    obtain rfl : _ = Except.error error := fails
    exact outcome.1
  | @opening commands _ grammatical fails =>
    have outcome := build_of_commands system mode nonempty grammatical shell
    generalize openEach system mode (commands.flatMap Command.redirections) Ends.inherited shell =
      opened at fails outcome
    obtain ⟨_, after⟩ := opened
    obtain rfl : _ = Except.error error := fails
    exact outcome.1
  | @pipe commands _ opened errno grammatical opens fails =>
    have outcome := build_of_commands system mode nonempty grammatical shell
    rw [opens] at outcome
    dsimp only at outcome
    generalize makePipes system (commands.length - 1) opened = made at fails outcome
    obtain ⟨_, after⟩ := made
    obtain rfl : _ = Except.error errno := fails
    exact outcome.1

/-- Words are accepted or refused for a reason. -/
theorem acceptance_or_refusal (system : System σ) (mode : OutputMode) (words : List String)
    (shell : Interpreter σ) :
    Nonempty (Acceptance system mode words shell) ∨
      ∃ error, Refusal system mode words shell error := by
  rcases grammatical_or_violation words with ⟨commands, grammatical⟩ | ⟨earlier, error, first⟩
  · rcases opens : openEach system mode (commands.flatMap Command.redirections) Ends.inherited
      shell with ⟨error | ends, opened⟩
    · exact .inr ⟨error, .opening grammatical (by rw [opens])⟩
    · rcases joins : makePipes system (commands.length - 1) opened with ⟨errno | pipes, done⟩
      · exact .inr ⟨_, .pipe grammatical opens (by rw [joins])⟩
      · exact .inl ⟨⟨commands, grammatical, ends, opened, opens, pipes, by rw [joins]⟩⟩
  · rcases opens : openEach system mode earlier Ends.inherited shell with ⟨other | ends, opened⟩
    · exact .inr ⟨other, .beforeViolation first (by rw [opens])⟩
    · exact .inr ⟨error, .violation first opens⟩

/-- What is built is what the commands of the words ask for. -/
theorem exists_commands_of_build {pipeline : Pipeline} {after : Interpreter σ}
    (nonempty : words ≠ []) (built : build system mode words shell = (.ok pipeline, after)) :
    ∃ commands ends opened pipes done, Grammatical words commands ∧
      openEach system mode (commands.flatMap Command.redirections) Ends.inherited shell =
        (.ok ends, opened) ∧
      makePipes system (commands.length - 1) opened = (.ok pipes, done) ∧
      pipeline = pipelineOf commands ends pipes ∧ after.table = done.table ∧
      after.requests = done.requests := by
  rcases acceptance_or_refusal system mode words shell with ⟨⟨acceptance⟩⟩ | ⟨error, refusal⟩
  · obtain ⟨commands, grammatical, ends, opened, opens, pipes, joins⟩ := acceptance
    have outcome := build_of_commands system mode nonempty grammatical shell
    rw [opens, built] at outcome
    dsimp only at outcome
    rcases made : makePipes system (commands.length - 1) opened with ⟨_, done⟩
    rw [made] at joins outcome
    obtain rfl : _ = Except.ok pipes := joins
    exact ⟨commands, ends, opened, pipes, done, grammatical, opens, made,
      Except.ok.inj outcome.1, outcome.2.1, outcome.2.2.2⟩
  · have refused := refusal.build_eq nonempty
    rw [built] at refused
    cases refused

end

/-- A build accepts exactly the words of its grammar for which the system gives everything, and
reports exactly the reason for which it refuses all others. -/
theorem build_accepts_grammar (system : System σ) (mode : OutputMode) (words : List String)
    (shell : Interpreter σ) :
    ((∃ pipeline, (build system mode words shell).1 = .ok pipeline) ↔
      words = [] ∨ Nonempty (Acceptance system mode words shell)) ∧
    ∀ error, (build system mode words shell).1 = .error error ↔
      words ≠ [] ∧ Refusal system mode words shell error := by
  by_cases empty : words = []
  · have accepted : (build system mode words shell).1 = .ok ⟨[.named ""], false⟩ := by
      rw [build, if_pos empty]
    refine ⟨⟨fun _ => .inl empty, fun _ => ⟨_, accepted⟩⟩, fun error => ⟨fun refused => ?_, ?_⟩⟩
    · rw [accepted] at refused
      cases refused
    · exact fun reason => absurd empty reason.1
  · rcases acceptance_or_refusal system mode words shell with ⟨⟨acceptance⟩⟩ | ⟨reason, refusal⟩
    · have accepted := acceptance.build_eq empty
      refine ⟨⟨fun _ => .inr ⟨acceptance⟩, fun _ => ⟨_, accepted⟩⟩, fun error => ⟨fun refused => ?_,
        fun refused => refused.2.build_eq empty⟩⟩
      rw [accepted] at refused
      cases refused
    · have refused := refusal.build_eq empty
      refine ⟨⟨?_, ?_⟩, fun error => ⟨fun found => ⟨empty, ?_⟩, fun other =>
        other.2.build_eq empty⟩⟩
      · rintro ⟨pipeline, accepted⟩
        rw [refused] at accepted
        cases accepted
      · rintro (none | ⟨⟨acceptance⟩⟩)
        · exact absurd none empty
        · exact ⟨_, acceptance.build_eq empty⟩
      · rw [refused] at found
        exact Except.error.inj found ▸ refusal

end Construction

end PipelineShell
