/-
What waiting reports.

The system answers requests to wait for a child until one answer is an ending. Two kinds of answers
leave things open, interruptions and changes that leave the child running, and the first answer of
another kind settles what the wait gives. When children are waited for one after the other, a
failure keeps none of the later ones from being waited for: the loop carries the latest status and
the first failure, so in the end the status is that of the last child if nothing failed, and
otherwise the first failure is what counts. The journal has all of them.
-/

import PipelineShell.Proofs.History

namespace PipelineShell

variable {σ : Type}

/-! ### The answer that settles a wait -/

/-- Whether an answer leaves open how the wait ends. -/
def WaitReport.isOpen : WaitReport → Bool
  | .ended ending => ending = .failed .interrupted
  | .changed _ => true

/-- All answers to the requests to wait for a process. -/
def WaitHistory.answers (history : WaitHistory) : List WaitReport :=
  history.reports ++ [.ended history.last]

/-- Whether the first answer that leaves nothing open is this ending. -/
def WaitHistory.Settles (history : WaitHistory) (ending : Ending) : Prop :=
  (history.answers.find? fun answer => !answer.isOpen) = some (.ended ending)

theorem WaitHistory.exists_settles (history : WaitHistory) : ∃ ending, history.Settles ending := by
  have decided : !(WaitReport.ended history.last).isOpen := by
    simpa [WaitReport.isOpen] using history.decisive
  cases found : history.answers.find? fun answer => !answer.isOpen with
  | none =>
    exact absurd decided (List.find?_eq_none.mp found (.ended history.last) (by simp [answers]))
  | some answer =>
    cases answer with
    | ended ending => exact ⟨ending, found⟩
    | changed description =>
      exact absurd (List.find?_some found) (by simp [WaitReport.isOpen])

namespace Supervision

/-- What a wait gives that ends in some way: an exit code as it is, and a signal counted from
128. -/
def Child.outcome (child : Child) : Ending → Except ExecError Int
  | .exited code => .ok code
  | .killed signal => .ok (128 + signal.number)
  | .failed errno => .error (.cannotWait child.program errno)

theorem conclude_outcome (system : System σ) (child : Child) (ending : Ending)
    (shell : Interpreter σ) : (conclude system child ending shell).1 = child.outcome ending := by
  cases ending <;> rfl

theorem settle_outcome (system : System σ) (child : Child) {last ending : Ending}
    (reports : List WaitReport) (shell : Interpreter σ)
    (settles : ((reports ++ [WaitReport.ended last]).find? fun answer => !answer.isOpen) =
      some (.ended ending)) :
    (settle system child last reports shell).1 = child.outcome ending := by
  fun_induction settle system child last reports shell with
  | case1 shell =>
    have same := List.mem_of_find?_eq_some settles
    obtain rfl : ending = last := by simpa using same
    exact conclude_outcome system child ending shell
  | case2 description rest shell inductionHypothesis => exact inductionHypothesis settles
  | case3 rest shell inductionHypothesis => exact inductionHypothesis settles
  | case4 answered rest shell decisive =>
    have closed : (WaitReport.ended answered).isOpen = false := by
      simpa [WaitReport.isOpen] using decisive
    rw [List.cons_append, List.find?_cons, closed] at settles
    cases settles
    exact conclude_outcome system child ending shell

/-- A wait gives what the first answer settles that leaves nothing open. -/
theorem await_outcome {system : System σ} {child : Child} {shell : Interpreter σ} {ending : Ending}
    (settles : (system.wait child.pid shell.world).1.Settles ending) :
    (await system child shell).1 = child.outcome ending :=
  settle_outcome system child _ _ settles

example (system : System σ) (shell : Interpreter σ) :
    (settle system ⟨7, "wc"⟩ (.exited 3)
      [.ended (.failed .interrupted), .changed "stopped", .ended (.killed ⟨9⟩)] shell).1 =
        .ok 137 :=
  rfl

/-! ### One child after the other -/

/-- The interpreter after a wait: a failure is entered in the journal. -/
def complain (system : System σ) : Except ExecError Int → Interpreter σ → Interpreter σ
  | .ok _, shell => shell
  | .error error, shell => shell.enter system .error error.message

/-- What the waits for children give, in order and each child once, when the answers to each are
those of the system at that time. -/
inductive Awaits (system : System σ) :
    Interpreter σ → List Child → List (Except ExecError Int) → Interpreter σ → Prop where
  | nil (shell : Interpreter σ) : Awaits system shell [] [] shell
  | cons {shell after : Interpreter σ} {child : Child} {rest : List Child} {ending : Ending}
      {results : List (Except ExecError Int)}
      (settles : (system.wait child.pid shell.world).1.Settles ending)
      (later : Awaits system (complain system (child.outcome ending) (await system child shell).2)
        rest results after) :
      Awaits system shell (child :: rest) (child.outcome ending :: results) after

/-- The codes among results. -/
def codes (results : List (Except ExecError Int)) : List Int :=
  results.filterMap fun
    | .ok code => some code
    | .error _ => none

/-- The failures among results. -/
def failures (results : List (Except ExecError Int)) : List ExecError :=
  results.filterMap fun
    | .ok _ => none
    | .error error => some error

section

variable (all : List Int) (code : Int) (error : ExecError) (rest : List (Except ExecError Int))

@[simp] theorem codes_ok : codes (.ok code :: rest) = code :: codes rest := rfl

@[simp] theorem codes_error : codes (.error error :: rest) = codes rest := rfl

@[simp] theorem failures_ok : failures (.ok code :: rest) = failures rest := rfl

@[simp] theorem failures_error : failures (.error error :: rest) = error :: failures rest := rfl

@[simp] theorem codes_map_ok : codes (all.map .ok) = all := by
  induction all with
  | nil => rfl
  | cons first others inductionHypothesis => rw [List.map_cons, codes_ok, inductionHypothesis]

@[simp] theorem failures_map_ok : failures (all.map .ok ++ rest) = failures rest := by
  induction all with
  | nil => rfl
  | cons first others inductionHypothesis =>
    rw [List.map_cons, List.cons_append, failures_ok, inductionHypothesis]

end

/-- Results are codes only, or there is a first failure. -/
theorem codes_or_failure (results : List (Except ExecError Int)) :
    (∃ all : List Int, results = all.map .ok) ∨
      ∃ (all : List Int) (error : ExecError) (later : List (Except ExecError Int)),
        results = all.map .ok ++ .error error :: later := by
  induction results with
  | nil => exact .inl ⟨[], rfl⟩
  | cons result rest inductionHypothesis =>
    cases result with
    | error error => exact .inr ⟨[], error, rest, rfl⟩
    | ok code =>
      rcases inductionHypothesis with ⟨all, rfl⟩ | ⟨all, error, later, rfl⟩
      · exact .inl ⟨code :: all, rfl⟩
      · exact .inr ⟨code :: all, error, later, rfl⟩

/-- What the results of waits come to. -/
def summary (results : List (Except ExecError Int)) : Except ExecError Int :=
  (failures results).head?.elim (.ok ((codes results).getLastD 0)) .error

theorem summary_map_ok (all : List Int) : summary (all.map .ok) = .ok (all.getLastD 0) := by
  rw [summary, codes_map_ok, ← List.append_nil (all.map _), failures_map_ok]
  rfl

theorem summary_of_error (all : List Int) (error : ExecError)
    (later : List (Except ExecError Int)) :
    summary (all.map .ok ++ .error error :: later) = .error error := by
  rw [summary, failures_map_ok]
  rfl

theorem summary_eq_ok_iff (results : List (Except ExecError Int)) (status : Int) :
    summary results = .ok status ↔
      ∃ all : List Int, results = all.map .ok ∧ all.getLastD 0 = status := by
  constructor
  · intro same
    rcases codes_or_failure results with ⟨all, rfl⟩ | ⟨all, error, later, rfl⟩
    · rw [summary_map_ok] at same
      exact ⟨all, rfl, Except.ok.inj same⟩
    · rw [summary_of_error] at same
      cases same
  · rintro ⟨all, rfl, rfl⟩
    exact summary_map_ok all

theorem summary_eq_error_iff (results : List (Except ExecError Int)) (error : ExecError) :
    summary results = .error error ↔
      ∃ (all : List Int) (later : List (Except ExecError Int)),
        results = all.map .ok ++ .error error :: later := by
  constructor
  · intro same
    rcases codes_or_failure results with ⟨all, rfl⟩ | ⟨all, first, later, rfl⟩
    · rw [summary_map_ok] at same
      cases same
    · rw [summary_of_error] at same
      cases same
      exact ⟨all, later, rfl⟩
  · rintro ⟨all, later, rfl⟩
    exact summary_of_error all error later

/-- The whole loop: what is carried from one child to the next are the latest code and the first
failure. -/
theorem awaitAll_awaits (system : System σ) (children : List Child) (status : Int)
    (failure : Option ExecError) (shell : Interpreter σ) :
    ∃ results, Awaits system shell children results
        (awaitAll system children status failure shell).2 ∧
      (awaitAll system children status failure shell).1 =
        (failure.or (failures results).head?).elim (.ok ((codes results).getLastD status))
          .error := by
  induction children generalizing status failure shell with
  | nil =>
    refine ⟨[], ?_, ?_⟩
    · cases failure <;> exact .nil shell
    · cases failure <;> rfl
  | cons child rest inductionHypothesis =>
    obtain ⟨ending, settles⟩ := (system.wait child.pid shell.world).1.exists_settles
    have gives := await_outcome settles
    rw [awaitAll]
    rcases waited : await system child shell with ⟨result, next⟩
    have step {results : List (Except ExecError Int)} {after : Interpreter σ}
        (later : Awaits system (complain system result next) rest results after) :
        Awaits system shell (child :: rest) (result :: results) after := by
      rw [waited] at gives
      obtain rfl : result = child.outcome ending := gives
      exact .cons settles (waited ▸ later)
    cases result with
    | ok code =>
      obtain ⟨results, awaits, result⟩ := inductionHypothesis code failure next
      refine ⟨_, step awaits, result.trans ?_⟩
      rw [failures_ok, codes_ok, List.getLastD_cons]
    | error error =>
      obtain ⟨results, awaits, result⟩ := inductionHypothesis status (failure.or (some error))
        (next.enter system .error error.message)
      refine ⟨_, step awaits, result.trans ?_⟩
      rw [Option.or_assoc, Option.some_or, failures_error, codes_error, List.head?_cons]

/-! ### What the journal has -/

/-- The message that an event enters in the journal as an error. -/
def complaint? : Event → Option String
  | .entered ⟨.error, message⟩ => some message
  | _ => none

theorem recorded_settle (system : System σ) (child : Child) (last : Ending)
    (reports : List WaitReport) (shell : Interpreter σ) :
    (settle system child last reports shell).2.recorded complaint? =
      shell.recorded complaint? := by
  have quiet (message : String) (shell : Interpreter σ) :
      (shell.enter system .debug message).recorded complaint? = shell.recorded complaint? :=
    Interpreter.recorded_record_of_none rfl shell
  have concluded (ending : Ending) (shell : Interpreter σ) :
      (conclude system child ending shell).2.recorded complaint? = shell.recorded complaint? := by
    cases ending with
    | exited code => exact quiet _ shell
    | killed signal => exact quiet _ shell
    | failed errno => rfl
  fun_induction settle system child last reports shell with
  | case1 shell => exact concluded last shell
  | case2 description rest shell inductionHypothesis =>
    exact inductionHypothesis.trans (quiet _ shell)
  | case3 rest shell inductionHypothesis => exact inductionHypothesis
  | case4 ending rest shell _ => exact concluded ending shell

theorem recorded_await (system : System σ) (child : Child) (shell : Interpreter σ) :
    (await system child shell).2.recorded complaint? = shell.recorded complaint? :=
  (recorded_settle system child _ _ _).trans (Interpreter.recorded_record_of_none rfl _)

theorem recorded_complain (system : System σ) (result : Except ExecError Int)
    (shell : Interpreter σ) :
    (complain system result shell).recorded complaint? =
      shell.recorded complaint? ++ (failures [result]).map ExecError.message := by
  cases result with
  | ok code => exact (List.append_nil _).symm
  | error error => exact Interpreter.recorded_record complaint? shell _

/-- Every failure is entered in the journal, in order. -/
theorem Awaits.recorded_complaint? {system : System σ} {shell after : Interpreter σ}
    {children : List Child} {results : List (Except ExecError Int)}
    (awaits : Awaits system shell children results after) :
    after.recorded complaint? =
      shell.recorded complaint? ++ (failures results).map ExecError.message := by
  induction awaits with
  | nil shell => exact (List.append_nil _).symm
  | @cons shell after child rest ending results settles later inductionHypothesis =>
    rw [inductionHypothesis, recorded_complain, recorded_await, List.append_assoc,
      ← List.map_append]
    congr 2
    exact (List.filterMap_append (l := [child.outcome ending])).symm

/-! ### The outcome -/

/-- A wait gives what the first answer settles that leaves nothing open. When children are waited
for, each is waited for once and in order, whatever the waits before give. The outcome is the status
of the last one if no wait fails, and otherwise the first failure; the journal has all of them. -/
theorem awaitAll_reports (system : System σ) (children : List Child) (shell : Interpreter σ) :
    let ended := awaitAll system children 0 none shell
    (∀ child shell, ∃ ending, (system.wait child.pid shell.world).1.Settles ending ∧
      (await system child shell).1 = child.outcome ending) ∧
    ∃ results, Awaits system shell children results ended.2 ∧
      (∀ status, ended.1 = .ok status ↔
        ∃ all : List Int, results = all.map .ok ∧ all.getLastD 0 = status) ∧
      (∀ error, ended.1 = .error error ↔
        ∃ (all : List Int) (later : List (Except ExecError Int)),
          results = all.map .ok ++ .error error :: later) ∧
      Happened [] [] (children.map Child.pid) shell ended.2 ∧
      ended.2.recorded complaint? =
        shell.recorded complaint? ++ (failures results).map ExecError.message := by
  intro ended
  refine ⟨fun child shell => ?_, ?_⟩
  · obtain ⟨ending, settles⟩ := (system.wait child.pid shell.world).1.exists_settles
    exact ⟨ending, settles, await_outcome settles⟩
  · obtain ⟨results, awaits, outcome⟩ := awaitAll_awaits system children 0 none shell
    have summarised : ended.1 = summary results := outcome
    exact ⟨results, awaits, fun status => summarised ▸ summary_eq_ok_iff results status,
      fun error => summarised ▸ summary_eq_error_iff results error,
      awaitAll_happened system children 0 none shell, awaits.recorded_complaint?⟩

end Supervision

end PipelineShell
