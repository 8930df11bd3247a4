/-
Reading a line opens its redirections in order.

What a build does while it reads commands is said here without the reading: the redirections are
opened one after the other, and a line has two ends that they replace. This file proves that the
build does exactly that. As long as the words are commands that fit their places, a build fails as
the openings fail and otherwise goes on with the stages that the commands ask for; and where the
grammar is violated, it fails with the violation, provided that everything before was opened. A
build that fails only closes what it opened, and says so in the journal.
-/

import Mathlib.Logic.Function.Basic
import PipelineShell.Proofs.Deeds
import PipelineShell.Proofs.Grammar

namespace PipelineShell

open Construction Grammar

variable {σ : Type}

/-! ### Opening redirections -/

/-- Where the two ends of a line, or of a stage, lead. -/
abbrev Ends := Direction → Endpoint

/-- The ends of a line without redirections. -/
def Ends.inherited : Ends := fun _ => .inherit

/-- Opens redirections one after the other. Each becomes the end of its direction, and the
descriptor that was there before is closed after it is opened. The first redirection that cannot be
opened decides the error. -/
def openEach (system : System σ) (mode : OutputMode) :
    List Redirection → Ends → Interpreter σ → Except BuildError Ends × Interpreter σ
  | [], ends, shell => (.ok ends, shell)
  | redirection :: rest, ends, shell =>
    match shell.openFile system redirection.target (truncates mode redirection.direction) with
    | (.error fault, shell) => (.error (.cannotOpen redirection.target fault), shell)
    | (.ok descriptor, shell) =>
      openEach system mode rest (Function.update ends redirection.direction (.owned descriptor))
        (shell.closeAll (ends redirection.direction).owned?.toList)

/-- The directions that redirections have. -/
def directions (redirections : List Redirection) : List Direction :=
  redirections.map Redirection.direction

theorem mem_directions_cons {direction : Direction} {redirection : Redirection}
    {rest : List Redirection} :
    direction ∈ directions (redirection :: rest) ↔
      direction = redirection.direction ∨ direction ∈ directions rest :=
  List.mem_cons

theorem openEach_append (system : System σ) (mode : OutputMode)
    (earlier later : List Redirection) (ends : Ends) (shell : Interpreter σ) :
    openEach system mode (earlier ++ later) ends shell =
      match openEach system mode earlier ends shell with
      | (.error error, after) => (.error error, after)
      | (.ok reached, after) => openEach system mode later reached after := by
  induction earlier generalizing ends shell with
  | nil => rfl
  | cons redirection rest inductionHypothesis =>
    simp only [List.cons_append, openEach]
    split
    · rfl
    · exact inductionHypothesis _ _

/-- An end in whose direction nothing is redirected stays. -/
theorem openEach_of_notMem {system : System σ} {mode : OutputMode}
    {redirections : List Redirection} {ends reached : Ends} {shell after : Interpreter σ}
    (opened : openEach system mode redirections ends shell = (.ok reached, after))
    {direction : Direction} (absent : direction ∉ directions redirections) :
    reached direction = ends direction := by
  induction redirections generalizing ends shell with
  | nil =>
    cases opened
    rfl
  | cons redirection rest inductionHypothesis =>
    rw [mem_directions_cons, not_or] at absent
    rw [openEach] at opened
    split at opened
    · cases opened
    · rw [inductionHypothesis opened absent.2, Function.update_of_ne absent.1]

/-- Only the ends in whose directions something is redirected matter. -/
theorem openEach_congr (system : System σ) (mode : OutputMode)
    (redirections : List Redirection) (ends others : Ends) (shell : Interpreter σ)
    (agree : ∀ direction ∈ directions redirections, ends direction = others direction) :
    openEach system mode redirections others shell =
      match openEach system mode redirections ends shell with
      | (.error error, after) => (.error error, after)
      | (.ok reached, after) =>
        (.ok fun direction =>
          if direction ∈ directions redirections then reached direction else others direction,
          after) := by
  induction redirections generalizing ends others shell with
  | nil => rfl
  | cons redirection rest inductionHypothesis =>
    have same : others redirection.direction = ends redirection.direction :=
      (agree _ List.mem_cons_self).symm
    simp only [openEach, same]
    split
    · rfl
    · rename_i descriptor after _
      have agreeLater : ∀ direction ∈ directions rest,
          Function.update ends redirection.direction (.owned descriptor) direction =
            Function.update others redirection.direction (.owned descriptor) direction := by
        intro direction mem
        by_cases replaced : direction = redirection.direction
        · rw [replaced, Function.update_self, Function.update_self]
        · rw [Function.update_of_ne replaced, Function.update_of_ne replaced]
          exact agree direction (List.mem_cons_of_mem _ mem)
      rw [inductionHypothesis _ _ _ agreeLater]
      split
      · rfl
      · rename_i reached last opened
        refine congrArg (fun found => (Except.ok found, last)) (funext fun direction => ?_)
        by_cases later : direction ∈ directions rest
        · rw [if_pos later, if_pos (mem_directions_cons.mpr (.inr later))]
        · rw [if_neg later]
          by_cases replaced : direction = redirection.direction
          · rw [if_pos (mem_directions_cons.mpr (.inl replaced)),
              openEach_of_notMem opened later, replaced, Function.update_self,
              Function.update_self]
          · rw [if_neg fun mem => (mem_directions_cons.mp mem).elim replaced later,
              Function.update_of_ne replaced]

/-- A build fails with an error and leaves what it did so far behind: from then on it only closes
descriptors and keeps the journal. -/
def Fails {α : Type} (system : System σ) (error : BuildError) (failed : Interpreter σ)
    (result : Except BuildError α × Interpreter σ) : Prop :=
  result.1 = .error error ∧ Does system [.enter, .close] failed result.2

theorem Fails.of_closeAll {α : Type} (system : System σ) (error : BuildError)
    (failed : Interpreter σ) (descriptors : List Descriptor) :
    Fails system error failed
      ((.error error, failed.closeAll descriptors) : Except BuildError α × Interpreter σ) :=
  ⟨rfl, (Does.refl failed).closeAll (by decide) descriptors⟩

/-! ### Reading the items of a command -/

theorem scan_argument (system : System σ) (mode : OutputMode) (place : Place) (word : Operand)
    (rest : List String) (stage : Stage) (background : Bool) (shell : Interpreter σ) :
    scan system mode place (word.1 :: rest) stage background shell =
      scan system mode place rest { stage with arguments := stage.arguments ++ [word.1] }
        background shell := by
  rw [scan, word.2]

theorem scan_background (system : System σ) (mode : OutputMode) (place : Place)
    (rest : List String) (stage : Stage) (background : Bool) (shell : Interpreter σ) :
    scan system mode place (Operator.background.text :: rest) stage background shell =
      scan system mode place rest stage true shell := by
  rw [scan, Operator.ofWord?_text]

theorem scan_redirect (system : System σ) (mode : OutputMode) {place : Place}
    {direction : Direction} (allowed : place.allows direction = true) (target : Operand)
    (rest : List String) (stage : Stage) (background : Bool) (shell : Interpreter σ) :
    scan system mode place ((Operator.redirect direction).text :: target.1 :: rest) stage
        background shell =
      match shell.openFile system target.1 (truncates mode direction) with
      | (.error fault, after) => (.error (.cannotOpen target.1 fault), after.release stage)
      | (.ok descriptor, after) =>
        scan system mode place rest (stage.connect direction (.owned descriptor)) background
          (after.closeAll (stage.endpoint direction).owned?.toList) := by
  have operand : isOperator target.1 = false := by rw [isOperator, target.2]; rfl
  rw [scan, Operator.ofWord?_text]
  simp only [allowed, operand, if_true, Bool.false_eq_true, if_false]
  rfl

theorem endpoint_connect (stage : Stage) (direction : Direction) (endpoint : Endpoint) :
    (stage.connect direction endpoint).endpoint =
      Function.update stage.endpoint direction endpoint := by
  funext other
  cases direction <;> cases other <;> rfl

/-- Reading items opens their redirections and adds their arguments. -/
theorem scan_items (system : System σ) (mode : OutputMode) (place : Place) (items : List Item)
    (fit : ∀ item ∈ items, item.Fits place) (tail : List String) (stage : Stage)
    (background : Bool) (shell : Interpreter σ) :
    match openEach system mode (items.filterMap Item.redirection?) stage.endpoint shell with
    | (.error error, failed) =>
      Fails system error failed
        (scan system mode place (items.flatMap Item.words ++ tail) stage background shell)
    | (.ok ends, after) =>
      scan system mode place (items.flatMap Item.words ++ tail) stage background shell =
        scan system mode place tail
          ⟨stage.program, stage.arguments ++ items.filterMap Item.argument?, ends .input,
            ends .output⟩
          (background || items.any Item.isBackground) after := by
  induction items generalizing stage background shell with
  | nil => simp [openEach, Stage.endpoint]
  | cons item items inductionHypothesis =>
    rw [List.forall_mem_cons] at fit
    have later := inductionHypothesis fit.2
    cases item with
    | argument word =>
      have next := later { stage with arguments := stage.arguments ++ [word.1] } background shell
      simp only [List.append_assoc] at next
      simp only [List.flatMap_cons, Item.words, List.cons_append, List.nil_append,
        scan_argument]
      exact next
    | background =>
      have next := later stage true shell
      simp only [List.flatMap_cons, Item.words, List.cons_append, List.nil_append,
        scan_background, List.any_cons, Item.isBackground, Bool.true_or, Bool.or_true]
      exact next
    | redirect direction target =>
      simp only [List.flatMap_cons, Item.words, List.cons_append, List.nil_append,
        scan_redirect system mode fit.1]
      simp only [List.filterMap_cons, Item.redirection?, openEach]
      rcases shell.openFile system target.1 (truncates mode direction) with
        ⟨fault | descriptor, after⟩
      · exact .of_closeAll system _ after _
      · have next := later (stage.connect direction (.owned descriptor)) background
          (after.closeAll (stage.endpoint direction).owned?.toList)
        rw [endpoint_connect] at next
        have program : (stage.connect direction (.owned descriptor)).program = stage.program := by
          cases direction <;> rfl
        have arguments : (stage.connect direction (.owned descriptor)).arguments =
            stage.arguments := by
          cases direction <;> rfl
        rw [program, arguments] at next
        exact next

/-! ### Reading one segment -/

/-- The stage that a command asks for, with these ends. -/
def Grammar.Command.stage (command : Command) (ends : Ends) : Stage :=
  ⟨command.program.1, command.arguments, ends .input, ends .output⟩

theorem endpoint_named (program : String) :
    (Stage.named program).endpoint = Ends.inherited := by
  funext direction
  cases direction <;> rfl

/-- Reading the words of a command opens its redirections. -/
theorem buildStage_command (system : System σ) (mode : OutputMode) {place : Place}
    {command : Command} (fits : command.Fits place) (background : Bool) (shell : Interpreter σ) :
    match openEach system mode command.redirections Ends.inherited shell with
    | (.error error, failed) =>
      Fails system error failed (buildStage system mode place command.words background shell)
    | (.ok ends, after) =>
      buildStage system mode place command.words background shell =
        (.ok (command.stage ends, background || command.isBackground), after) := by
  have read := scan_items system mode place command.items fits [] (.named command.program.1)
    background shell
  rw [endpoint_named, List.append_nil] at read
  simp only [buildStage, Command.words, command.program.2]
  exact read

/-- Reading a segment with a violation opens the redirections before it. -/
theorem buildStage_violation (system : System σ) (mode : OutputMode) {place : Place}
    {segment : List String} {redirections : List Redirection} {error : BuildError}
    (violation : Violation place segment redirections error) (background : Bool)
    (shell : Interpreter σ) :
    match openEach system mode redirections Ends.inherited shell with
    | (.error other, failed) =>
      Fails system other failed (buildStage system mode place segment background shell)
    | (.ok _, failed) =>
      Fails system error failed (buildStage system mode place segment background shell) := by
  -- What follows the items that fit ends the scan.
  have stops (command : Command) (fits : command.Fits place) (rest : List String)
      (stopped : ∀ stage background after,
        Fails system error after (scan system mode place rest stage background after)) :
      match openEach system mode command.redirections Ends.inherited shell with
      | (.error other, failed) =>
        Fails system other failed
          (buildStage system mode place (command.words ++ rest) background shell)
      | (.ok _, failed) =>
        Fails system error failed
          (buildStage system mode place (command.words ++ rest) background shell) := by
    have read := scan_items system mode place command.items fits rest (.named command.program.1)
      background shell
    rw [endpoint_named] at read
    simp only [buildStage, Command.words, List.cons_append, command.program.2]
    unfold Command.redirections
    generalize openEach system mode _ Ends.inherited shell = opened at read ⊢
    rcases opened with ⟨other | ends, after⟩
    · exact read
    · dsimp only at read ⊢
      rw [read]
      exact stopped _ _ _
  cases violation with
  | emptyCommand => exact .of_closeAll system _ shell []
  | unexpectedOperator rest =>
    simp only [openEach, buildStage, Operator.ofWord?_text]
    exact .of_closeAll system _ shell []
  | misplacedRedirect rest fits misplaced =>
    refine stops _ fits _ fun stage background after => ?_
    rw [scan, Operator.ofWord?_text]
    simp only [misplaced, Bool.false_eq_true, if_false]
    exact .of_closeAll system _ after _
  | @missingTarget _ _ rest fits placed missing =>
    refine stops _ fits _ fun stage background after => ?_
    rw [scan, Operator.ofWord?_text]
    simp only [placed, if_true]
    cases rest with
    | nil => exact .of_closeAll system _ after _
    | cons word rest =>
      simp only [missing word rfl, if_true]
      exact .of_closeAll system _ after _

/-! ### Reading all segments -/

/-- The ends that a stage at a place has of those of its line. -/
def seat (place : Place) (ends : Ends) : Ends :=
  fun direction => if place.allows direction then ends direction else .inherit

/-- The stages of commands from a place on, when these are the ends of their line. -/
def seated (last : Nat) (ends : Ends) : Nat → List Command → List Stage
  | _, [] => []
  | index, command :: rest =>
    command.stage (seat ⟨index, last⟩ ends) :: seated last ends (index + 1) rest

theorem getElem?_seated (last : Nat) (ends : Ends) (first : Nat) (commands : List Command)
    (index : Nat) :
    (seated last ends first commands)[index]? =
      commands[index]?.map fun command => command.stage (seat ⟨first + index, last⟩ ends) := by
  induction commands generalizing first index with
  | nil => rfl
  | cons command rest inductionHypothesis =>
    cases index with
    | zero => rfl
    | succ index =>
      rw [Nat.add_comm index 1, ← Nat.add_assoc, Nat.add_comm 1 index]
      exact inductionHypothesis (first + 1) index

theorem length_seated (last : Nat) (ends : Ends) (first : Nat) (commands : List Command) :
    (seated last ends first commands).length = commands.length := by
  induction commands generalizing first with
  | nil => rfl
  | cons command rest inductionHypothesis =>
    rw [seated, List.length_cons, inductionHypothesis, List.length_cons]

/-- A direction is allowed at one place only. -/
theorem index_eq_of_allows {first second last : Nat} {direction : Direction}
    (here : Place.allows ⟨first, last⟩ direction = true)
    (there : Place.allows ⟨second, last⟩ direction = true) : first = second := by
  cases direction with
  | input => exact (of_decide_eq_true here).trans (of_decide_eq_true there).symm
  | output => exact (of_decide_eq_true here).trans (of_decide_eq_true there).symm

theorem allows_of_mem_directions {place : Place} {command : Command} (fits : command.Fits place)
    {direction : Direction} (mem : direction ∈ directions command.redirections) :
    place.allows direction = true := by
  obtain ⟨redirection, redirectionMem, rfl⟩ := List.mem_map.mp mem
  exact fits.allows redirectionMem

theorem Grammar.Violation.allows_of_mem {place : Place} {segment : List String}
    {redirections : List Redirection} {error : BuildError}
    (violation : Violation place segment redirections error) {direction : Direction}
    (mem : direction ∈ directions redirections) : place.allows direction = true := by
  cases violation with
  | emptyCommand => cases mem
  | unexpectedOperator rest => cases mem
  | misplacedRedirect rest fits misplaced => exact allows_of_mem_directions fits mem
  | missingTarget fits placed missing => exact allows_of_mem_directions fits mem

/-- A command that is read at its place gets the ends of the line that are allowed there, if they
were not redirected before. -/
theorem ends_eq_seat {system : System σ} {mode : OutputMode} {place : Place} {command : Command}
    {ends reached : Ends} {shell after : Interpreter σ} (fits : command.Fits place)
    (free : ∀ direction, place.allows direction = true → ends direction = .inherit)
    (opened : openEach system mode command.redirections ends shell = (.ok reached, after)) :
    (fun direction => if direction ∈ directions command.redirections then reached direction
      else Ends.inherited direction) = seat place reached := by
  funext direction
  by_cases mem : direction ∈ directions command.redirections
  · rw [if_pos mem, seat, if_pos (allows_of_mem_directions fits mem)]
  · rw [if_neg mem, seat]
    split
    · rename_i allowed
      rw [openEach_of_notMem opened mem, free direction allowed]
      rfl
    · rfl

/-- Where commands are redirected, their places allow it. -/
theorem exists_allows {first last : Nat} {commands : List Command}
    (placed : Placed first last commands) {direction : Direction}
    (mem : direction ∈ directions (commands.flatMap Command.redirections)) :
    ∃ index < commands.length, Place.allows ⟨first + index, last⟩ direction = true := by
  obtain ⟨redirection, redirectionMem, rfl⟩ := List.mem_map.mp mem
  obtain ⟨command, commandMem, inside⟩ := List.mem_flatMap.mp redirectionMem
  obtain ⟨index, bound, rfl⟩ := List.getElem_of_mem commandMem
  exact ⟨index, bound, (placed index _ (List.getElem?_eq_getElem bound)).allows inside⟩

/-- The ends of an earlier stage do not change when later commands are redirected. -/
theorem seat_eq_of_placed {system : System σ} {mode : OutputMode} {first last : Nat}
    {commands : List Command} {ends reached : Ends} {shell after : Interpreter σ}
    (opened : openEach system mode (commands.flatMap Command.redirections) ends shell =
      (.ok reached, after))
    (placed : Placed first last commands) {index : Nat} (earlier : index < first) :
    seat ⟨index, last⟩ ends = seat ⟨index, last⟩ reached := by
  funext direction
  unfold seat
  split
  · rename_i allowed
    refine (openEach_of_notMem opened fun mem => ?_).symm
    obtain ⟨later, _, allowedLater⟩ := exists_allows placed mem
    have same := index_eq_of_allows allowed allowedLater
    omega
  · rfl

/-- The ends that later commands may redirect are not redirected by the first one. -/
theorem free_of_opened {system : System σ} {mode : OutputMode} {first last : Nat}
    {command : Command} {rest : List Command} {ends reached : Ends} {shell after : Interpreter σ}
    (fits : command.Fits ⟨first, last⟩)
    (opened : openEach system mode command.redirections ends shell = (.ok reached, after))
    (free : ∀ index < (command :: rest).length, ∀ direction,
      Place.allows ⟨first + index, last⟩ direction = true → ends direction = .inherit) :
    ∀ index < rest.length, ∀ direction,
      Place.allows ⟨first + 1 + index, last⟩ direction = true → reached direction = .inherit := by
  intro index bound direction allowed
  have notHere : direction ∉ directions command.redirections := by
    intro mem
    have same := index_eq_of_allows (allows_of_mem_directions fits mem) allowed
    omega
  rw [openEach_of_notMem opened notHere]
  refine free (index + 1) (Nat.succ_lt_succ bound) direction ?_
  rwa [Nat.add_comm index 1, ← Nat.add_assoc]

theorem buildStages_of_error {system : System σ} {mode : OutputMode} {last : Nat}
    {segment : List String} {rest : List (List String)} {built : List Stage} {background : Bool}
    {shell failed : Interpreter σ} {error : BuildError}
    (fails : Fails system error failed
      (buildStage system mode ⟨built.length, last⟩ segment background shell)) :
    Fails system error failed
      (buildStages system mode last (segment :: rest) built background shell) := by
  obtain ⟨ending, does⟩ := fails
  rw [buildStages]
  split
  · rename_i other after found
    rw [found] at ending does
    exact ⟨congrArg Except.error (Except.error.inj ending),
      (does.step (.enter .debug _ after) (by decide)).closeAll (by decide) _⟩
  · rename_i found
    rw [found] at ending
    cases ending

theorem buildStages_of_ok {system : System σ} {mode : OutputMode} {last : Nat}
    {segment : List String} {rest : List (List String)} {built : List Stage}
    {background isBackground : Bool} {shell after : Interpreter σ} {stage : Stage}
    (finished : buildStage system mode ⟨built.length, last⟩ segment background shell =
      (.ok (stage, isBackground), after)) :
    buildStages system mode last (segment :: rest) built background shell =
      buildStages system mode last rest (built ++ [stage]) isBackground after := by
  rw [buildStages, finished]

/-- Reading commands opens their redirections in order. What the line has as its ends in the
directions that are still to come is not redirected before. -/
theorem buildStages_commands (system : System σ) (mode : OutputMode) (last : Nat)
    (commands : List Command) (tail : List (List String)) (built : List Stage) (ends : Ends)
    (background : Bool) (shell : Interpreter σ)
    (placed : Placed built.length last commands)
    (free : ∀ index < commands.length, ∀ direction,
      Place.allows ⟨built.length + index, last⟩ direction = true → ends direction = .inherit) :
    match openEach system mode (commands.flatMap Command.redirections) ends shell with
    | (.error error, failed) =>
      Fails system error failed
        (buildStages system mode last (commands.map Command.words ++ tail) built background shell)
    | (.ok reached, after) =>
      buildStages system mode last (commands.map Command.words ++ tail) built background shell =
        buildStages system mode last tail (built ++ seated last reached built.length commands)
          (background || commands.any Command.isBackground) after := by
  induction commands generalizing built ends background shell with
  | nil => simp [openEach, seated]
  | cons command commands inductionHypothesis =>
    obtain ⟨fits, placedLater⟩ := placed_cons.mp placed
    have freeHere : ∀ direction, Place.allows ⟨built.length, last⟩ direction = true →
        ends direction = .inherit := free 0 (Nat.succ_pos _)
    have read := buildStage_command system mode fits background shell
    have agree : ∀ direction ∈ directions command.redirections,
        ends direction = Ends.inherited direction := by
      intro direction mem
      exact freeHere direction (allows_of_mem_directions fits mem)
    rw [openEach_congr system mode command.redirections ends Ends.inherited shell agree] at read
    rw [List.flatMap_cons, openEach_append]
    rcases opened : openEach system mode command.redirections ends shell with
      ⟨error | reached, after⟩
    · rw [opened] at read
      exact buildStages_of_error read
    · rw [opened] at read
      dsimp only at read ⊢
      rw [ends_eq_seat fits freeHere opened] at read
      have next := inductionHypothesis
        (built ++ [command.stage (seat ⟨built.length, last⟩ reached)]) reached
        (background || command.isBackground) after
        (by rwa [List.length_append, List.length_singleton])
        (by
          rw [List.length_append, List.length_singleton]
          exact free_of_opened fits opened free)
      rw [List.map_cons, List.cons_append, buildStages_of_ok read]
      rcases finished : openEach system mode (commands.flatMap Command.redirections) reached after
        with ⟨error | final, done⟩
      · rw [finished] at next
        exact next
      · rw [finished] at next
        dsimp only at next ⊢
        rw [seat_eq_of_placed finished placedLater (Nat.lt_succ_self _), List.length_append,
          List.length_singleton, List.append_assoc, Bool.or_assoc] at next
        rw [seat_eq_of_placed finished placedLater (Nat.lt_succ_self _)]
        exact next

/-! ### Reading a whole line -/

/-- Segments that are commands up to one that has a violation. -/
theorem buildStages_violation (system : System σ) (mode : OutputMode) (last : Nat)
    {commands : List Command} {segment : List String} {redirections : List Redirection}
    {error : BuildError} (placed : Placed 0 last commands)
    (violation : Violation ⟨commands.length, last⟩ segment redirections error)
    (rest : List (List String)) (shell : Interpreter σ) :
    match openEach system mode (commands.flatMap Command.redirections ++ redirections)
      Ends.inherited shell with
    | (.error other, failed) =>
      Fails system other failed
        (buildStages system mode last (commands.map Command.words ++ segment :: rest) [] false
          shell)
    | (.ok _, failed) =>
      Fails system error failed
        (buildStages system mode last (commands.map Command.words ++ segment :: rest) [] false
          shell) := by
  have read := buildStages_commands system mode last commands (segment :: rest) [] Ends.inherited
    false shell placed fun _ _ _ _ => rfl
  rw [openEach_append]
  rcases opened : openEach system mode (commands.flatMap Command.redirections) Ends.inherited shell
    with ⟨other | ends, after⟩
  · rw [opened] at read
    exact read
  · rw [opened] at read
    dsimp only at read ⊢
    have agree : ∀ direction ∈ directions redirections,
        ends direction = Ends.inherited direction := by
      intro direction mem
      refine openEach_of_notMem opened fun earlier => ?_
      obtain ⟨index, bound, allowed⟩ := exists_allows placed earlier
      have same := index_eq_of_allows allowed (violation.allows_of_mem mem)
      omega
    have next := buildStage_violation system mode violation
      (false || commands.any Command.isBackground) after
    rw [openEach_congr system mode redirections ends Ends.inherited after agree] at next
    have place : (⟨([] ++ seated last ends 0 commands).length, last⟩ : Place) =
        ⟨commands.length, last⟩ := by rw [List.nil_append, length_seated]
    rw [← place] at next
    rw [read]
    rcases reopened : openEach system mode redirections ends after with ⟨other | reached, done⟩
    · rw [reopened] at next
      exact buildStages_of_error next
    · rw [reopened] at next
      exact buildStages_of_error next

theorem build_of_error {system : System σ} {mode : OutputMode} {words : List String}
    (nonempty : words ≠ []) {shell failed : Interpreter σ} {error : BuildError}
    (fails : Fails system error failed
      (buildStages system mode ((segments words).length - 1) (segments words) [] false shell)) :
    Fails system error failed (build system mode words shell) := by
  obtain ⟨ending, does⟩ := fails
  rw [build, if_neg nonempty]
  dsimp only
  split
  · rename_i reason done found
    rw [found] at ending does
    exact ⟨congrArg Except.error (Except.error.inj ending), does⟩
  · rename_i found
    rw [found] at ending
    cases ending

/-- Building from commands that fit their places opens their redirections and joins their stages. -/
theorem build_of_grammatical (system : System σ) (mode : OutputMode) {words : List String}
    {commands : List Command} (nonempty : words ≠ []) (grammatical : Grammatical words commands)
    (shell : Interpreter σ) :
    match openEach system mode (commands.flatMap Command.redirections) Ends.inherited shell with
    | (.error error, failed) => Fails system error failed (build system mode words shell)
    | (.ok ends, after) =>
      build system mode words shell =
        match joinAll system (seated (commands.length - 1) ends 0 commands) after with
        | (.error errno, done) => (.error (.cannotPipe errno), done)
        | (.ok stages, done) =>
          (.ok ⟨stages, commands.any Command.isBackground⟩,
            done.enter system .debug (built ⟨stages, commands.any Command.isBackground⟩)) := by
  have read := buildStages_commands system mode (commands.length - 1) commands [] []
    Ends.inherited false shell grammatical.2 fun _ _ _ _ => rfl
  have last : (segments words).length - 1 = commands.length - 1 := by
    rw [grammatical.1, List.length_map]
  rw [List.append_nil, ← grammatical.1, ← last] at read
  rw [← last]
  rcases opened : openEach system mode (commands.flatMap Command.redirections) Ends.inherited shell
    with ⟨error | ends, after⟩
  · rw [opened] at read
    exact build_of_error nonempty read
  · rw [opened] at read
    dsimp only at read ⊢
    rw [build, if_neg nonempty]
    dsimp only
    rw [read]
    rfl

/-- Building from words with a violation opens the redirections before it. -/
theorem build_of_firstViolation (system : System σ) (mode : OutputMode) {words : List String}
    {earlier : List Redirection} {error : BuildError} (nonempty : words ≠ [])
    (violation : FirstViolation words earlier error) (shell : Interpreter σ) :
    match openEach system mode earlier Ends.inherited shell with
    | (.error other, failed) => Fails system other failed (build system mode words shell)
    | (.ok _, failed) => Fails system error failed (build system mode words shell) := by
  obtain ⟨commands, segment, rest, redirections, spelled, placed, inside, rfl⟩ := violation
  have read := buildStages_violation system mode _ placed inside rest shell
  rw [← spelled] at read
  rcases opened : openEach system mode (commands.flatMap Command.redirections ++ redirections)
    Ends.inherited shell with ⟨other | ends, after⟩
  · rw [opened] at read
    exact build_of_error nonempty read
  · rw [opened] at read
    exact build_of_error nonempty read

end PipelineShell
