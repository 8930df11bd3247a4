/-
The grammar of a line.

A command is a program and then, in any order, arguments, requests for the background and
redirections with their targets. A line is one command for each segment between its pipes, and a
redirection fits only where its direction leaves the line: an input in the first command, an output
in the last. What does not follow the grammar has a first violation. This file states both without
reading anything: commands are written out as words, and a segment has a violation if it begins with
the words of a command that fits and goes on with what no command goes on with.

The main statement is that one of the two always holds: a line is grammatical or it has a first
violation.
-/

import PipelineShell.Construction

namespace PipelineShell

open Construction

namespace Grammar

/-! ### Commands -/

/-- A word that is no operator. -/
abbrev Operand := { word : String // Operator.ofWord? word = none }

/-- What may follow the program of a command. -/
inductive Item where
  | argument (word : Operand)
  | background
  | redirect (direction : Direction) (target : Operand)

/-- A redirection and the file that it names. -/
structure Redirection where
  direction : Direction
  target : String
  deriving DecidableEq, Repr

namespace Item

/-- An item as words. -/
def words : Item → List String
  | argument word => [word.1]
  | background => [Operator.background.text]
  | redirect direction target => [(Operator.redirect direction).text, target.1]

/-- The argument that an item is. -/
def argument? : Item → Option String
  | argument word => some word.1
  | _ => none

/-- The redirection that an item is. -/
def redirection? : Item → Option Redirection
  | redirect direction target => some ⟨direction, target.1⟩
  | _ => none

/-- Whether an item asks for the background. -/
def isBackground : Item → Bool
  | background => true
  | _ => false

/-- Whether an item may stand at a place: only redirections are bound to one. -/
def Fits (place : Place) : Item → Prop
  | redirect direction _ => place.allows direction
  | _ => True

end Item

/-- A command: a program and what follows it. -/
structure Command where
  program : Operand
  items : List Item

namespace Command

/-- A command as words. -/
def words (command : Command) : List String :=
  command.program.1 :: command.items.flatMap Item.words

/-- The arguments of a command. The first one is the program's name. -/
def arguments (command : Command) : List String :=
  command.program.1 :: command.items.filterMap Item.argument?

/-- The redirections of a command, in order. -/
def redirections (command : Command) : List Redirection :=
  command.items.filterMap Item.redirection?

/-- Whether a command asks for the background. -/
def isBackground (command : Command) : Bool := command.items.any Item.isBackground

/-- Whether a command may stand at a place. -/
def Fits (place : Place) (command : Command) : Prop := ∀ item ∈ command.items, item.Fits place

end Command

/-- Whether commands may stand one after the other from a place on. -/
def Placed (first last : Nat) (commands : List Command) : Prop :=
  ∀ (index : Nat) (command : Command), commands[index]? = some command →
    command.Fits ⟨first + index, last⟩

theorem placed_nil (first last : Nat) : Placed first last [] := by
  intro index command found
  simp at found

theorem placed_cons {first last : Nat} {command : Command} {rest : List Command} :
    Placed first last (command :: rest) ↔
      command.Fits ⟨first, last⟩ ∧ Placed (first + 1) last rest := by
  constructor
  · intro placed
    refine ⟨placed 0 command rfl, fun index other found => ?_⟩
    rw [Nat.add_assoc, Nat.add_comm 1 index]
    exact placed (index + 1) other found
  · rintro ⟨fits, placed⟩ index other found
    cases index with
    | zero => exact Option.some.inj found ▸ fits
    | succ index =>
      rw [Nat.add_comm index 1, ← Nat.add_assoc]
      exact placed index other found

/-- The directions in which a command is redirected are allowed where it fits. -/
theorem Command.Fits.allows {place : Place} {command : Command} (fits : command.Fits place)
    {redirection : Redirection} (mem : redirection ∈ command.redirections) :
    place.allows redirection.direction := by
  obtain ⟨item, itemMem, found⟩ := List.mem_filterMap.mp mem
  cases item with
  | argument word => cases found
  | background => cases found
  | redirect direction target =>
    cases found
    exact fits _ itemMem

/-! ### Violations -/

/-- The first violation of a segment, with the redirections that come before it. -/
inductive Violation (place : Place) : List String → List Redirection → BuildError → Prop where
  | emptyCommand : Violation place [] [] (.emptyCommand place.index)
  | unexpectedOperator {operator : Operator} (rest : List String) :
      Violation place (operator.text :: rest) [] (.unexpectedOperator operator place.index)
  | misplacedRedirect {command : Command} {direction : Direction} (rest : List String)
      (fits : command.Fits place) (misplaced : place.allows direction = false) :
      Violation place (command.words ++ (Operator.redirect direction).text :: rest)
        command.redirections (.misplacedRedirect direction place.index)
  | missingTarget {command : Command} {direction : Direction} {rest : List String}
      (fits : command.Fits place) (placed : place.allows direction)
      (missing : ∀ word ∈ rest.head?, isOperator word) :
      Violation place (command.words ++ (Operator.redirect direction).text :: rest)
        command.redirections (.missingTarget direction place.index)

/-- The commands that a line consists of. -/
def Grammatical (words : List String) (commands : List Command) : Prop :=
  segments words = commands.map Command.words ∧ Placed 0 (commands.length - 1) commands

/-- The first violation of a line, with the redirections that come before it: some segments are
commands that fit, and the next one has the violation. -/
def FirstViolation (words : List String) (earlier : List Redirection) (error : BuildError) : Prop :=
  ∃ (commands : List Command) (segment : List String) (rest : List (List String))
      (redirections : List Redirection),
    segments words = commands.map Command.words ++ segment :: rest ∧
    Placed 0 ((segments words).length - 1) commands ∧
    Violation ⟨commands.length, (segments words).length - 1⟩ segment redirections error ∧
    earlier = commands.flatMap Command.redirections ++ redirections

/-! ### Every line is grammatical or has a first violation -/

/-- Whether nothing after the program of a segment can go on as an item at a place. -/
def Stuck (place : Place) (words : List String) : Prop :=
  ∃ direction rest, words = (Operator.redirect direction).text :: rest ∧
    (place.allows direction = true → ∀ word ∈ rest.head?, isOperator word)

/-- What follows a program is items that fit, and then nothing or something that no item goes on
with. -/
theorem exists_items (place : Place) :
    (words : List String) → (∀ word ∈ words, Operator.ofWord? word ≠ some .pipe) →
      ∃ (items : List Item) (rest : List String), (∀ item ∈ items, item.Fits place) ∧
        words = items.flatMap Item.words ++ rest ∧ (rest = [] ∨ Stuck place rest)
  | [], _ => ⟨[], [], by simp, rfl, .inl rfl⟩
  | word :: words, noPipe => by
    have later : ∀ other ∈ words, Operator.ofWord? other ≠ some .pipe :=
      fun other mem => noPipe other (List.mem_cons_of_mem _ mem)
    match read : Operator.ofWord? word with
    | none =>
      obtain ⟨items, rest, fit, rfl, stuck⟩ := exists_items place words later
      exact ⟨.argument ⟨word, read⟩ :: items, rest,
        List.forall_mem_cons.mpr ⟨trivial, fit⟩, rfl, stuck⟩
    | some .pipe => exact absurd read (noPipe word List.mem_cons_self)
    | some .background =>
      obtain ⟨items, rest, fit, rfl, stuck⟩ := exists_items place words later
      rw [Operator.ofWord?_eq_some_iff] at read
      exact ⟨.background :: items, rest, List.forall_mem_cons.mpr ⟨trivial, fit⟩, by
        rw [read]; rfl, stuck⟩
    | some (.redirect direction) =>
      rw [Operator.ofWord?_eq_some_iff] at read
      by_cases allowed : place.allows direction = true
      · match words, later with
        | [], _ => exact ⟨[], [word], by simp, rfl, .inr ⟨direction, [], by rw [read], by simp⟩⟩
        | target :: words, later =>
          match targetRead : Operator.ofWord? target with
          | some operator =>
            exact ⟨[], word :: target :: words, by simp, rfl,
              .inr ⟨direction, target :: words, by rw [read], by simp [isOperator, targetRead]⟩⟩
          | none =>
            obtain ⟨items, rest, fit, rfl, stuck⟩ := exists_items place words
              fun other mem => later other (List.mem_cons_of_mem _ mem)
            exact ⟨.redirect direction ⟨target, targetRead⟩ :: items, rest,
              List.forall_mem_cons.mpr ⟨allowed, fit⟩, by rw [read]; rfl, stuck⟩
      · exact ⟨[], word :: words, by simp, rfl,
          .inr ⟨direction, words, by rw [read], fun placed => absurd placed allowed⟩⟩

/-- A segment is a command that fits its place or has a first violation. -/
theorem command_or_violation (place : Place) (segment : List String)
    (noPipe : ∀ word ∈ segment, Operator.ofWord? word ≠ some .pipe) :
    (∃ command : Command, command.Fits place ∧ segment = command.words) ∨
      ∃ redirections error, Violation place segment redirections error := by
  cases segment with
  | nil => exact .inr ⟨_, _, .emptyCommand⟩
  | cons program words =>
    match read : Operator.ofWord? program with
    | some operator =>
      rw [Operator.ofWord?_eq_some_iff] at read
      exact .inr ⟨[], _, read ▸ Violation.unexpectedOperator words⟩
    | none =>
      obtain ⟨items, rest, fit, rfl, stuck⟩ := exists_items place words
        fun word mem => noPipe word (List.mem_cons_of_mem _ mem)
      have fits : Command.Fits place ⟨⟨program, read⟩, items⟩ := fit
      rcases stuck with rfl | ⟨direction, rest, rfl, stuck⟩
      · exact .inl ⟨_, fits, by rw [List.append_nil]; rfl⟩
      · by_cases allowed : place.allows direction = true
        · exact .inr ⟨_, _, .missingTarget fits allowed (stuck allowed)⟩
        · exact .inr ⟨_, _, .misplacedRedirect rest fits (Bool.not_eq_true _ ▸ allowed)⟩

/-- Segments are commands that fit from a place on, up to their end or up to the first that has a
violation. -/
theorem commands_or_violation (last : Nat) (segments : List (List String)) (first : Nat)
    (noPipe : ∀ segment ∈ segments, ∀ word ∈ segment, Operator.ofWord? word ≠ some .pipe) :
    ∃ commands : List Command, Placed first last commands ∧
      (segments = commands.map Command.words ∨
        ∃ segment rest redirections error,
          segments = commands.map Command.words ++ segment :: rest ∧
          Violation ⟨first + commands.length, last⟩ segment redirections error) := by
  induction segments generalizing first with
  | nil => exact ⟨[], placed_nil first last, .inl rfl⟩
  | cons segment segments inductionHypothesis =>
    rw [List.forall_mem_cons] at noPipe
    rcases command_or_violation ⟨first, last⟩ segment noPipe.1 with
      ⟨command, fits, rfl⟩ | ⟨redirections, error, violation⟩
    · obtain ⟨commands, placed, ended⟩ := inductionHypothesis (first + 1) noPipe.2
      refine ⟨command :: commands, placed_cons.mpr ⟨fits, placed⟩, ?_⟩
      rcases ended with rfl | ⟨other, rest, redirections, error, rfl, violation⟩
      · exact .inl rfl
      · refine .inr ⟨other, rest, redirections, error, rfl, ?_⟩
        rw [List.length_cons, Nat.add_comm commands.length, ← Nat.add_assoc]
        exact violation
    · exact ⟨[], placed_nil first last,
        .inr ⟨segment, segments, redirections, error, rfl, violation⟩⟩

/-- No segment holds a pipe. -/
theorem ne_pipe_of_mem_segments {words segment : List String} (mem : segment ∈ segments words) :
    ∀ word ∈ segment, Operator.ofWord? word ≠ some .pipe := by
  intro word inside
  simpa using Text.not_isMark_of_mem_pieces mem word inside

theorem grammatical_or_violation (words : List String) :
    (∃ commands, Grammatical words commands) ∨
      ∃ earlier error, FirstViolation words earlier error := by
  obtain ⟨commands, placed, ended⟩ := commands_or_violation ((segments words).length - 1)
    (segments words) 0 fun segment mem => ne_pipe_of_mem_segments mem
  rcases ended with spelled | ⟨segment, rest, redirections, error, spelled, violation⟩
  · refine .inl ⟨commands, spelled, ?_⟩
    rw [spelled, List.length_map] at placed
    exact placed
  · rw [Nat.zero_add] at violation
    exact .inr ⟨_, _, commands, segment, rest, redirections, spelled, placed, violation, rfl⟩

end Grammar

end PipelineShell
