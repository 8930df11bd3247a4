/-
What the words of a line say, one by one.

What a word means depends on the word and the one before it only: an operator is what it is, the
word after a redirection sign is a target, and any other word is plain. This file says which words
are plain and what is redirected in these terms, without commands, and proves that in a line that
follows the grammar they are the arguments and the redirections of its commands.
-/

import PipelineShell.Proofs.Grammar

namespace PipelineShell

open Construction Grammar

/-! ### Words and the words before them -/

/-- Words, each with the one before it. -/
def successive (before : Option String) : List String → List (Option String × String)
  | [] => []
  | word :: rest => (before, word) :: successive (some word) rest

/-- The direction in which a word redirects. -/
def redirects? (word : String) : Option Direction :=
  match Operator.ofWord? word with
  | some (.redirect direction) => some direction
  | _ => none

/-- A word that is neither an operator nor the target of a redirection. -/
def plain? : Option String × String → Option String
  | (before, word) =>
    if isOperator word || (before.bind redirects?).isSome then none else some word

/-- The redirection that a word is the target of. -/
def redirected? : Option String × String → Option Redirection
  | (before, word) =>
    if isOperator word then none
    else (before.bind redirects?).map fun direction => ⟨direction, word⟩

/-- The words that are neither operators nor targets, in order. -/
def plainWords (words : List String) : List String := (successive none words).filterMap plain?

/-- What is redirected, in order. -/
def redirectionsOf (words : List String) : List Redirection :=
  (successive none words).filterMap redirected?

@[simp] theorem isOperator_text (operator : Operator) : isOperator operator.text = true := by
  rw [isOperator, Operator.ofWord?_text]
  rfl

@[simp] theorem isOperator_operand (word : Operand) : isOperator word.1 = false := by
  rw [isOperator, word.2]
  rfl

@[simp] theorem redirects?_text (operator : Operator) :
    redirects? operator.text =
      match operator with
      | .redirect direction => some direction
      | _ => none := by
  rw [redirects?, Operator.ofWord?_text]
  cases operator <;> rfl

@[simp] theorem redirects?_operand (word : Operand) : redirects? word.1 = none := by
  rw [redirects?, word.2]

/-! ### The words of a command -/

/-- What is read off the words of items, when nothing before them redirects, is read off the items.
A redirection sign gives nothing by itself. -/
theorem filterMap_successive_items {α : Type} {read : Option String × String → Option α}
    {ofItem : Item → Option α}
    (argument : ∀ before word, before.bind redirects? = none →
      read (before, Subtype.val word) = ofItem (.argument word))
    (background : ∀ before, read (before, Operator.background.text) = ofItem .background)
    (sign : ∀ before direction, read (before, (Operator.redirect direction).text) = none)
    (target : ∀ direction target,
      read (some (Operator.redirect direction).text, target.1) = ofItem (.redirect direction target))
    (items : List Item) {before : Option String} (free : before.bind redirects? = none) :
    (successive before (items.flatMap Item.words)).filterMap read = items.filterMap ofItem := by
  induction items generalizing before with
  | nil => rfl
  | cons item items inductionHypothesis =>
    rw [List.flatMap_cons]
    cases item with
    | argument word =>
      have freeLater : (some word.1).bind redirects? = none := redirects?_operand word
      simp only [Item.words, List.cons_append, List.nil_append, successive, List.filterMap_cons]
      rw [argument before word free, inductionHypothesis freeLater]
    | background =>
      have freeLater : (some Operator.background.text).bind redirects? = none :=
        redirects?_text .background
      simp only [Item.words, List.cons_append, List.nil_append, successive, List.filterMap_cons]
      rw [background before, inductionHypothesis freeLater]
    | redirect direction named =>
      have freeLater : (some named.1).bind redirects? = none := redirects?_operand named
      simp only [Item.words, List.cons_append, List.nil_append, successive, List.filterMap_cons]
      rw [sign before direction, target direction named, inductionHypothesis freeLater]

/-- The plain words of a command are its arguments. -/
theorem plainWords_command (command : Command) :
    plainWords command.words = command.arguments := by
  have items : (successive (some command.program.1) (command.items.flatMap Item.words)).filterMap
      plain? = command.items.filterMap Item.argument? := by
    refine filterMap_successive_items ?_ ?_ ?_ ?_ command.items (redirects?_operand command.program)
    · intro before word free
      simp [plain?, free, Item.argument?]
    · intro before
      simp [plain?, Item.argument?]
    · intro before direction
      simp [plain?]
    · intro direction target
      simp [plain?, Item.argument?]
  rw [plainWords, Command.words, successive, List.filterMap_cons, items]
  simp [plain?, Command.arguments]

/-- What the words of a command redirect are its redirections. -/
theorem redirectionsOf_command (command : Command) :
    redirectionsOf command.words = command.redirections := by
  have items : (successive (some command.program.1) (command.items.flatMap Item.words)).filterMap
      redirected? = command.items.filterMap Item.redirection? := by
    refine filterMap_successive_items ?_ ?_ ?_ ?_ command.items (redirects?_operand command.program)
    · intro before word free
      simp [redirected?, free, Item.redirection?]
    · intro before
      simp [redirected?, Item.redirection?]
    · intro before direction
      simp [redirected?]
    · intro direction target
      simp [redirected?, Item.redirection?]
  rw [redirectionsOf, Command.words, successive, List.filterMap_cons, items]
  simp [redirected?, Command.redirections]

/-! ### The words of a line -/

/-- What is redirected in a line is what is redirected in its segments: a pipe is no target and does
not redirect. -/
theorem filterMap_successive_segments (words : List String) (before : Option String) :
    (successive before words).filterMap redirected? =
      match segments words with
      | [] => []
      | segment :: rest =>
        (successive before segment).filterMap redirected? ++ rest.flatMap redirectionsOf := by
  induction words generalizing before with
  | nil => rfl
  | cons word words inductionHypothesis =>
    have later := inductionHypothesis (some word)
    simp only [segments] at later
    simp only [successive, List.filterMap_cons, later, segments, Text.pieces]
    by_cases isPipe : Operator.ofWord? word = some .pipe
    · rw [if_pos (decide_eq_true isPipe)]
      rw [Operator.ofWord?_eq_some_iff] at isPipe
      subst isPipe
      cases Text.pieces (fun word => Operator.ofWord? word = some .pipe) words with
      | nil => simp [successive, redirected?]
      | cons segment rest =>
        have afterPipe : (successive (some Operator.pipe.text) segment).filterMap redirected? =
            redirectionsOf segment := by
          cases segment with
          | nil => rfl
          | cons first others => simp [redirectionsOf, successive, redirected?]
        simp [successive, redirected?, afterPipe]
    · rw [if_neg (by simpa using isPipe)]
      cases cut : Text.pieces (fun word => Operator.ofWord? word = some .pipe) words with
      | nil => exact absurd cut (Text.pieces_ne_nil _ _)
      | cons segment rest =>
        simp only [successive, List.filterMap_cons]
        cases redirected? (before, word) <;> rfl

theorem redirectionsOf_segments (words : List String) :
    redirectionsOf words = (segments words).flatMap redirectionsOf := by
  rw [redirectionsOf, filterMap_successive_segments]
  cases segments words <;> rfl

/-- There is one segment more than there are pipes. -/
theorem length_segments (words : List String) :
    (segments words).length = words.count Operator.pipe.text + 1 := by
  rw [segments, Text.length_pieces, Nat.add_comm, List.count_eq_countP]
  refine congrArg (· + 1) (List.countP_congr fun word _ => ?_)
  rw [decide_eq_true_eq, Operator.ofWord?_eq_some_iff, beq_iff_eq]

/-- An operator other than a pipe is in a line exactly if it is in one of its segments. -/
theorem text_mem_iff {operator : Operator} (different : operator ≠ .pipe) (words : List String) :
    operator.text ∈ words ↔ ∃ segment ∈ segments words, operator.text ∈ segment :=
  Text.mem_iff_exists_mem_pieces (by simpa using different)

/-! ### The operators of a command -/

theorem text_ne_operand (operator : Operator) (word : Operand) : operator.text ≠ word.1 := by
  intro same
  have read := Operator.ofWord?_text operator
  rw [same, word.2] at read
  cases read

theorem text_inj {first second : Operator} : first.text = second.text ↔ first = second := by
  constructor
  · intro same
    have read := Operator.ofWord?_text first
    rw [same, Operator.ofWord?_text] at read
    exact (Option.some.inj read).symm
  · exact congrArg Operator.text

theorem text_mem_command {operator : Operator} {command : Command} :
    operator.text ∈ command.words ↔ ∃ item ∈ command.items, operator.text ∈ item.words := by
  rw [Command.words, List.mem_cons, List.mem_flatMap]
  exact or_iff_right (text_ne_operand operator command.program)

theorem background_mem_command {command : Command} :
    Operator.background.text ∈ command.words ↔ command.isBackground := by
  rw [text_mem_command, Command.isBackground, List.any_eq_true]
  refine exists_congr fun item => and_congr_right fun _ => ?_
  cases item with
  | argument word => simp [Item.words, Item.isBackground, text_ne_operand]
  | background => simp [Item.words, Item.isBackground]
  | redirect direction target =>
    simp [Item.words, Item.isBackground, text_ne_operand, text_inj]

/-- A redirection sign is in a command exactly if something is redirected in its direction. -/
theorem sign_mem_command {direction : Direction} {command : Command} :
    (Operator.redirect direction).text ∈ command.words ↔
      ∃ redirection ∈ command.redirections, redirection.direction = direction := by
  rw [text_mem_command]
  constructor
  · rintro ⟨item, mem, inside⟩
    cases item with
    | argument word => simp [Item.words, text_ne_operand] at inside
    | background => simp [Item.words, text_inj] at inside
    | redirect other target =>
      simp only [Item.words, List.mem_cons, text_inj, Operator.redirect.injEq, text_ne_operand,
        List.not_mem_nil, or_false] at inside
      exact ⟨⟨other, target.1⟩, List.mem_filterMap.mpr ⟨_, mem, rfl⟩, inside.symm⟩
  · rintro ⟨redirection, mem, rfl⟩
    obtain ⟨item, itemMem, found⟩ := List.mem_filterMap.mp mem
    cases item with
    | argument word => cases found
    | background => cases found
    | redirect direction target =>
      cases found
      exact ⟨_, itemMem, List.mem_cons_self⟩

/-! ### Lines that follow the grammar -/

section

variable {words : List String} {commands : List Command}

theorem length_of_grammatical (grammatical : Grammatical words commands) :
    commands.length = words.count Operator.pipe.text + 1 := by
  rw [← length_segments, grammatical.1, List.length_map]

theorem redirectionsOf_grammatical (grammatical : Grammatical words commands) :
    redirectionsOf words = commands.flatMap Command.redirections := by
  rw [redirectionsOf_segments, grammatical.1, List.flatMap_map]
  exact congrArg (commands.flatMap ·) (funext redirectionsOf_command)

theorem text_mem_grammatical (grammatical : Grammatical words commands) {operator : Operator}
    (different : operator ≠ .pipe) :
    operator.text ∈ words ↔ ∃ command ∈ commands, operator.text ∈ command.words := by
  rw [text_mem_iff different, grammatical.1]
  constructor
  · rintro ⟨segment, mem, inside⟩
    obtain ⟨command, commandMem, rfl⟩ := List.mem_map.mp mem
    exact ⟨command, commandMem, inside⟩
  · rintro ⟨command, mem, inside⟩
    exact ⟨_, List.mem_map_of_mem mem, inside⟩

theorem background_mem_grammatical (grammatical : Grammatical words commands) :
    Operator.background.text ∈ words ↔ commands.any Command.isBackground := by
  rw [text_mem_grammatical grammatical (by decide), List.any_eq_true]
  exact exists_congr fun command => and_congr_right fun _ => background_mem_command

theorem sign_mem_grammatical (grammatical : Grammatical words commands) (direction : Direction) :
    (Operator.redirect direction).text ∈ words ↔
      ∃ redirection ∈ redirectionsOf words, redirection.direction = direction := by
  have different : Operator.redirect direction ≠ .pipe := fun same => nomatch same
  rw [text_mem_grammatical grammatical different, redirectionsOf_grammatical grammatical]
  constructor
  · rintro ⟨command, mem, inside⟩
    obtain ⟨redirection, redirectionMem, same⟩ := sign_mem_command.mp inside
    exact ⟨redirection, List.mem_flatMap.mpr ⟨command, mem, redirectionMem⟩, same⟩
  · rintro ⟨redirection, mem, same⟩
    obtain ⟨command, commandMem, inside⟩ := List.mem_flatMap.mp mem
    exact ⟨command, commandMem, sign_mem_command.mpr ⟨redirection, inside, same⟩⟩

end

end PipelineShell
