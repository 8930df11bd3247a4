/-
Variables that hold no syntax.

A text is bare if no character of it could end a word of a line. The words of a line are operators
or bare, and a variable gets its name and its value from a word of a line or from another variable.
So a session that starts with bare variables never makes one that is not bare. An operator is not
bare, so such variables never put an operator where the line has none.
-/

import PipelineShell.Proofs.Dispatch
import PipelineShell.Proofs.Wiring

namespace PipelineShell

variable {σ : Type}

/-! ### Bare texts -/

/-- Whether a character neither separates words nor is an operator. -/
def Text.IsInner (character : Char) : Prop :=
  isBlank character = false ∧ isOperatorSign character = false

instance : DecidablePred Text.IsInner := fun _ => inferInstanceAs (Decidable (_ ∧ _))

/-- Whether a text holds neither blanks nor operator signs. -/
def Text.Bare (text : String) : Prop := ∀ character ∈ text.toList, IsInner character

instance : DecidablePred Text.Bare := fun text => List.decidableBAll _ text.toList

theorem Text.bare_append_iff {first second : String} :
    Bare (first ++ second) ↔ Bare first ∧ Bare second := by
  simp only [Bare, String.toList_append, List.forall_mem_append]

theorem Text.Bare.ofWord?_eq_none {word : String} (bare : Bare word) :
    Operator.ofWord? word = none := by
  unfold Operator.ofWord?
  split
  · rename_i sign single
    have unsigned : isOperatorSign sign = false := (bare sign (by simp [single])).2
    exact Option.not_isSome_iff_eq_none.mp (by simpa [isOperatorSign] using unsigned)
  · rfl

/-! ### The words of a line -/

namespace Words

/-- What a scan may give: an operator sign alone, or nothing but inner characters. -/
def IsWord (piece : List Char) : Prop :=
  (∃ sign, piece = [sign] ∧ isOperatorSign sign) ∨ ∀ character ∈ piece, Text.IsInner character

theorem isWord_of_mem_flush {carried piece : List Char}
    (inner : ∀ character ∈ carried, Text.IsInner character) (mem : piece ∈ flush carried) :
    IsWord piece := by
  unfold flush at mem
  split at mem
  · cases mem
  · rw [List.mem_singleton.mp mem]
    exact .inr fun character inside => inner character (List.mem_reverse.mp inside)

theorem isWord_of_mem_scan {carried characters piece : List Char}
    (inner : ∀ character ∈ carried, Text.IsInner character)
    (mem : piece ∈ scan carried characters) : IsWord piece := by
  have fresh : ∀ character ∈ ([] : List Char), Text.IsInner character := by simp
  induction characters generalizing carried with
  | nil => exact isWord_of_mem_flush inner mem
  | cons character rest inductionHypothesis =>
    rw [scan] at mem
    split at mem
    · rcases List.mem_append.mp mem with earlier | later
      · exact isWord_of_mem_flush inner earlier
      · exact inductionHypothesis fresh later
    · rename_i visible
      split at mem
      · rename_i sign
        rcases List.mem_append.mp mem with earlier | here
        · exact isWord_of_mem_flush inner earlier
        · rcases List.mem_cons.mp here with rfl | later
          · exact .inl ⟨character, rfl, sign⟩
          · exact inductionHypothesis fresh later
      · rename_i unsigned
        refine inductionHypothesis (List.forall_mem_cons.mpr ⟨⟨?_, ?_⟩, inner⟩) mem
        · simpa using visible
        · simpa using unsigned

/-- The words of a line are operators or bare. -/
theorem isOperator_or_bare {line word : String} (mem : word ∈ ofLine line) :
    isOperator word ∨ Text.Bare word := by
  obtain ⟨piece, pieceMem, rfl⟩ := List.mem_map.mp mem
  rcases isWord_of_mem_scan (by simp) pieceMem with ⟨sign, rfl, isSign⟩ | inner
  · left
    simpa [isOperator, Operator.ofWord?, isOperatorSign] using isSign
  · right
    simpa [Text.Bare] using inner

end Words

/-! ### Bare variables -/

namespace Variables

/-- Whether all names and values of variables are bare. -/
def Bare (store : Variables) : Prop :=
  ∀ pair ∈ store.entries, Text.Bare pair.1 ∧ Text.Bare pair.2.value

instance : DecidablePred Bare := fun store => List.decidableBAll _ store.entries

variable {store : Variables}

theorem Bare.value {name value : String} (bare : store.Bare)
    (defined : store.get? name = some value) : Text.Bare value := by
  obtain ⟨entry, found, rfl⟩ := Option.map_eq_some_iff.mp defined
  exact (bare (name, entry) (Association.mem_of_get? found)).2

/-- A word of a line that is expanded with bare variables is an operator or bare still. -/
theorem Bare.expandWord {word value : String} (bare : store.Bare)
    (isWord : isOperator word ∨ Text.Bare word) (expands : store.expandWord word = .ok value) :
    isOperator value ∨ Text.Bare value := by
  rcases expandWord_eq_ok_iff.mp expands with ⟨_, rfl⟩ | ⟨name, _, defined⟩
  · exact isWord
  · exact .inr (bare.value defined)

/-- What a line assigns with bare variables is bare. -/
theorem Bare.assignment? {line name value : String} (bare : store.Bare)
    (assigns : store.assignment? line = some (name, value)) :
    Text.Bare name ∧ Text.Bare value := by
  obtain ⟨word, mem, found, absent, nonempty⟩ := exists_of_assignment? assigns
  -- The first word may be a word of the line or the value of a variable, but no operator.
  rcases bare.expandWord (Words.isOperator_or_bare mem) found with operator | inner
  · have assigned : splitAssignment? (name ++ "=" ++ value) = some (name, value) :=
      splitAssignment?_eq_some_iff.mpr ⟨rfl, absent, nonempty⟩
    rw [isOperator, ofWord?_of_splitAssignment? assigned] at operator
    cases operator
  · rw [Text.bare_append_iff, Text.bare_append_iff] at inner
    exact ⟨inner.1.1, inner.2⟩

theorem Bare.after (bare : store.Bare) (line : String) :
    (store.after (store.assignment? line)).Bare := by
  have all : store.All fun name value => Text.Bare name ∧ Text.Bare value := bare
  exact all.after fun _ assigns => bare.assignment? assigns

end Variables

namespace Session

/-- A session whose variables are bare keeps them so, whatever its lines are and come to. So
operators stay where the lines have them. -/
theorem runEach_bare (system : System σ) (executor : Executor σ) (mode : OutputMode)
    (lines : List String) (session : Session σ) (bare : session.store.Bare) :
    (runEach system executor mode lines session).store.Bare ∧
      ∀ line words,
        (runEach system executor mode lines session).store.expand (Words.ofLine line) = .ok words →
        words.map Operator.ofWord? = (Words.ofLine line).map Operator.ofWord? := by
  have kept : (runEach system executor mode lines session).store.Bare :=
    store_runEach_induction system executor mode (fun _ line current => current.after line) lines
      session bare
  refine ⟨kept, fun line words expands => ?_⟩
  refine Variables.map_ofWord?_of_expand expands fun word _ name _ value defined => ?_
  exact (kept.value defined).ofWord?_eq_none

/-- A session with one variable, whose value is an assignment. -/
def setting : Session Nat where
  store := Variables.empty.exportAll [("SETTING", "NAME=a=b")]
  shell := .start 100

/-- The value of a variable can be what a line assigns, and a line that is cut at a sign assigns
what is before it. -/
theorem bare_setting :
    setting.store.Bare ∧
      let lines := ["$SETTING", "CUT=a|b"]
      let current :=
        runEach System.granting (fun _ _ shell => (.ok 0, shell)) .truncate lines setting
      current.store.Bare ∧ current.store.get? "NAME" = some "a=b" ∧
        current.store.get? "CUT" = some "a" ∧
        ∀ line words, current.store.expand (Words.ofLine line) = .ok words →
          words.map Operator.ofWord? = (Words.ofLine line).map Operator.ofWord? := by
  have bare : setting.store.Bare := by decide +kernel
  obtain ⟨kept, positions⟩ := runEach_bare System.granting (fun _ _ shell => (.ok 0, shell))
    .truncate ["$SETTING", "CUT=a|b"] setting bare
  refine ⟨bare, kept, ?_, ?_, positions⟩
  · rw [store_runEach]
    decide +kernel
  · rw [store_runEach]
    decide +kernel

end Session

end PipelineShell
