/-
Words survive being written out and read again.

A list of texts is what some line is cut into exactly if each text is an operator or a word that
nothing cuts. One direction is the invariant of the scan: it carries no separator, and it never
flushes an empty word. For the other direction there is a line to be found, and the plainest one
will do: the words themselves with a space between any two of them. So the cut of a line can be
written out and cut again as often as one likes.
-/

import PipelineShell.Proofs.Separation

namespace PipelineShell

/-- A word is an operator exactly when it is the text of one. -/
theorem isOperator_iff_exists_text {word : String} :
    isOperator word ↔ ∃ operator : Operator, word = operator.text := by
  simp only [isOperator, Option.isSome_iff_exists, Operator.ofWord?_eq_some_iff]

namespace Words

/-- Whether a text can be a word of a line: an operator, or something that nothing cuts. -/
def IsWhole (word : String) : Prop :=
  (∃ operator : Operator, word = operator.text) ∨ word ≠ "" ∧ Text.Bare word

instance : DecidablePred IsWhole := fun word =>
  decidable_of_iff (isOperator word ∨ word ≠ "" ∧ Text.Bare word)
    (or_congr_left isOperator_iff_exists_text)

/-! ### The words of a line are whole -/

theorem ne_nil_of_mem_flush {carried piece : List Char} (mem : piece ∈ flush carried) :
    piece ≠ [] := by
  unfold flush at mem
  split at mem
  · cases mem
  · rename_i carries
    rw [List.mem_singleton.mp mem]
    simpa using carries

/-- A scan flushes only what it carries. -/
theorem ne_nil_of_mem_scan {carried characters piece : List Char}
    (mem : piece ∈ scan carried characters) : piece ≠ [] := by
  fun_induction scan carried characters with
  | case1 carried => exact ne_nil_of_mem_flush mem
  | case2 carried character rest blank inductionHypothesis =>
    rcases List.mem_append.mp mem with earlier | later
    · exact ne_nil_of_mem_flush earlier
    · exact inductionHypothesis later
  | case3 carried character rest visible sign inductionHypothesis =>
    rcases List.mem_append.mp mem with earlier | here
    · exact ne_nil_of_mem_flush earlier
    · rcases List.mem_cons.mp here with rfl | later
      · exact List.cons_ne_nil _ _
      · exact inductionHypothesis later
  | case4 carried character rest visible unsigned inductionHypothesis =>
    exact inductionHypothesis mem

theorem ne_empty_of_mem_ofLine {line word : String} (mem : word ∈ ofLine line) : word ≠ "" := by
  obtain ⟨piece, pieceMem, rfl⟩ := List.mem_map.mp mem
  simpa using ne_nil_of_mem_scan pieceMem

theorem isWhole_of_mem_ofLine {line word : String} (mem : word ∈ ofLine line) : IsWhole word :=
  (isOperator_or_bare mem).imp isOperator_iff_exists_text.mp
    fun bare => ⟨ne_empty_of_mem_ofLine mem, bare⟩

/-! ### Whole words are the words of a line -/

/-- A whole word is cut into itself. -/
theorem IsWhole.ofLine_eq {word : String} (whole : IsWhole word) : ofLine word = [word] := by
  rcases whole with ⟨operator, rfl⟩ | ⟨nonempty, bare⟩
  · have alone := ofLine_append_operator operator "" ""
    rwa [String.empty_append, String.append_empty] at alone
  · exact ofLine_of_bare nonempty bare

/-- Whole words with a space between any two of them are cut into themselves. -/
theorem ofLine_intercalate {words : List String} (whole : ∀ word ∈ words, IsWhole word) :
    ofLine (" ".intercalate words) = words := by
  induction words with
  | nil =>
    rw [String.intercalate_nil]
    rfl
  | cons word rest inductionHypothesis =>
    obtain ⟨wholeFirst, wholeRest⟩ := List.forall_mem_cons.mp whole
    by_cases alone : rest = []
    · subst alone
      rw [String.intercalate_singleton, wholeFirst.ofLine_eq]
    · have blank : Text.isBlank ' ' := by decide
      have space : ' '.toString = " " := rfl
      rw [String.intercalate_cons_of_ne_nil alone, ← space, ofLine_append_blank blank, space,
        inductionHypothesis wholeRest, wholeFirst.ofLine_eq]
      rfl

/-- Of whole words, the operators are those that hold the sign of one. -/
theorem IsWhole.isOperator_iff {word : String} (whole : IsWhole word) :
    isOperator word ↔ ∃ character ∈ word.toList, isOperatorSign character := by
  rcases whole with ⟨operator, rfl⟩ | ⟨nonempty, bare⟩
  · refine iff_of_true (isOperator_iff_exists_text.mpr ⟨operator, rfl⟩) ⟨operator.sign, ?_, ?_⟩
    · simp [Operator.text]
    · exact operator.isOperatorSign_sign
  · refine iff_of_false ?_ ?_
    · rw [isOperator, bare.ofWord?_eq_none]
      exact Bool.false_ne_true
    · rintro ⟨character, inside, sign⟩
      rw [(bare character inside).2] at sign
      exact Bool.false_ne_true sign

/-- The lists of words that lines are cut into are those of whole words. Each of them is written out
with single spaces and cut into the same words again, and so are the words of any line. Among the
words of a line, it is enough to look for an operator sign to know the operators. -/
theorem ofLine_rereads (words : List String) (line : String) :
    ((∃ source, ofLine source = words) ↔ ∀ word ∈ words, IsWhole word) ∧
    ((∀ word ∈ words, IsWhole word) → ofLine (" ".intercalate words) = words) ∧
    ofLine (" ".intercalate (ofLine line)) = ofLine line ∧
    ∀ word ∈ ofLine line,
      isOperator word ↔ ∃ character ∈ word.toList, isOperatorSign character := by
  refine ⟨⟨?_, fun whole => ⟨_, ofLine_intercalate whole⟩⟩, ofLine_intercalate,
    ofLine_intercalate fun word mem => isWhole_of_mem_ofLine mem,
    fun word mem => (isWhole_of_mem_ofLine mem).isOperator_iff⟩
  rintro ⟨source, rfl⟩ word mem
  exact isWhole_of_mem_ofLine mem

/-- Operators next to each other stay apart, and an assignment with an empty value is one word. -/
theorem rereads_adjacent :
    let words := ["A=", "<", ">", "été", "|", "|"]
    (∀ word ∈ words, IsWhole word) ∧ (∃ source, ofLine source = words) ∧
      ofLine "A= < > été | |" = words ∧ "|" ∈ ofLine "A=<>été||" ∧ isOperator "|" := by
  intro words
  have whole : ∀ word ∈ words, IsWhole word := by decide
  obtain ⟨lines, written, _, operators⟩ := ofLine_rereads words "A=<>été||"
  have mem : "|" ∈ ofLine "A=<>été||" := by decide
  exact ⟨whole, lines.mpr whole, written whole, mem, (operators "|" mem).mpr ⟨'|', by decide⟩⟩

end Words

end PipelineShell
