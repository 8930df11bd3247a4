/-
Words come apart at separators.

The scan of a line carries the characters of one word, and a separator always ends that word. So
nothing is carried over a blank or an operator sign: the words before a separator are those of the
text before it, and the words after it are those of the text after it. What this file proves for
one separator gives the same for any number of blanks around an operator, and in the end all words
together are the line without its blanks.
-/

import PipelineShell.Proofs.Bareness

namespace PipelineShell

namespace Operator

theorem isBlank_sign (operator : Operator) : Text.isBlank operator.sign = false := by
  rcases operator with _ | direction | _
  · decide
  · cases direction <;> decide
  · decide

theorem isOperatorSign_sign (operator : Operator) : isOperatorSign operator.sign := by
  rw [isOperatorSign, ofSign?_sign]
  rfl

end Operator

/-- Whether a text holds nothing but blanks. -/
def Text.Blank (text : String) : Prop := ∀ character ∈ text.toList, isBlank character

instance : DecidablePred Text.Blank := fun text => List.decidableBAll _ text.toList

/-- A text without its blanks. -/
def Text.visible (text : String) : String :=
  String.ofList (text.toList.filter fun character => !isBlank character)

namespace Words

/-! ### Scanning between separators -/

/-- Inner characters are carried on. -/
theorem scan_of_inner {characters : List Char}
    (inner : ∀ character ∈ characters, Text.IsInner character) (carried : List Char) :
    scan carried characters = flush (characters.reverse ++ carried) := by
  induction characters generalizing carried with
  | nil => rfl
  | cons character rest inductionHypothesis =>
    obtain ⟨⟨visible, unsigned⟩, innerLater⟩ := List.forall_mem_cons.mp inner
    rw [scan, visible, unsigned, if_neg Bool.false_ne_true, if_neg Bool.false_ne_true,
      inductionHypothesis innerLater, List.reverse_cons, List.append_assoc]
    rfl

/-- Blanks before a text give no words. -/
theorem scan_blanks_append {blanks : List Char}
    (areBlank : ∀ character ∈ blanks, Text.isBlank character) (after : List Char) :
    scan [] (blanks ++ after) = scan [] after := by
  induction blanks with
  | nil => rfl
  | cons blank rest inductionHypothesis =>
    obtain ⟨isBlank, blankLater⟩ := List.forall_mem_cons.mp areBlank
    rw [List.cons_append, scan, if_pos isBlank, inductionHypothesis blankLater]
    rfl

/-- Blanks after a text give no words. -/
theorem scan_append_blanks {blanks : List Char}
    (areBlank : ∀ character ∈ blanks, Text.isBlank character) (carried before : List Char) :
    scan carried (before ++ blanks) = scan carried before := by
  cases blanks with
  | nil => rw [List.append_nil]
  | cons blank rest =>
    obtain ⟨isBlank, blankLater⟩ := List.forall_mem_cons.mp areBlank
    have nothing : scan [] rest = [] := by
      have skipped := scan_blanks_append blankLater []
      rwa [List.append_nil] at skipped
    rw [scan_append_blank isBlank, nothing, List.append_nil]

theorem flatten_flush (carried : List Char) : (flush carried).flatten = carried.reverse := by
  unfold flush
  split
  · rename_i empty
    rw [List.isEmpty_iff.mp empty]
    rfl
  · exact List.flatten_singleton

/-- A scan drops the blanks and keeps every other character in its place. -/
theorem flatten_scan (carried characters : List Char) :
    (scan carried characters).flatten =
      carried.reverse ++ characters.filter fun character => !Text.isBlank character := by
  induction characters generalizing carried with
  | nil => rw [scan, flatten_flush, List.filter_nil, List.append_nil]
  | cons character rest inductionHypothesis =>
    rw [scan]
    split
    · rename_i blank
      rw [List.flatten_append, flatten_flush, inductionHypothesis, List.filter_cons_of_neg]
      · rfl
      · simpa using blank
    · rename_i visible
      have kept : (character :: rest).filter (fun character => !Text.isBlank character) =
          character :: rest.filter fun character => !Text.isBlank character :=
        List.filter_cons_of_pos (by simpa using visible)
      rw [kept]
      split
      · rw [List.flatten_append, flatten_flush, List.flatten_cons, inductionHypothesis]
        rfl
      · rw [inductionHypothesis, List.reverse_cons, List.append_assoc]
        rfl

/-! ### The words of a line -/

theorem ofLine_append_blank {blank : Char} (isBlank : Text.isBlank blank) (before after : String) :
    ofLine (before ++ blank.toString ++ after) = ofLine before ++ ofLine after := by
  have characters : (before ++ blank.toString ++ after).toList =
      before.toList ++ blank :: after.toList := by simp
  rw [ofLine, characters, scan_append_blank isBlank, List.map_append]
  rfl

theorem ofLine_append_operator (operator : Operator) (before after : String) :
    ofLine (before ++ operator.text ++ after) =
      ofLine before ++ operator.text :: ofLine after := by
  have characters : (before ++ operator.text ++ after).toList =
      before.toList ++ operator.sign :: after.toList := by simp [Operator.text]
  rw [ofLine, characters, scan_append_sign operator.isBlank_sign operator.isOperatorSign_sign,
    List.map_append]
  rfl

theorem ofLine_append_blanks {blanks : String} (areBlank : Text.Blank blanks) (before : String) :
    ofLine (before ++ blanks) = ofLine before := by
  rw [ofLine, String.toList_append, scan_append_blanks areBlank]
  rfl

theorem ofLine_blanks_append {blanks : String} (areBlank : Text.Blank blanks) (after : String) :
    ofLine (blanks ++ after) = ofLine after := by
  rw [ofLine, String.toList_append, scan_blanks_append areBlank]
  rfl

/-- A text that nothing cuts is one word. -/
theorem ofLine_of_bare {word : String} (nonempty : word ≠ "") (bare : Text.Bare word) :
    ofLine word = [word] := by
  have carries : word.toList.reverse.isEmpty = false := by simpa using nonempty
  rw [ofLine, scan_of_inner bare, List.append_nil, flush, carries, if_neg Bool.false_ne_true,
    List.reverse_reverse, List.map_singleton, String.ofList_toList]

/-- Blanks around an operator make no difference. -/
theorem ofLine_spaced {leading trailing : String} (blankBefore : Text.Blank leading)
    (blankAfter : Text.Blank trailing) (operator : Operator) (before after : String) :
    ofLine (before ++ leading ++ operator.text ++ trailing ++ after) =
      ofLine (before ++ operator.text ++ after) := by
  have regrouped : before ++ leading ++ operator.text ++ trailing ++ after =
      before ++ leading ++ operator.text ++ (trailing ++ after) := String.append_assoc
  rw [regrouped, ofLine_append_operator, ofLine_append_blanks blankBefore,
    ofLine_blanks_append blankAfter, ← ofLine_append_operator]

/-- All words together are the line without its blanks. -/
theorem join_ofLine (line : String) : String.join (ofLine line) = Text.visible line := by
  rw [← String.toList_inj, String.toList_join, ofLine, List.flatMap_map, Text.visible,
    String.toList_ofList]
  have pieces : (scan [] line.toList).flatMap (fun piece => (String.ofList piece).toList) =
      (scan [] line.toList).flatten := by
    simp only [String.toList_ofList, List.flatMap_id']
  rw [pieces, flatten_scan]
  rfl

/-- The words of a line hold only characters of the line. -/
theorem mem_of_mem_ofLine {line word : String} (mem : word ∈ ofLine line) {character : Char}
    (inside : character ∈ word.toList) : character ∈ line.toList := by
  have joined : character ∈ (String.join (ofLine line)).toList := by
    rw [String.toList_join]
    exact List.mem_flatMap.mpr ⟨word, mem, inside⟩
  rw [join_ofLine, Text.visible, String.toList_ofList] at joined
  exact List.mem_of_mem_filter joined

/-- The words of a line come apart at every separator: a blank belongs to no word, an operator is a
word of its own, and what is on one side does not matter to the other. A text without separators is
one word. So blanks next to an operator make no difference, and no character but a blank is lost or
moved. -/
theorem ofLine_separates (before after : String) :
    (∀ blank : Char, Text.isBlank blank →
      ofLine (before ++ blank.toString ++ after) = ofLine before ++ ofLine after) ∧
    (∀ operator : Operator,
      ofLine (before ++ operator.text ++ after) =
        ofLine before ++ [operator.text] ++ ofLine after) ∧
    (before ≠ "" → Text.Bare before → ofLine before = [before]) ∧
    (∀ (operator : Operator) (leading trailing : String),
      Text.Blank leading → Text.Blank trailing →
        ofLine (before ++ leading ++ operator.text ++ trailing ++ after) =
          ofLine (before ++ operator.text ++ after)) ∧
    String.join (ofLine before) = Text.visible before := by
  refine ⟨fun blank isBlank => ofLine_append_blank isBlank before after, fun operator => ?_,
    ofLine_of_bare, fun operator leading trailing blankBefore blankAfter =>
      ofLine_spaced blankBefore blankAfter operator before after, join_ofLine before⟩
  rw [List.append_assoc]
  exact ofLine_append_operator operator before after

/-- A no-break space and a line separator are blanks, and an equals sign separates nothing. -/
theorem separates_option :
    Text.isBlank '\u00a0' ∧ "--color=auto" ≠ "" ∧ Text.Bare "--color=auto" ∧
      Text.Blank " \u2028" ∧ Text.Blank "" ∧
      ofLine ("--color=auto" ++ '\u00a0'.toString ++ "x>y") =
        ofLine "--color=auto" ++ ofLine "x>y" ∧
      ofLine "--color=auto" = ["--color=auto"] ∧
      ofLine ("--color=auto" ++ " \u2028" ++ Operator.pipe.text ++ "" ++ "x>y") =
        ofLine ("--color=auto" ++ Operator.pipe.text ++ "x>y") := by
  have blank : Text.isBlank '\u00a0' := by decide
  have nonempty : "--color=auto" ≠ "" := by decide
  have bare : Text.Bare "--color=auto" := by decide
  have spaces : Text.Blank " \u2028" := by decide
  have nothing : Text.Blank "" := by decide
  obtain ⟨atBlank, _, whole, spaced, _⟩ := ofLine_separates "--color=auto" "x>y"
  exact ⟨blank, nonempty, bare, spaces, nothing, atBlank _ blank, whole nonempty bare,
    spaced .pipe _ _ spaces nothing⟩

end Words

end PipelineShell
