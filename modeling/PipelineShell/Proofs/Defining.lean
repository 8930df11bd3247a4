/-
Lines of settings that define a variable.

Such a line is the mark of a variable, a name, an equals sign and a value. Wherever it stands among
lines that are not bad, it gives the variable of this name this value and changes nothing else, and
lines with different names set different variables. This holds if the name does not begin with the
mark itself. If it does, all marks are dropped and not only the first one: the variable that is set
has another name, which may be that of another line, and a name of marks alone is refused.
-/

import PipelineShell.Proofs.Loading
import PipelineShell.Proofs.Overriding

namespace PipelineShell

namespace Text

/-! ### Texts with one more line -/

section

variable {α : Type} [DecidableEq α] {mark : α}

theorem addToPieces_append {pieces : List (List α)} (nonempty : pieces ≠ []) (item : α)
    (others : List (List α)) :
    addToPieces mark item (pieces ++ others) = addToPieces mark item pieces ++ others := by
  cases pieces with
  | nil => exact absurd rfl nonempty
  | cons piece rest =>
    by_cases same : item = mark
    · subst same
      rw [addToPieces_mark, addToPieces_mark, List.cons_append, List.cons_append, List.cons_append]
    · rw [List.cons_append, addToPieces_cons_of_ne same, addToPieces_cons_of_ne same,
        List.cons_append]

theorem cutAfter_ne_nil {items : List α} (nonempty : items ≠ []) : cutAfter mark items ≠ [] := by
  intro nothing
  have whole := flatten_cutAfter mark items
  rw [nothing] at whole
  exact nonempty whole.symm

/-- After a mark the cut begins anew. -/
theorem cutAfter_append (before rest : List α) :
    cutAfter mark (before ++ [mark] ++ rest) =
      cutAfter mark (before ++ [mark]) ++ cutAfter mark rest := by
  induction before with
  | nil => simp [addToPieces_mark]
  | cons item before inductionHypothesis =>
    rw [List.cons_append, List.cons_append, cutAfter_cons, inductionHypothesis,
      addToPieces_append (cutAfter_ne_nil (by simp)), cutAfter_cons]

end

/-- Whether a text is empty or ends in a line feed. -/
def Ended (text : String) : Prop := text = "" ∨ ∃ rest : String, text = rest ++ "\n"

/-- Whether a text has a line after `before` and in front of `after`. Its terminator may have a
carriage return, and a last line may have no terminator. -/
inductive Inserted (before line after : String) : String → Prop where
  | feed (ended : Ended before) : Inserted before line after (before ++ line ++ "\n" ++ after)
  | returnFeed (ended : Ended before) :
      Inserted before line after (before ++ line ++ "\r\n" ++ after)
  | last (ended : Ended before) (nothing : after = "") : Inserted before line after (before ++ line)

theorem textLines_append {before : String} (ended : Ended before) (rest : String) :
    textLines (before ++ rest) = textLines before ++ textLines rest := by
  rcases ended with rfl | ⟨start, rfl⟩
  · rw [String.empty_append]
    rfl
  · have feed : "\n".toList = ['\n'] := rfl
    simp only [textLines, String.toList_append, feed]
    rw [cutAfter_append, List.map_append]

/-- A line ends with the first line feed, and a carriage return before it is no part of the line. -/
theorem textLines_append_feed {line : String} (unbroken : '\n' ∉ line.toList) (after : String) :
    textLines (line ++ "\n" ++ after) = dropReturn line :: textLines after := by
  have characters : (line ++ "\n" ++ after).toList = line.toList ++ '\n' :: after.toList := by
    rw [String.toList_append, String.toList_append, List.append_assoc]
    rfl
  rw [textLines, characters, cutAfter_append_mark unbroken, List.map_cons, dropTerminator_append,
    String.ofList_toList, textLines]

theorem textLines_of_unbroken {line : String} (unbroken : '\n' ∉ line.toList)
    (nonempty : line ≠ "") : textLines line = [line] := by
  have whole := cutAfter_of_notMem unbroken (mt String.toList_eq_nil_iff.mp nonempty)
  rw [textLines, whole, List.map_singleton, dropTerminator_of_notMem unbroken, String.ofList_toList]

theorem dropReturn_append_return (line : String) : dropReturn (line ++ "\r") = line := by
  have characters : (line ++ "\r").toList = line.toList ++ ['\r'] := String.toList_append
  rw [dropReturn, characters, if_pos (by simp), List.dropLast_concat, String.ofList_toList]

theorem Inserted.textLines_eq {before line after text : String}
    (inserted : Inserted before line after text) (unbroken : '\n' ∉ line.toList)
    (kept : line.toList.getLast? ≠ some '\r') (nonempty : line ≠ "") :
    textLines text = textLines before ++ line :: textLines after ∧
      textLines (before ++ after) = textLines before ++ textLines after := by
  cases inserted with
  | feed ended =>
    refine ⟨?_, textLines_append ended after⟩
    rw [String.append_assoc, String.append_assoc, textLines_append ended, ← String.append_assoc,
      textLines_append_feed unbroken, dropReturn_of_ne kept]
  | returnFeed ended =>
    refine ⟨?_, textLines_append ended after⟩
    have regrouped : before ++ line ++ "\r\n" ++ after =
        before ++ (line ++ "\r" ++ "\n" ++ after) := by
      have terminator : "\r\n" = "\r" ++ "\n" := rfl
      rw [terminator]
      simp only [String.append_assoc]
    have unbrokenToo : '\n' ∉ (line ++ "\r").toList := by
      rw [String.toList_append, List.mem_append, not_or]
      exact ⟨unbroken, by decide⟩
    rw [regrouped, textLines_append ended, textLines_append_feed unbrokenToo,
      dropReturn_append_return]
  | last ended nothing =>
    subst nothing
    refine ⟨?_, textLines_append ended ""⟩
    rw [textLines_append ended, textLines_of_unbroken unbroken nonempty]
    rfl

/-- What is trimmed has no blanks at its end. -/
theorem trimEnd_of_trim {text : String} (trimmed : trim text = text) :
    trimEnd text.toList = text.toList := by
  have whole : trimEnd (trimStart text.toList) = text.toList := by
    rw [← String.toList_ofList (l := trimEnd _), ← trim, trimmed]
  have suffix : trimStart text.toList <:+ text.toList := List.dropWhile_suffix _
  have shorter : (trimEnd (trimStart text.toList)).length ≤ (trimStart text.toList).length := by
    rw [trimEnd, List.length_reverse, ← @List.length_reverse _ (trimStart text.toList)]
    exact (List.dropWhile_suffix _).length_le
  rw [whole] at shorter
  rwa [suffix.eq_of_length_le shorter] at whole

/-- A text stays trimmed when something visible is put in front of it. -/
theorem trim_append {text : String} (nonempty : text ≠ "") (trimmed : trim text = text)
    {first : Char} (visible : isBlank first = false) (rest : List Char) :
    trim (String.ofList (first :: rest) ++ text) = String.ofList (first :: rest) ++ text := by
  have ends := congrArg List.reverse (trimEnd_of_trim trimmed)
  rw [trimEnd, List.reverse_reverse] at ends
  have more : (text.toList.reverse.dropWhile isBlank).isEmpty = false := by
    rw [ends]
    simpa using nonempty
  rw [trim, String.toList_append, String.toList_ofList, List.cons_append, trimStart,
    List.dropWhile_cons_of_neg (by simp [visible]), ← List.cons_append, trimEnd, List.reverse_append,
    List.dropWhile_append, more, ends, ← String.toList_inj]
  simp

end Text

namespace Settings

/-! ### Lines that define -/

/-- The line that is to give a variable a value. -/
def definingLine (name value : String) : String := "env." ++ name ++ "=" ++ value

/-- What the name of a variable may be in a line that is to define it. -/
structure IsName (name : String) : Prop where
  nonempty : name ≠ ""
  noEquals : '=' ∉ name.toList
  unbroken : '\n' ∉ name.toList
  trimmed : Text.trim name = name

theorem toList_definingLine (name value : String) :
    (definingLine name value).toList = variableMark ++ name.toList ++ '=' :: value.toList := by
  rw [definingLine, String.toList_append, String.toList_append, String.toList_append,
    List.append_assoc]
  rfl

theorem unbroken_definingLine {name value : String} (isName : IsName name)
    (unbroken : '\n' ∉ value.toList) : '\n' ∉ (definingLine name value).toList := by
  rw [toList_definingLine]
  simp [variableMark, isName.unbroken, unbroken]

/-- A line that defines ends as its value does, or in the equals sign. -/
theorem getLast?_definingLine (name value : String) :
    (definingLine name value).toList.getLast? = some (value.toList.getLast?.getD '=') := by
  rw [toList_definingLine, List.getLast?_append_of_ne_nil _ (List.cons_ne_nil _ _),
    List.getLast?_cons]

theorem IsName.trim_mark {name : String} (isName : IsName name) :
    Text.trim ("env." ++ name) = "env." ++ name :=
  Text.trim_append isName.nonempty isName.trimmed (by decide) ['n', 'v', '.']

theorem IsName.keyed {name : String} (isName : IsName name) (value : String) :
    Keyed ("env." ++ name) value (definingLine name value) := by
  refine ⟨"env." ++ name, rfl, ?_, isName.trim_mark⟩
  rw [String.toList_append, List.mem_append, not_or]
  exact ⟨by decide, isName.noEquals⟩

theorem not_silent_definingLine (name value : String) : ¬ Silent (definingLine name value) := by
  rw [← isSilent_iff, isSilent, toList_definingLine]
  have visible : Text.isBlank 'e' = false := by decide
  simp [Text.trimStart, variableMark, visible]

theorem IsName.sets {name bare : String} (isName : IsName name)
    (marked : Marked ("env." ++ name) bare) (nonempty : bare ≠ "") (value : String) :
    Sets (definingLine name value) (.define bare value) :=
  ⟨not_silent_definingLine name value, .define (isName.keyed value) marked nonempty⟩

theorem IsName.bad {name : String} (isName : IsName name) (marked : Marked ("env." ++ name) "")
    (value : String) : Bad (definingLine name value) .emptyName :=
  ⟨not_silent_definingLine name value, .emptyName (isName.keyed value) marked⟩

/-- What a line sets is determined. -/
theorem Sets.eq {line : String} {first second : Change} (setsFirst : Sets line first)
    (setsSecond : Sets line second) : first = second :=
  Option.some.inj ((change?_eq_some_iff.mpr setsFirst).symm.trans (change?_eq_some_iff.mpr setsSecond))

/-- A name without a mark at its start is all that follows the mark of its line. -/
theorem marked_of_unmarked {name : String} (unmarked : ¬ variableMark <+: name.toList) :
    Marked ("env." ++ name) name :=
  ⟨0, by rw [String.toList_append]; rfl, unmarked⟩

/-! ### What a line adds -/

/-- Whether settings are these others but for one variable, which has this value unless a later line
sets it. -/
structure Adds (name value : String) (later : List String) (others settings : Settings) : Prop where
  defined : (∀ line ∈ later, ∀ change, Sets line change → change.field ≠ .definition name) →
    Association.get? name settings.definitions = some value
  overridden : ∀ change, SetsLast later (.definition name) change →
    settings.saying? (.definition name) = some change
  unchanged : ∀ field, field ≠ .definition name → settings.saying? field = others.saying? field

theorem saying?_applyAll_of_none {lines : List String} {field : Field}
    (none : ∀ line ∈ lines, ∀ change, Sets line change → change.field ≠ field)
    (settings : Settings) :
    (settings.applyAll (lines.filterMap change?)).saying? field = settings.saying? field := by
  rcases saying?_applyAll lines settings field with ⟨change, setsLast, -⟩ | ⟨-, same⟩
  · obtain ⟨before, line, after, rfl, sets, same, -⟩ := setsLast
    exact absurd same (none line (by simp) change sets)
  · exact same

theorem SetsLast.saying?_applyAll {lines : List String} {field : Field} {change : Change}
    (setsLast : SetsLast lines field change) (settings : Settings) :
    (settings.applyAll (lines.filterMap change?)).saying? field = some change := by
  obtain ⟨before, line, after, rfl, sets, rfl, later⟩ := setsLast
  rw [List.filterMap_append, List.filterMap_cons_some (change?_eq_some_iff.mpr sets),
    applyAll, List.foldl_append, List.foldl_cons]
  exact (saying?_applyAll_of_none later _).trans (saying?_apply_self _ _)

/-- Fields that are the same before some lines are the same after them. -/
theorem saying?_applyAll_congr {first second : Settings} {field : Field}
    (same : first.saying? field = second.saying? field) (lines : List String) :
    (first.applyAll (lines.filterMap change?)).saying? field =
      (second.applyAll (lines.filterMap change?)).saying? field := by
  rcases saying?_applyAll lines first field with ⟨change, setsLast, found⟩ | ⟨none, unchanged⟩
  · rw [found, setsLast.saying?_applyAll second]
  · rw [unchanged, saying?_applyAll_of_none none, same]

theorem adds_applyAll {line name value : String} (sets : Sets line (.define name value))
    (before after : List String) :
    Adds name value after (Settings.default.applyAll ((before ++ after).filterMap change?))
      (Settings.default.applyAll ((before ++ line :: after).filterMap change?)) := by
  let start := Settings.default.applyAll (before.filterMap change?)
  have without : Settings.default.applyAll ((before ++ after).filterMap change?) =
      start.applyAll (after.filterMap change?) := by
    rw [List.filterMap_append, applyAll, List.foldl_append]
    rfl
  have withLine : Settings.default.applyAll ((before ++ line :: after).filterMap change?) =
      (start.apply (.define name value)).applyAll (after.filterMap change?) := by
    rw [List.filterMap_append, List.filterMap_cons_some (change?_eq_some_iff.mpr sets), applyAll,
      List.foldl_append]
    rfl
  rw [without, withLine]
  constructor
  case defined =>
    intro none
    have said := (saying?_applyAll_of_none none (start.apply (.define name value))).trans
      (saying?_apply_self start (.define name value))
    simpa [saying?, Change.field] using said
  case overridden => exact fun change setsLast => setsLast.saying?_applyAll _
  case unchanged =>
    exact fun field other => saying?_applyAll_congr (saying?_apply_of_ne start other) after

/-- What a text gives in which a line is to define a variable, compared with the text without the
line, which gives some settings. -/
structure Defines (name value before after : String) (others : Settings)
    (result : Except SettingsError Settings) : Prop where
  /-- A name that does not begin with the mark is that of the variable that the line defines. -/
  plain : ¬ variableMark <+: name.toList →
    ∃ settings, result = .ok settings ∧ Adds name value (Text.textLines after) others settings
  /-- Lines with different names of this kind set different variables. -/
  apart : ¬ variableMark <+: name.toList → ∀ other otherValue, IsName other →
    ¬ variableMark <+: other.toList → name ≠ other → ∀ change otherChange,
      Sets (definingLine name value) change → Sets (definingLine other otherValue) otherChange →
        change.field ≠ otherChange.field
  /-- Otherwise the name of the variable is what is left without the marks. -/
  marked : ∀ bare, Marked ("env." ++ name) bare → bare ≠ "" →
    ∃ settings, result = .ok settings ∧ Adds bare value (Text.textLines after) others settings
  /-- A name of marks alone is refused. -/
  refused : Marked ("env." ++ name) "" →
    result = .error (.badLine ((Text.textLines before).length + 1) .emptyName)

/-- A line defines the variable whose name it holds, and nothing else, unless the name begins with
the mark of a variable. -/
theorem ofText_defines {name value before after text : String} {others : Settings}
    (isName : IsName name) (unbroken : '\n' ∉ value.toList)
    (kept : value.toList.getLast? ≠ some '\r')
    (inserted : Text.Inserted before (definingLine name value) after text)
    (rest : ofText (before ++ after) = .ok others) :
    Defines name value before after others (ofText text) := by
  have lineKept : (definingLine name value).toList.getLast? ≠ some '\r' := by
    rw [getLast?_definingLine]
    cases last : value.toList.getLast? with
    | none => simp
    | some character => exact last ▸ kept
  have lineNonempty : definingLine name value ≠ "" := by
    rw [ne_eq, ← String.toList_eq_nil_iff, toList_definingLine]
    exact List.append_ne_nil_of_right_ne_nil _ (List.cons_ne_nil _ _)
  obtain ⟨cut, cutWithout⟩ :=
    inserted.textLines_eq (unbroken_definingLine isName unbroken) lineKept lineNonempty
  have fine := not_bad_of_ofText rest
  rw [cutWithout, List.forall_mem_append] at fine
  have marked : ∀ bare, Marked ("env." ++ name) bare → bare ≠ "" →
      ∃ settings, ofText text = .ok settings ∧
        Adds bare value (Text.textLines after) others settings := by
    intro bare marked nonempty
    have sets := isName.sets marked nonempty value
    have allFine : ∀ line ∈ Text.textLines text, ∀ fault, ¬ Bad line fault := by
      rw [cut, List.forall_mem_append, List.forall_mem_cons]
      refine ⟨fine.1, fun fault bad => ?_, fine.2⟩
      have read := readLine_eq_some_iff.mpr sets
      rw [readLine_eq_error_iff.mpr bad] at read
      cases read
    refine ⟨_, ofText_of_not_bad allFine, ?_⟩
    rw [eq_applyAll_of_ofText rest, cut, cutWithout]
    exact adds_applyAll sets _ _
  constructor
  case plain => exact fun unmarked => marked name (marked_of_unmarked unmarked) isName.nonempty
  case apart =>
    intro unmarked other otherValue isOther unmarkedOther different change otherChange sets setsOther
    obtain rfl := sets.eq (isName.sets (marked_of_unmarked unmarked) isName.nonempty value)
    obtain rfl :=
      setsOther.eq (isOther.sets (marked_of_unmarked unmarkedOther) isOther.nonempty otherValue)
    exact fun same => different (Field.definition.inj same)
  case marked => exact marked
  case refused => exact fun marksOnly => ofText_of_bad cut fine.1 (isName.bad marksOnly value)

/-- A name may hold blanks, dots and marks, and a value blanks and equals signs. -/
theorem defines_spacedName :
    let name := "a b.env.c"
    let value := " x = y "
    let before := "# none\n"
    let after := "env.c=1"
    let others := { Settings.default with definitions := [("c", "1")] }
    IsName name ∧ '\n' ∉ value.toList ∧ value.toList.getLast? ≠ some '\r' ∧
      Text.Inserted before (definingLine name value) after
        "# none\nenv.a b.env.c= x = y \r\nenv.c=1" ∧
      ofText (before ++ after) = .ok others ∧
      Defines name value before after others (ofText "# none\nenv.a b.env.c= x = y \r\nenv.c=1") := by
  intro name value before after others
  have isName : IsName name := ⟨by decide, by decide, by decide, by decide +kernel⟩
  have inserted : Text.Inserted before (definingLine name value) after
      "# none\nenv.a b.env.c= x = y \r\nenv.c=1" := .returnFeed (.inr ⟨"# none", rfl⟩)
  have lines : Text.textLines (before ++ after) = ["# none", "env.c=1"] := by decide +kernel
  have rest : ofText (before ++ after) = .ok others := by
    rw [ofText, lines]
    rfl
  exact ⟨isName, by decide, by decide, inserted, rest,
    ofText_defines isName (by decide) (by decide) inserted rest⟩

/-- A name that begins with the mark loses it. The line does not define a variable of this name but
another one, which the line that has just the other name sets too. -/
theorem defines_withoutMark :
    IsName "env.X" ∧ IsName "X" ∧
      Text.Inserted "" (definingLine "env.X" "1") "" "env.env.X=1" ∧
      ofText ("" ++ "") = .ok Settings.default ∧
      ofText "env.env.X=1" = .ok { Settings.default with definitions := [("X", "1")] } ∧
      Association.get? "env.X" [("X", "1")] = none ∧
      Sets (definingLine "env.X" "1") (.define "X" "1") ∧
      Sets (definingLine "X" "2") (.define "X" "2") := by
  have isMarked : IsName "env.X" := ⟨by decide, by decide, by decide, by decide +kernel⟩
  have isBare : IsName "X" := ⟨by decide, by decide, by decide, by decide +kernel⟩
  have lines : Text.textLines "env.env.X=1" = ["env.env.X=1"] := by decide +kernel
  refine ⟨isMarked, isBare, .last (.inl rfl) rfl, rfl, ?_, by decide,
    isMarked.sets ⟨1, by decide, by decide⟩ (by decide) "1",
    isBare.sets (marked_of_unmarked (by decide)) (by decide) "2"⟩
  rw [ofText, lines]
  rfl

end Settings

end PipelineShell
