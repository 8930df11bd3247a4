/-
How the lines of settings override each other.

A line of settings says nothing, is bad, or sets one field: the prompt, the level or the file of the
journal, the output mode, or one variable. What a line says depends on nothing but the line. So the
first bad line decides how loading fails, wherever it is, and if there is none each field has what
the last line that sets it says. Silent lines can be left out, and lines that set different fields
can change places: the settings stay the same, but for the order in which they list the variables,
which is not one of their fields.
-/

import PipelineShell.Proofs.SearchPath
import PipelineShell.Proofs.Separation
import PipelineShell.Startup

namespace PipelineShell

/-! ### Names of levels and modes -/

theorem Threshold.mem_all (threshold : Threshold) : threshold ∈ all := by
  rcases threshold with _ | level
  · decide
  · cases level <;> decide

/-- No two levels have the same name. -/
theorem Threshold.name_inj {first second : Threshold} :
    first.name = second.name ↔ first = second := by
  refine ⟨fun same => ?_, congrArg name⟩
  have distinct : ∀ one ∈ all, ∀ other ∈ all, one.name = other.name → one = other := by decide
  exact distinct first first.mem_all second second.mem_all same

theorem Threshold.ofName?_eq_some_iff {text : String} {threshold : Threshold} :
    ofName? text = some threshold ↔ threshold.name.toList = text.toList.map Char.toUpper := by
  constructor
  · exact fun found => by simpa using List.find?_some found
  · intro named
    cases found : ofName? text with
    | none =>
      have missed := List.find?_eq_none.mp found threshold threshold.mem_all
      exact absurd named (by simpa using missed)
    | some other =>
      have namedToo : other.name.toList = text.toList.map Char.toUpper := by
        simpa using List.find?_some found
      rw [name_inj.mp (String.toList_inj.mp (namedToo.trans named.symm))]

theorem OutputMode.ofName?_eq_some_iff {text : String} {mode : OutputMode} :
    ofName? text = some mode ↔ text = mode.name := by
  constructor
  · exact fun found => (by simpa using List.find?_some found : mode.name = text).symm
  · rintro rfl
    cases mode <;> decide

namespace Settings

/-! ### What one line says -/

/-- Whether a line says nothing: it is blank, or its first visible character is a number sign. -/
def Silent (line : String) : Prop :=
  Text.Blank line ∨ ∃ blanks rest : String, Text.Blank blanks ∧ line = blanks ++ "#" ++ rest

/-- Whether a line has this key, without the blanks around it, and this value: they are what stands
before and after the first equals sign. -/
def Keyed (key value line : String) : Prop :=
  ∃ written : String, line = written ++ "=" ++ value ∧ '=' ∉ written.toList ∧
    Text.trim written = key

/-- Whether a key is the mark of a variable, once or more often, and then this name. -/
def Marked (key name : String) : Prop :=
  ∃ count, key.toList = (List.replicate (count + 1) variableMark).flatten ++ name.toList ∧
    ¬ variableMark <+: name.toList

/-- The keys that name no variable. -/
def plainKeys : List String := ["prompt", "log_level", "log_file", "output_mode"]

/-- What a line with an equals sign sets. -/
inductive Asks (line : String) : Change → Prop where
  | prompt {value : String} (keyed : Keyed "prompt" value line) : Asks line (.prompt value)
  | threshold {value : String} {threshold : Threshold} (keyed : Keyed "log_level" value line)
      (known : threshold.name.toList = (Text.trim value).toList.map Char.toUpper) :
      Asks line (.threshold threshold)
  | journalFile {value : String} (keyed : Keyed "log_file" value line)
      (given : Text.trim value ≠ "") : Asks line (.journalFile (some (Text.trim value)))
  | noJournalFile {value : String} (keyed : Keyed "log_file" value line)
      (nothing : Text.trim value = "") : Asks line (.journalFile none)
  | outputMode {value : String} {mode : OutputMode} (keyed : Keyed "output_mode" value line)
      (known : Text.trim value = mode.name) : Asks line (.outputMode mode)
  | define {key name value : String} (keyed : Keyed key value line) (marked : Marked key name)
      (nonempty : name ≠ "") : Asks line (.define name value)

/-- What is wrong with a line that says something. -/
inductive Wrong (line : String) : LineFault → Prop where
  | noEquals (absent : '=' ∉ line.toList) : Wrong line (.noEquals line)
  | badLevel {value : String} (keyed : Keyed "log_level" value line)
      (unknown : ∀ threshold : Threshold,
        threshold.name.toList ≠ (Text.trim value).toList.map Char.toUpper) :
      Wrong line (.badLevel line)
  | badMode {value : String} (keyed : Keyed "output_mode" value line)
      (unknown : ∀ mode : OutputMode, Text.trim value ≠ mode.name) : Wrong line (.badMode line)
  | emptyName {key value : String} (keyed : Keyed key value line) (marked : Marked key "") :
      Wrong line .emptyName
  | unknownKey {key value : String} (keyed : Keyed key value line) (unknown : key ∉ plainKeys)
      (unmarked : ¬ variableMark <+: key.toList) : Wrong line (.unknownKey key)

theorem isSilent_iff {line : String} : isSilent line = true ↔ Silent line := by
  have cut : Text.trimStart line.toList = line.toList.dropWhile Text.isBlank := rfl
  unfold isSilent Silent
  rw [cut]
  constructor
  · intro silent
    split at silent
    · rename_i nothing
      exact .inl (List.dropWhile_eq_nil_iff.mp nothing)
    · rename_i first rest found
      obtain rfl : first = '#' := by simpa using silent
      refine .inr ⟨String.ofList (line.toList.takeWhile Text.isBlank), String.ofList rest,
        fun character mem => ?_, ?_⟩
      · rw [String.toList_ofList] at mem
        exact List.mem_takeWhile_imp mem
      · rw [← String.toList_inj]
        conv_lhs => rw [← List.takeWhile_append_dropWhile (p := Text.isBlank) (l := line.toList)]
        rw [found]
        simp
  · rintro (blank | ⟨blanks, rest, blank, rfl⟩)
    · rw [List.dropWhile_eq_nil_iff.mpr blank]
    · have visible : (blanks ++ "#" ++ rest).toList.dropWhile Text.isBlank =
          '#' :: rest.toList := by
        rw [String.toList_append, String.toList_append, List.append_assoc,
          List.dropWhile_append_of_pos blank]
        rfl
      rw [visible]
      rfl

/-! ### Marks of variables -/

theorem dropMarks_of_marks (count : Nat) (name : List Char) :
    dropMarks ((List.replicate count variableMark).flatten ++ name) = dropMarks name := by
  induction count with
  | zero => rfl
  | succ count inductionHypothesis => exact inductionHypothesis

theorem dropMarks_of_unmarked {name : List Char} (unmarked : ¬ variableMark <+: name) :
    dropMarks name = name := by
  unfold dropMarks
  split
  · rename_i rest
    exact absurd (List.prefix_append variableMark rest) unmarked
  · rfl

/-- A key is its marks, and then what they are dropped to. -/
theorem exists_marks (key : List Char) :
    ∃ count, key = (List.replicate count variableMark).flatten ++ dropMarks key ∧
      ¬ variableMark <+: dropMarks key := by
  fun_induction dropMarks key with
  | case1 rest inductionHypothesis =>
    obtain ⟨count, cut, unmarked⟩ := inductionHypothesis
    exact ⟨count + 1, congrArg (variableMark ++ ·) cut, unmarked⟩
  | case2 key unmarked =>
    refine ⟨0, rfl, ?_⟩
    rintro ⟨rest, rfl⟩
    exact unmarked rest rfl

theorem marked_iff {key name : String} :
    Marked key name ↔ variableMark.isPrefixOf key.toList = true ∧
      dropMarks key.toList = name.toList := by
  rw [List.isPrefixOf_iff_prefix]
  constructor
  · rintro ⟨count, cut, unmarked⟩
    rw [cut]
    exact ⟨by simp [List.replicate_succ], by
      rw [dropMarks_of_marks, dropMarks_of_unmarked unmarked]⟩
  · rintro ⟨begins, dropped⟩
    obtain ⟨count, cut, unmarked⟩ := exists_marks key.toList
    rw [dropped] at cut unmarked
    cases count with
    | zero =>
      rw [List.replicate_zero, List.flatten_nil, List.nil_append] at cut
      exact absurd (cut ▸ begins) unmarked
    | succ count => exact ⟨count, cut, unmarked⟩

/-! ### Reading one line -/

/-- What a key and a value ask for that stand in a line. -/
def readKey (line key value : String) : Except LineFault Change :=
  if key = "prompt" then .ok (.prompt value)
  else if key = "log_level" then
    match Threshold.ofName? (Text.trim value) with
    | some threshold => .ok (.threshold threshold)
    | none => .error (.badLevel line)
  else if key = "log_file" then
    .ok (.journalFile (if Text.trim value = "" then none else some (Text.trim value)))
  else if key = "output_mode" then
    match OutputMode.ofName? (Text.trim value) with
    | some mode => .ok (.outputMode mode)
    | none => .error (.badMode line)
  else if variableMark.isPrefixOf key.toList then
    if dropMarks key.toList = [] then .error .emptyName
    else .ok (.define (String.ofList (dropMarks key.toList)) value)
  else .error (.unknownKey key)

theorem readChange_of_keyed {key value line : String} (keyed : Keyed key value line) :
    readChange line = readKey line key value := by
  obtain ⟨written, rfl, absent, rfl⟩ := keyed
  have cut : (written ++ "=" ++ value).toList.span (· ≠ '=') =
      (written.toList, '=' :: value.toList) := span_eq_cons_iff.mpr ⟨by simp, rfl, absent⟩
  rw [readChange, cut]
  dsimp only
  rw [String.ofList_toList, String.ofList_toList]
  generalize Text.trim written = key
  split
  · rw [readKey, if_pos rfl]
  · cases known : Threshold.ofName? (Text.trim value) <;>
      simp only [readKey, known, String.reduceEq, reduceIte]
  · simp only [readKey, String.reduceEq, reduceIte]
  · cases known : OutputMode.ofName? (Text.trim value) <;>
      simp only [readKey, known, String.reduceEq, reduceIte]
  · rename_i otherPrompt otherLevel otherFile otherMode
    rw [readKey, if_neg otherPrompt, if_neg otherLevel, if_neg otherFile, if_neg otherMode]

theorem exists_keyed {line : String} (sign : '=' ∈ line.toList) :
    ∃ key value, Keyed key value line := by
  obtain ⟨written, rest, characters, absent⟩ := List.eq_append_cons_of_mem sign
  refine ⟨_, String.ofList rest, String.ofList written, ?_, by rwa [String.toList_ofList], rfl⟩
  rw [← String.toList_inj, characters]
  simp

theorem readKey_of_marked {line key value name : String} (marked : Marked key name) :
    readKey line key value = if name = "" then .error .emptyName else .ok (.define name value) := by
  obtain ⟨begins, dropped⟩ := marked_iff.mp marked
  have other (plain : String) (unmarked : variableMark.isPrefixOf plain.toList = false) :
      key ≠ plain := by
    rintro rfl
    rw [unmarked] at begins
    cases begins
  rw [readKey, if_neg (other _ (by decide)), if_neg (other _ (by decide)),
    if_neg (other _ (by decide)), if_neg (other _ (by decide)), if_pos begins, dropped,
    String.ofList_toList]
  simp

theorem readChange_of_asks {line : String} {change : Change} (asks : Asks line change) :
    readChange line = .ok change := by
  cases asks with
  | prompt keyed => rw [readChange_of_keyed keyed, readKey, if_pos rfl]
  | threshold keyed known =>
    simp [readChange_of_keyed keyed, readKey, Threshold.ofName?_eq_some_iff.mpr known]
  | journalFile keyed given => simp [readChange_of_keyed keyed, readKey, given]
  | noJournalFile keyed nothing => simp [readChange_of_keyed keyed, readKey, nothing]
  | outputMode keyed known =>
    simp [readChange_of_keyed keyed, readKey, OutputMode.ofName?_eq_some_iff.mpr known]
  | define keyed marked nonempty =>
    rw [readChange_of_keyed keyed, readKey_of_marked marked, if_neg nonempty]

theorem readChange_of_notMem {line : String} (absent : '=' ∉ line.toList) :
    readChange line = .error (.noEquals line) := by
  have whole : line.toList.span (· ≠ '=') = (line.toList, []) := by
    have unmarked : ∀ character ∈ line.toList, decide (character ≠ '=') = true :=
      fun character mem => decide_eq_true fun same => absent (same ▸ mem)
    rw [List.span_eq_takeWhile_dropWhile, List.takeWhile_eq_self_iff.mpr unmarked,
      List.dropWhile_eq_nil_iff.mpr unmarked]
  rw [readChange, whole]

theorem readChange_of_wrong {line : String} {fault : LineFault} (wrong : Wrong line fault) :
    readChange line = .error fault := by
  cases wrong with
  | noEquals absent => exact readChange_of_notMem absent
  | @badLevel value keyed unknown =>
    have missed : Threshold.ofName? (Text.trim value) = none :=
      Option.eq_none_iff_forall_ne_some.mpr fun threshold found =>
        unknown threshold (Threshold.ofName?_eq_some_iff.mp found)
    simp [readChange_of_keyed keyed, readKey, missed]
  | @badMode value keyed unknown =>
    have missed : OutputMode.ofName? (Text.trim value) = none :=
      Option.eq_none_iff_forall_ne_some.mpr fun mode found =>
        unknown mode (OutputMode.ofName?_eq_some_iff.mp found)
    simp [readChange_of_keyed keyed, readKey, missed]
  | emptyName keyed marked =>
    rw [readChange_of_keyed keyed, readKey_of_marked marked, if_pos rfl]
  | @unknownKey key value keyed unknown unmarked =>
    simp only [plainKeys, List.mem_cons, List.not_mem_nil, or_false, not_or] at unknown
    rw [readChange_of_keyed keyed]
    simp [readKey, unknown, unmarked]

theorem asks_or_wrong_of_keyed {line key value : String} (keyed : Keyed key value line) :
    (∃ change, Asks line change) ∨ ∃ fault, Wrong line fault := by
  by_cases plain : key ∈ plainKeys
  · simp only [plainKeys, List.mem_cons, List.not_mem_nil, or_false] at plain
    rcases plain with rfl | rfl | rfl | rfl
    · exact .inl ⟨_, .prompt keyed⟩
    · cases found : Threshold.ofName? (Text.trim value) with
      | some threshold =>
        exact .inl ⟨_, .threshold keyed (Threshold.ofName?_eq_some_iff.mp found)⟩
      | none =>
        refine .inr ⟨_, .badLevel keyed fun threshold known => ?_⟩
        rw [Threshold.ofName?_eq_some_iff.mpr known] at found
        cases found
    · by_cases nothing : Text.trim value = ""
      · exact .inl ⟨_, .noJournalFile keyed nothing⟩
      · exact .inl ⟨_, .journalFile keyed nothing⟩
    · cases found : OutputMode.ofName? (Text.trim value) with
      | some mode => exact .inl ⟨_, .outputMode keyed (OutputMode.ofName?_eq_some_iff.mp found)⟩
      | none =>
        refine .inr ⟨_, .badMode keyed fun mode known => ?_⟩
        rw [OutputMode.ofName?_eq_some_iff.mpr known] at found
        cases found
  · by_cases begins : variableMark <+: key.toList
    · have marked : Marked key (String.ofList (dropMarks key.toList)) :=
        marked_iff.mpr ⟨List.isPrefixOf_iff_prefix.mpr begins, String.toList_ofList.symm⟩
      by_cases nothing : String.ofList (dropMarks key.toList) = ""
      · exact .inr ⟨_, .emptyName keyed (nothing ▸ marked)⟩
      · exact .inl ⟨_, .define keyed marked nothing⟩
    · exact .inr ⟨_, .unknownKey keyed plain begins⟩

/-- Each line that is read sets something or is wrong. -/
theorem asks_or_wrong (line : String) :
    (∃ change, Asks line change) ∨ ∃ fault, Wrong line fault := by
  by_cases sign : '=' ∈ line.toList
  · obtain ⟨key, value, keyed⟩ := exists_keyed sign
    exact asks_or_wrong_of_keyed keyed
  · exact .inr ⟨_, .noEquals sign⟩

theorem readChange_eq_ok_iff {line : String} {change : Change} :
    readChange line = .ok change ↔ Asks line change := by
  refine ⟨fun asked => ?_, readChange_of_asks⟩
  rcases asks_or_wrong line with ⟨other, asks⟩ | ⟨fault, wrong⟩
  · rw [readChange_of_asks asks] at asked
    exact Except.ok.inj asked ▸ asks
  · rw [readChange_of_wrong wrong] at asked
    cases asked

theorem readChange_eq_error_iff {line : String} {fault : LineFault} :
    readChange line = .error fault ↔ Wrong line fault := by
  refine ⟨fun failed => ?_, readChange_of_wrong⟩
  rcases asks_or_wrong line with ⟨change, asks⟩ | ⟨other, wrong⟩
  · rw [readChange_of_asks asks] at failed
    cases failed
  · rw [readChange_of_wrong wrong] at failed
    exact Except.error.inj failed ▸ wrong

/-- Whether a line is bad: it says something, and something is wrong with that. -/
def Bad (line : String) (fault : LineFault) : Prop := ¬ Silent line ∧ Wrong line fault

/-- Whether a line sets something. -/
def Sets (line : String) (change : Change) : Prop := ¬ Silent line ∧ Asks line change

theorem readLine_eq_error_iff {line : String} {fault : LineFault} :
    readLine line = .error fault ↔ Bad line fault := by
  rw [Bad, ← isSilent_iff, ← readChange_eq_error_iff, readLine]
  split
  · rename_i silent
    simp [silent]
  · rename_i spoken
    cases readChange line <;> simp [Except.map, spoken]

theorem readLine_eq_some_iff {line : String} {change : Change} :
    readLine line = .ok (some change) ↔ Sets line change := by
  rw [Sets, ← isSilent_iff, ← readChange_eq_ok_iff, readLine]
  split
  · rename_i silent
    simp [silent]
  · rename_i spoken
    cases readChange line <;> simp [Except.map, spoken]

theorem readLine_eq_none_iff {line : String} : readLine line = .ok none ↔ Silent line := by
  rw [← isSilent_iff, readLine]
  split
  · rename_i silent
    simp [silent]
  · rename_i spoken
    cases readChange line <;> simp [Except.map, spoken]

/-! ### Fields -/

/-- What a line can set. -/
inductive Field where
  | prompt
  | threshold
  | journalFile
  | outputMode
  | definition (name : String)
  deriving DecidableEq, Repr

/-- The field that a change sets. -/
def Change.field : Change → Field
  | .prompt _ => .prompt
  | .threshold _ => .threshold
  | .journalFile _ => .journalFile
  | .outputMode _ => .outputMode
  | .define name _ => .definition name

/-- What settings say about a field, as the change that would set it. Nothing is said about a
variable that is not defined. -/
def saying? (settings : Settings) : Field → Option Change
  | .prompt => some (.prompt settings.prompt)
  | .threshold => some (.threshold settings.threshold)
  | .journalFile => some (.journalFile settings.journalFile)
  | .outputMode => some (.outputMode settings.outputMode)
  | .definition name => (Association.get? name settings.definitions).map (.define name)

theorem saying?_apply_self (settings : Settings) (change : Change) :
    (settings.apply change).saying? change.field = some change := by
  cases change with
  | prompt | threshold | journalFile | outputMode => rfl
  | define name value => simp [Change.field, saying?, apply]

theorem saying?_apply_of_ne (settings : Settings) {change : Change} {field : Field}
    (different : field ≠ change.field) :
    (settings.apply change).saying? field = settings.saying? field := by
  cases field with
  | prompt | threshold | journalFile | outputMode =>
    cases change with
    | prompt | threshold | journalFile | outputMode => first | rfl | exact absurd rfl different
    | define => rfl
  | definition name =>
    cases change with
    | prompt | threshold | journalFile | outputMode => rfl
    | define other value =>
      have differentNames : name ≠ other := fun same => different (congrArg Field.definition same)
      rw [saying?, apply]
      dsimp only
      rw [Association.get?_put_of_ne differentNames]
      rfl

/-- Settings agree if they say the same about each field, in whatever order they list the
variables. -/
def Agrees (first second : Settings) : Prop := ∀ field, first.saying? field = second.saying? field

theorem agrees_apply {first second : Settings} (agrees : Agrees first second) (change : Change) :
    Agrees (first.apply change) (second.apply change) := by
  intro field
  by_cases same : field = change.field
  · subst same
    rw [saying?_apply_self, saying?_apply_self]
  · rw [saying?_apply_of_ne _ same, saying?_apply_of_ne _ same, agrees field]

/-- Changes of different fields can change places. -/
theorem agrees_apply_apply {first second : Change} (different : first.field ≠ second.field)
    (settings : Settings) :
    Agrees ((settings.apply first).apply second) ((settings.apply second).apply first) := by
  intro field
  by_cases sameFirst : field = first.field
  · subst sameFirst
    rw [saying?_apply_of_ne _ different, saying?_apply_self, saying?_apply_self]
  · rw [saying?_apply_of_ne _ sameFirst]
    by_cases sameSecond : field = second.field
    · subst sameSecond
      rw [saying?_apply_self, saying?_apply_self]
    · rw [saying?_apply_of_ne _ sameSecond, saying?_apply_of_ne _ sameFirst,
        saying?_apply_of_ne _ sameSecond]

/-- Carries changes out in order. -/
def applyAll (settings : Settings) (changes : List Change) : Settings :=
  changes.foldl apply settings

theorem agrees_applyAll {first second : Settings} (agrees : Agrees first second)
    (changes : List Change) : Agrees (first.applyAll changes) (second.applyAll changes) := by
  induction changes generalizing first second with
  | nil => exact agrees
  | cons change changes inductionHypothesis =>
    exact inductionHypothesis (agrees_apply agrees change)

/-! ### Reading all lines -/

/-- What a line sets, if it sets something. -/
def change? (line : String) : Option Change := (readLine line).toOption.join

theorem change?_eq_some_iff {line : String} {change : Change} :
    change? line = some change ↔ Sets line change := by
  rw [← readLine_eq_some_iff, change?]
  rcases readLine line with fault | _ | other <;> simp [Except.toOption]

theorem change?_of_silent {line : String} (silent : Silent line) : change? line = none := by
  rw [change?, readLine_eq_none_iff.mpr silent]
  rfl

theorem readLine_of_not_bad {line : String} (fine : ∀ fault, ¬ Bad line fault) :
    readLine line = .ok (change? line) := by
  cases read : readLine line with
  | error fault => exact absurd (readLine_eq_error_iff.mp read) (fine fault)
  | ok asked =>
    rw [change?, read]
    cases asked <;> rfl

/-- Lines that are not bad are carried out. -/
theorem readLines_of_not_bad {lines : List String} (fine : ∀ line ∈ lines, ∀ fault, ¬ Bad line fault)
    (settings : Settings) (number : Nat) :
    readLines settings number lines = .ok (settings.applyAll (lines.filterMap change?)) := by
  induction lines generalizing settings number with
  | nil => rfl
  | cons line lines inductionHypothesis =>
    rw [List.forall_mem_cons] at fine
    rw [readLines, readLine_of_not_bad fine.1]
    cases asked : change? line with
    | none => exact (inductionHypothesis fine.2 _ _).trans (by rw [List.filterMap_cons_none asked])
    | some change =>
      exact (inductionHypothesis fine.2 _ _).trans (by rw [List.filterMap_cons_some asked]; rfl)

/-- The first bad line ends the reading. -/
theorem readLines_of_bad {before after : List String} {line : String} {fault : LineFault}
    (fine : ∀ earlier ∈ before, ∀ other, ¬ Bad earlier other) (bad : Bad line fault)
    (settings : Settings) (number : Nat) :
    readLines settings number (before ++ line :: after) =
      .error (.badLine (number + before.length) fault) := by
  induction before generalizing settings number with
  | nil => rw [List.nil_append, readLines, readLine_eq_error_iff.mpr bad]; rfl
  | cons earlier before inductionHypothesis =>
    rw [List.forall_mem_cons] at fine
    have places : number + (earlier :: before).length = number + 1 + before.length := by
      rw [List.length_cons]
      omega
    rw [List.cons_append, readLines, readLine_of_not_bad fine.1, places]
    cases change? earlier with
    | none => exact inductionHypothesis fine.2 settings (number + 1)
    | some change => exact inductionHypothesis fine.2 (settings.apply change) (number + 1)

/-- If some line is bad, one of them is the first. -/
theorem exists_first_bad {lines : List String} (bad : ∃ line ∈ lines, ∃ fault, Bad line fault) :
    ∃ before line after fault, lines = before ++ line :: after ∧
      (∀ earlier ∈ before, ∀ other, ¬ Bad earlier other) ∧ Bad line fault := by
  induction lines with
  | nil => simp at bad
  | cons first lines inductionHypothesis =>
    by_cases badFirst : ∃ fault, Bad first fault
    · obtain ⟨fault, badFirst⟩ := badFirst
      exact ⟨[], first, lines, fault, rfl, by simp, badFirst⟩
    · obtain ⟨line, mem, badLine⟩ := bad
      have later : line ∈ lines := by
        rcases List.mem_cons.mp mem with rfl | later
        · exact absurd badLine badFirst
        · exact later
      obtain ⟨before, other, after, fault, rfl, fine, badOther⟩ :=
        inductionHypothesis ⟨line, later, badLine⟩
      exact ⟨first :: before, other, after, fault, rfl,
        List.forall_mem_cons.mpr ⟨not_exists.mp badFirst, fine⟩, badOther⟩

/-- Whether a change is what the last line asks for that sets this field. -/
def SetsLast (lines : List String) (field : Field) (change : Change) : Prop :=
  ∃ before line after, lines = before ++ line :: after ∧ Sets line change ∧ change.field = field ∧
    ∀ later ∈ after, ∀ other, Sets later other → other.field ≠ field

theorem SetsLast.append_singleton {lines : List String} {field : Field} {change : Change}
    (last : SetsLast lines field change) {line : String}
    (others : ∀ other, Sets line other → other.field ≠ field) :
    SetsLast (lines ++ [line]) field change := by
  obtain ⟨before, setting, after, rfl, sets, same, later⟩ := last
  refine ⟨before, setting, after ++ [line], by simp, sets, same, ?_⟩
  rw [List.forall_mem_append, List.forall_mem_singleton]
  exact ⟨later, others⟩

/-- A field has what the last line says that sets it, or what it had before if there is none. -/
theorem saying?_applyAll (lines : List String) (settings : Settings) (field : Field) :
    (∃ change, SetsLast lines field change ∧
      (settings.applyAll (lines.filterMap change?)).saying? field = some change) ∨
    (∀ line ∈ lines, ∀ change, Sets line change → change.field ≠ field) ∧
      (settings.applyAll (lines.filterMap change?)).saying? field = settings.saying? field := by
  induction lines using List.reverseRecOn with
  | nil => exact .inr ⟨by simp, rfl⟩
  | append_singleton lines line inductionHypothesis =>
    have last : settings.applyAll ((lines ++ [line]).filterMap change?) =
        (settings.applyAll (lines.filterMap change?)).applyAll (change? line).toList := by
      rw [List.filterMap_append, applyAll, List.foldl_append, applyAll, applyAll]
      cases asked : change? line with
      | none => rw [List.filterMap_cons_none asked]; rfl
      | some change => rw [List.filterMap_cons_some asked]; rfl
    rw [last, List.forall_mem_append, List.forall_mem_singleton]
    by_cases sets : ∃ change, Sets line change ∧ change.field = field
    · obtain ⟨change, sets, rfl⟩ := sets
      rw [change?_eq_some_iff.mpr sets]
      exact .inl ⟨change, ⟨lines, line, [], rfl, sets, rfl, by simp⟩, saying?_apply_self _ _⟩
    · have others : ∀ other, Sets line other → other.field ≠ field :=
        fun other setsOther same => sets ⟨other, setsOther, same⟩
      have unchanged : ((settings.applyAll (lines.filterMap change?)).applyAll
          (change? line).toList).saying? field =
            (settings.applyAll (lines.filterMap change?)).saying? field := by
        cases asked : change? line with
        | none => rfl
        | some change =>
          exact saying?_apply_of_ne _ (Ne.symm (others change (change?_eq_some_iff.mp asked)))
      rw [unchanged]
      rcases inductionHypothesis with ⟨change, setsLast, same⟩ | ⟨none, same⟩
      · exact .inl ⟨change, setsLast.append_singleton others, same⟩
      · exact .inr ⟨⟨none, others⟩, same⟩

theorem ofText_of_not_bad {text : String}
    (fine : ∀ line ∈ Text.textLines text, ∀ fault, ¬ Bad line fault) :
    ofText text = .ok (Settings.default.applyAll ((Text.textLines text).filterMap change?)) :=
  readLines_of_not_bad fine _ _

theorem ofText_of_bad {text : String} {before after : List String} {line : String}
    {fault : LineFault} (cut : Text.textLines text = before ++ line :: after)
    (fine : ∀ earlier ∈ before, ∀ other, ¬ Bad earlier other) (bad : Bad line fault) :
    ofText text = .error (.badLine (before.length + 1) fault) := by
  rw [ofText, cut, readLines_of_bad fine bad, Nat.add_comm]

theorem exists_ofText_error_iff {text : String} :
    (∃ error, ofText text = .error error) ↔
      ∃ line ∈ Text.textLines text, ∃ fault, Bad line fault := by
  constructor
  · rintro ⟨error, failed⟩
    by_contra fine
    push Not at fine
    rw [ofText_of_not_bad fine] at failed
    cases failed
  · intro bad
    obtain ⟨before, line, after, fault, cut, fine, badFirst⟩ := exists_first_bad bad
    exact ⟨_, ofText_of_bad cut fine badFirst⟩

/-- A text that gives settings has no bad lines. -/
theorem not_bad_of_ofText {text : String} {settings : Settings}
    (loads : ofText text = .ok settings) :
    ∀ line ∈ Text.textLines text, ∀ fault, ¬ Bad line fault := by
  intro line mem fault bad
  obtain ⟨error, failed⟩ := exists_ofText_error_iff.mpr ⟨line, mem, fault, bad⟩
  rw [failed] at loads
  cases loads

theorem eq_applyAll_of_ofText {text : String} {settings : Settings}
    (loads : ofText text = .ok settings) :
    settings = Settings.default.applyAll ((Text.textLines text).filterMap change?) := by
  rw [ofText_of_not_bad (not_bad_of_ofText loads)] at loads
  exact (Except.ok.inj loads).symm

end Settings

/-! ### Settings at the start -/

namespace Startup

/-- Whether the file at a path holds this text, as it is read for settings. -/
def Holds (machine : Machine) (path text : String) : Prop :=
  ∃ bytes contents, systemPath path = .ok bytes ∧
    machine.readPath .standard machine.directory bytes = .ok contents ∧
    Settings.fileText contents = .ok text

/-- The settings that the shell starts with: all that the text of its settings file gives, or the
default ones if there is no file, it holds no text, or its text gives none. -/
inductive Chooses (inherited : List (String × String)) (machine : Machine) : Settings → Prop where
  | taken {path text : String} {settings : Settings} (located : locate inherited machine = some path)
      (holds : Holds machine path text) (loads : Settings.ofText text = .ok settings) :
      Chooses inherited machine settings
  | refused {path text : String} {error : SettingsError}
      (located : locate inherited machine = some path) (holds : Holds machine path text)
      (failed : Settings.ofText text = .error error) : Chooses inherited machine .default
  | unreadable {path : String} (located : locate inherited machine = some path)
      (nothing : ∀ text, ¬ Holds machine path text) : Chooses inherited machine .default
  | missing (nowhere : locate inherited machine = none) : Chooses inherited machine .default

/-- A path leads to settings exactly if it leads to a text that gives them. -/
theorem load_of_holds {machine : Machine} {path text : String} (holds : Holds machine path text) :
    load path machine = Settings.ofText text := by
  obtain ⟨bytes, contents, named, reads, isText⟩ := holds
  simp only [load, named, reads, Settings.ofFile, isText, bind, Except.bind]

theorem exists_load_error {machine : Machine} {path : String}
    (nothing : ∀ text, ¬ Holds machine path text) : ∃ error, load path machine = .error error := by
  unfold load
  cases named : systemPath path with
  | error fault => exact ⟨_, rfl⟩
  | ok bytes =>
    cases reads : machine.readPath .standard machine.directory bytes with
    | error errno => exact ⟨.unreadable (.refused errno), by simp only [reads]⟩
    | ok contents =>
      cases isText : Settings.fileText contents with
      | error error => exact ⟨error, by simp only [reads, Settings.ofFile, isText, bind, Except.bind]⟩
      | ok text => exact absurd ⟨bytes, contents, named, reads, isText⟩ (nothing text)

theorem chooseSettings_of_error {inherited : List (String × String)} {machine : Machine}
    {path : String} {error : SettingsError} (located : locate inherited machine = some path)
    (failed : load path machine = .error error) :
    (chooseSettings inherited machine).1 = .default := by
  simp only [chooseSettings, located, failed]

theorem chooseSettings_chooses (inherited : List (String × String)) (machine : Machine) :
    Chooses inherited machine (chooseSettings inherited machine).1 := by
  cases located : locate inherited machine with
  | none =>
    have nowhere : (chooseSettings inherited machine).1 = .default := by
      simp only [chooseSettings, located]
    exact nowhere ▸ .missing located
  | some path =>
    by_cases held : ∃ text, Holds machine path text
    · obtain ⟨text, holds⟩ := held
      cases loads : Settings.ofText text with
      | error error =>
        rw [chooseSettings_of_error located ((load_of_holds holds).trans loads)]
        exact .refused located holds loads
      | ok settings =>
        have taken : (chooseSettings inherited machine).1 = settings := by
          simp only [chooseSettings, located, load_of_holds holds, loads]
        exact taken ▸ .taken located holds loads
    · have nothing := not_exists.mp held
      obtain ⟨error, failed⟩ := exists_load_error nothing
      rw [chooseSettings_of_error located failed]
      exact .unreadable located nothing

end Startup

namespace Settings

/-- What a text of settings comes to. -/
structure Settles (text : String) (result : Except SettingsError Settings) : Prop where
  /-- It gives no settings exactly if some line is bad. -/
  fails : (∃ error, result = .error error) ↔
    ∃ line ∈ Text.textLines text, ∃ fault, Bad line fault
  /-- The report is then about the first bad line, and it begins with its number, counted from one
  among all lines. -/
  first : ∀ error, result = .error error → ∃ before line after fault,
    Text.textLines text = before ++ line :: after ∧
    (∀ earlier ∈ before, ∀ other, ¬ Bad earlier other) ∧ Bad line fault ∧
    error = .badLine (before.length + 1) fault ∧
    error.message = "Parse error: Line " ++ toString (before.length + 1) ++ ": " ++ fault.message
  /-- Otherwise each field has what the last line says that sets it, or its default. -/
  last : ∀ settings, result = .ok settings → ∀ field,
    (∃ change, SetsLast (Text.textLines text) field change ∧
      settings.saying? field = some change) ∨
    (∀ line ∈ Text.textLines text, ∀ change, Sets line change → change.field ≠ field) ∧
      settings.saying? field = Settings.default.saying? field
  /-- Silent lines can be put anywhere. -/
  inserted : ∀ settings, result = .ok settings → ∀ before silent after changed,
    Text.textLines text = before ++ after → (∀ line ∈ silent, Silent line) →
    Text.textLines changed = before ++ silent ++ after → ofText changed = .ok settings
  /-- Neighbouring lines can change places if they do not set the same field. -/
  swapped : ∀ settings, result = .ok settings → ∀ before first second after changed,
    Text.textLines text = before ++ first :: second :: after →
    (∀ one other, Sets first one → Sets second other → one.field ≠ other.field) →
    Text.textLines changed = before ++ second :: first :: after →
    ∃ other, ofText changed = .ok other ∧ Agrees settings other

theorem filterMap_change?_of_silent {lines : List String} (silent : ∀ line ∈ lines, Silent line) :
    lines.filterMap change? = [] := by
  rw [List.filterMap_eq_nil_iff]
  exact fun line mem => change?_of_silent (silent line mem)

/-- Two lines that do not set the same field have the same effect in either order. -/
theorem agrees_swapped {first second : String}
    (different : ∀ one other, Sets first one → Sets second other → one.field ≠ other.field)
    (settings : Settings) :
    Agrees (settings.applyAll ([first, second].filterMap change?))
      (settings.applyAll ([second, first].filterMap change?)) := by
  cases askedFirst : change? first with
  | none => simp [List.filterMap_cons, askedFirst, Agrees]
  | some one =>
    cases askedSecond : change? second with
    | none => simp [askedFirst, askedSecond, Agrees]
    | some other =>
      simp only [List.filterMap_cons, List.filterMap_nil, askedFirst, askedSecond]
      exact agrees_apply_apply
        (different one other (change?_eq_some_iff.mp askedFirst) (change?_eq_some_iff.mp askedSecond))
        settings

/-- The first bad line decides how loading a text fails, and otherwise the last line for each field
decides what it gives. The shell starts with all of that, or with the default settings. -/
theorem ofText_settles (text : String) :
    Settles text (ofText text) ∧
      ∀ inherited machine,
        Startup.Chooses inherited machine (Startup.chooseSettings inherited machine).1 := by
  refine ⟨?_, Startup.chooseSettings_chooses⟩
  constructor
  case fails => exact exists_ofText_error_iff
  case first =>
    intro error failed
    obtain ⟨before, line, after, fault, cut, fine, bad⟩ :=
      exists_first_bad (exists_ofText_error_iff.mp ⟨error, failed⟩)
    rw [ofText_of_bad cut fine bad] at failed
    obtain rfl := Except.error.inj failed
    exact ⟨before, line, after, fault, cut, fine, bad, rfl, rfl⟩
  case last =>
    intro settings loads field
    rw [eq_applyAll_of_ofText loads]
    exact saying?_applyAll _ _ field
  case inserted =>
    intro settings loads before silent after changed cut areSilent cutChanged
    have fine := not_bad_of_ofText loads
    have settles := eq_applyAll_of_ofText loads
    rw [cut] at fine settles
    have fineChanged : ∀ line ∈ Text.textLines changed, ∀ fault, ¬ Bad line fault := by
      intro line mem fault bad
      rw [cutChanged, List.append_assoc, List.mem_append, List.mem_append] at mem
      rcases mem with inBefore | inSilent | inAfter
      · exact fine line (List.mem_append_left _ inBefore) fault bad
      · exact bad.1 (areSilent line inSilent)
      · exact fine line (List.mem_append_right _ inAfter) fault bad
    rw [ofText_of_not_bad fineChanged, cutChanged, settles, List.filterMap_append,
      List.filterMap_append, filterMap_change?_of_silent areSilent, List.append_nil,
      List.filterMap_append]
  case swapped =>
    intro settings loads before first second after changed cut different cutChanged
    have same : (Text.textLines changed).Perm (Text.textLines text) := by
      rw [cut, cutChanged]
      exact (List.Perm.swap first second after).append_left before
    have fineChanged : ∀ line ∈ Text.textLines changed, ∀ fault, ¬ Bad line fault :=
      fun line mem => not_bad_of_ofText loads line (same.mem_iff.mp mem)
    refine ⟨_, ofText_of_not_bad fineChanged, ?_⟩
    have split (one other : String) : (before ++ one :: other :: after).filterMap change? =
        before.filterMap change? ++ [one, other].filterMap change? ++ after.filterMap change? := by
      rw [← List.filterMap_append, ← List.filterMap_append, List.append_assoc]
      rfl
    have apart (earlier middle later : List Change) :
        Settings.default.applyAll (earlier ++ middle ++ later) =
          ((Settings.default.applyAll earlier).applyAll middle).applyAll later := by
      rw [applyAll, List.foldl_append, List.foldl_append, applyAll, applyAll, applyAll]
    rw [eq_applyAll_of_ofText loads, cut, cutChanged, split, split, apart, apart]
    exact agrees_applyAll (agrees_swapped different _) _

end Settings

end PipelineShell
