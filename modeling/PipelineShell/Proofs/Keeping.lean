/-
What a store of variables keeps.

A store is a map from names to values with a mark on each name. Setting a variable leaves its mark
alone, exporting one that is not defined does nothing, and nothing takes a mark away. So both can be
read off the history: the value is the one that was given last, and the mark is there if the variable
was exported at a time when it had been given a value, however long ago that was and whatever it was
set to since. The entries that programs get are those of the marked variables, in an order that
nothing depends on. Assigned to an empty store, they give the same entries again.
-/

import Mathlib.Data.List.Nodup
import PipelineShell.Proofs.SearchPath

namespace PipelineShell

/-- Something that is done to a store. -/
inductive Operation where
  | set (name value : String)
  | mark (name : String)
  | assign (word : String)
  deriving DecidableEq, Repr

namespace Operation

/-- Carries an operation out. A word that is no assignment is refused and changes nothing. -/
def perform (store : Variables) : Operation → Variables
  | .set name value => store.set name value
  | .mark name => store.mark name
  | .assign word => (store.assign? word).getD store

/-- Carries operations out in order. -/
def performAll (store : Variables) (operations : List Operation) : Variables :=
  operations.foldl perform store

/-- Whether an operation gives a variable a value. An assignment does if it is not refused: its name
ends at the first equals sign and is not empty. -/
def Gives (name value : String) : Operation → Prop
  | .set other text => other = name ∧ text = value
  | .mark _ => False
  | .assign word => word = name ++ "=" ++ value ∧ '=' ∉ name.toList ∧ name ≠ ""

/-- Whether an operation asks for a variable to be exported. -/
def Exports (name : String) : Operation → Prop
  | .set _ _ => False
  | .mark other => other = name
  | .assign word => ∃ value, (assign word).Gives name value

/-! ### One operation -/

theorem gives_assign_iff {word name value : String} :
    (assign word).Gives name value ↔ splitAssignment? word = some (name, value) :=
  splitAssignment?_eq_some_iff.symm

theorem perform_assign_of_none {word : String} (refused : splitAssignment? word = none)
    (store : Variables) : perform store (.assign word) = store := by
  rw [perform, Variables.assign?, refused]
  rfl

theorem perform_assign_of_some {word : String} {pair : String × String}
    (splits : splitAssignment? word = some pair) (store : Variables) :
    perform store (.assign word) = store.after (some pair) := by
  rw [perform, Variables.assign?, splits]
  rfl

end Operation

namespace Variables

/-- Whether a variable is exported. -/
def IsExported (store : Variables) (name : String) : Prop :=
  ∃ value, store.find? name = some ⟨value, true⟩

theorem get?_set_self (store : Variables) (name value : String) :
    (store.set name value).get? name = some value := by
  rw [get?, find?_set_self]
  rfl

theorem get?_set_of_ne (store : Variables) {name asked : String} (different : asked ≠ name)
    (value : String) : (store.set name value).get? asked = store.get? asked := by
  rw [get?, find?_set_of_ne _ different, get?]

/-- Marks make no difference to values. -/
theorem get?_mark (store : Variables) (name asked : String) :
    (store.mark name).get? asked = store.get? asked := by
  rw [get?, get?]
  by_cases same : asked = name
  · subst same
    rw [find?_mark_self, Option.map_map]
    rfl
  · rw [find?_mark_of_ne _ same]

theorem isExported_set (store : Variables) (name value asked : String) :
    (store.set name value).IsExported asked ↔ store.IsExported asked := by
  unfold IsExported
  by_cases same : asked = name
  · subst same
    rw [find?_set_self]
    cases store.find? asked with
    | none => simp
    | some entry =>
      obtain ⟨old, exported⟩ := entry
      simp
  · rw [find?_set_of_ne _ same]

theorem isExported_mark (store : Variables) (name asked : String) :
    (store.mark name).IsExported asked ↔
      store.IsExported asked ∨ name = asked ∧ store.get? asked ≠ none := by
  unfold IsExported get?
  by_cases same : asked = name
  · subst same
    rw [find?_mark_self]
    cases store.find? asked with
    | none => simp
    | some entry =>
      obtain ⟨value, exported⟩ := entry
      simp
  · rw [find?_mark_of_ne _ same]
    simp [Ne.symm same]

end Variables

namespace Operation

theorem get?_perform_iff (store : Variables) (operation : Operation) (name value : String) :
    (perform store operation).get? name = some value ↔
      operation.Gives name value ∨
        (∀ other, ¬ operation.Gives name other) ∧ store.get? name = some value := by
  have given {other text : String} :
      (store.set other text).get? name = some value ↔
        (other = name ∧ text = value) ∨ other ≠ name ∧ store.get? name = some value := by
    by_cases same : name = other
    · subst same
      rw [Variables.get?_set_self]
      simp
    · rw [Variables.get?_set_of_ne _ same]
      simp [Ne.symm same]
  cases operation with
  | set other text =>
    rw [perform, given]
    simp [Gives]
  | mark other =>
    rw [perform, Variables.get?_mark]
    simp [Gives]
  | assign word =>
    simp only [gives_assign_iff]
    cases splits : splitAssignment? word with
    | none =>
      rw [perform_assign_of_none splits]
      simp
    | some pair =>
      obtain ⟨other, text⟩ := pair
      rw [perform_assign_of_some splits, Variables.after, Variables.get?_mark, given]
      simp

/-- An operation takes no mark away, and sets one only on a variable that is then defined. -/
theorem isExported_perform_iff (store : Variables) (operation : Operation) (name : String) :
    (perform store operation).IsExported name ↔
      store.IsExported name ∨
        operation.Exports name ∧ (perform store operation).get? name ≠ none := by
  cases operation with
  | set other text =>
    rw [perform, Variables.isExported_set]
    simp [Exports]
  | mark other =>
    rw [perform, Variables.isExported_mark, Variables.get?_mark]
    rfl
  | assign word =>
    simp only [Exports, gives_assign_iff]
    cases splits : splitAssignment? word with
    | none =>
      rw [perform_assign_of_none splits]
      simp
    | some pair =>
      obtain ⟨other, text⟩ := pair
      rw [perform_assign_of_some splits, Variables.after, Variables.isExported_mark,
        Variables.isExported_set, Variables.get?_mark]
      simp

/-! ### Whole histories -/

/-- Whether a value is the one that was given to a variable last. -/
def GivenLast (history : List Operation) (name value : String) : Prop :=
  ∃ earlier operation later, history = earlier ++ operation :: later ∧
    operation.Gives name value ∧ ∀ other ∈ later, ∀ text, ¬ other.Gives name text

/-- Whether a variable was exported once it was defined: at or after an operation that gave it a
value. -/
def ExportedOnce (history : List Operation) (name : String) : Prop :=
  ∃ earlier operation later, history = earlier ++ operation :: later ∧
    operation.Exports name ∧ ∃ definition ∈ earlier ++ [operation], ∃ value,
      definition.Gives name value

/-- What can be split off a list to which something was appended. -/
theorem append_singleton_eq_append_cons_iff {α : Type} {items earlier later : List α}
    {last item : α} :
    items ++ [last] = earlier ++ item :: later ↔
      (items = earlier ∧ last = item ∧ later = []) ∨
        ∃ between, items = earlier ++ item :: between ∧ later = between ++ [last] := by
  constructor
  · intro same
    obtain rfl | ⟨between, final, rfl⟩ := List.eq_nil_or_concat' later
    · obtain ⟨rfl, ends⟩ := List.append_inj' same rfl
      exact .inl ⟨rfl, (List.cons.inj ends).1, rfl⟩
    · rw [← List.cons_append, ← List.append_assoc] at same
      obtain ⟨rfl, ends⟩ := List.append_inj' same rfl
      obtain rfl := (List.cons.inj ends).1
      exact .inr ⟨between, rfl, rfl⟩
  · rintro (⟨rfl, rfl, rfl⟩ | ⟨between, rfl, rfl⟩)
    · rfl
    · simp

theorem givenLast_append_singleton {history : List Operation} {operation : Operation}
    {name value : String} :
    GivenLast (history ++ [operation]) name value ↔
      operation.Gives name value ∨
        (∀ other, ¬ operation.Gives name other) ∧ GivenLast history name value := by
  constructor
  · rintro ⟨earlier, giving, later, cut, gives, silent⟩
    rcases append_singleton_eq_append_cons_iff.mp cut with ⟨_, rfl, _⟩ | ⟨between, rfl, rfl⟩
    · exact .inl gives
    · rw [List.forall_mem_append, List.forall_mem_singleton] at silent
      exact .inr ⟨silent.2, earlier, giving, between, rfl, gives, silent.1⟩
  · rintro (gives | ⟨silent, earlier, giving, later, rfl, gives, silentLater⟩)
    · exact ⟨history, operation, [], rfl, gives, by simp⟩
    · refine ⟨earlier, giving, later ++ [operation], by simp, gives, ?_⟩
      rw [List.forall_mem_append, List.forall_mem_singleton]
      exact ⟨silentLater, silent⟩

theorem exportedOnce_append_singleton {history : List Operation} {operation : Operation}
    {name : String} :
    ExportedOnce (history ++ [operation]) name ↔
      ExportedOnce history name ∨ operation.Exports name ∧
        ∃ definition ∈ history ++ [operation], ∃ value, definition.Gives name value := by
  constructor
  · rintro ⟨earlier, exporting, later, cut, exports, defined⟩
    rcases append_singleton_eq_append_cons_iff.mp cut with ⟨rfl, rfl, _⟩ | ⟨between, rfl, rfl⟩
    · exact .inr ⟨exports, defined⟩
    · exact .inl ⟨earlier, exporting, between, rfl, exports, defined⟩
  · rintro (⟨earlier, exporting, later, rfl, exports, defined⟩ | ⟨exports, defined⟩)
    · exact ⟨earlier, exporting, later ++ [operation], by simp, exports, defined⟩
    · exact ⟨history, operation, [], rfl, exports, defined⟩

theorem performAll_append_singleton (store : Variables) (history : List Operation)
    (operation : Operation) :
    performAll store (history ++ [operation]) = perform (performAll store history) operation := by
  rw [performAll, List.foldl_append, performAll]
  rfl

theorem get?_performAll_iff (history : List Operation) (name value : String) :
    (performAll .empty history).get? name = some value ↔ GivenLast history name value := by
  -- The last operation decides, so the history is taken apart from its end.
  induction history using List.reverseRecOn with
  | nil =>
    refine iff_of_false (by simp [performAll, Variables.get?]) ?_
    rintro ⟨earlier, operation, later, impossible, _⟩
    simp at impossible
  | append_singleton history operation inductionHypothesis =>
    rw [performAll_append_singleton, get?_perform_iff, givenLast_append_singleton,
      inductionHypothesis]

/-- A variable is undefined for as long as no operation gives it a value. -/
theorem get?_performAll_eq_none_iff (history : List Operation) (name : String) :
    (performAll .empty history).get? name = none ↔
      ∀ operation ∈ history, ∀ value, ¬ operation.Gives name value := by
  induction history using List.reverseRecOn with
  | nil => simp [performAll, Variables.get?]
  | append_singleton history operation inductionHypothesis =>
    rw [performAll_append_singleton, List.forall_mem_append, List.forall_mem_singleton,
      ← inductionHypothesis]
    simp only [Option.eq_none_iff_forall_ne_some, ne_eq, get?_perform_iff, not_or, not_and]
    constructor
    · exact fun neither => ⟨fun value => (neither value).2 fun other => (neither other).1,
        fun value => (neither value).1⟩
    · exact fun both value => ⟨both.2 value, fun _ => both.1 value⟩

theorem isExported_performAll_iff (history : List Operation) (name : String) :
    (performAll .empty history).IsExported name ↔ ExportedOnce history name := by
  induction history using List.reverseRecOn with
  | nil =>
    refine iff_of_false (by simp [performAll, Variables.IsExported]) ?_
    rintro ⟨earlier, operation, later, impossible, _⟩
    simp at impossible
  | append_singleton history operation inductionHypothesis =>
    rw [exportedOnce_append_singleton, performAll_append_singleton, isExported_perform_iff,
      inductionHypothesis, ← performAll_append_singleton, ne_eq, get?_performAll_eq_none_iff]
    simp only [not_forall, not_not, exists_prop]

/-- What is found under a name is exported exactly if a mark was set on it. -/
theorem find?_performAll_iff (history : List Operation) (name value : String) :
    (performAll .empty history).find? name = some ⟨value, true⟩ ↔
      ExportedOnce history name ∧ GivenLast history name value := by
  rw [← isExported_performAll_iff, ← get?_performAll_iff, Variables.IsExported, Variables.get?]
  cases (performAll .empty history).find? name with
  | none => simp
  | some entry =>
    obtain ⟨other, exported⟩ := entry
    simp [and_comm]

end Operation

/-! ### What is handed to programs -/

theorem Text.filterMap_decode?_encode (texts : List String) :
    (texts.map encode).filterMap decode? = texts := by
  rw [List.filterMap_map]
  exact (List.filterMap_congr fun text _ => decode?_encode text).trans List.filterMap_some

namespace Variables

/-- The names and values of the exported variables. -/
def exports (store : Variables) : List (String × String) :=
  (store.entries.filter (·.2.exported)).map fun pair => (pair.1, pair.2.value)

theorem mem_exports_iff {store : Variables} {name value : String} :
    (name, value) ∈ store.exports ↔ store.find? name = some ⟨value, true⟩ := by
  rw [exports, List.mem_map]
  constructor
  · rintro ⟨⟨other, text, exported⟩, mem, same⟩
    obtain ⟨rfl, rfl⟩ := Prod.mk.inj same
    obtain ⟨found, rfl⟩ := mem_exported_iff.mp mem
    exact found
  · exact fun found => ⟨(name, ⟨value, true⟩), mem_exported_iff.mpr ⟨found, rfl⟩, rfl⟩

theorem nodup_keys_exports (store : Variables) : (Association.keys store.exports).Nodup := by
  rw [Association.keys, exports, List.map_map]
  exact store.distinct.sublist (List.filter_sublist.map Prod.fst)

/-- Stores in which the same is found under each name export the same. -/
theorem exports_perm {first second : Variables}
    (same : ∀ name value, first.find? name = some ⟨value, true⟩ ↔
      second.find? name = some ⟨value, true⟩) : first.exports.Perm second.exports := by
  rw [List.perm_ext_iff_of_nodup (List.Nodup.of_map _ first.nodup_keys_exports)
    (List.Nodup.of_map _ second.nodup_keys_exports)]
  rintro ⟨name, value⟩
  rw [mem_exports_iff, mem_exports_iff, same]

theorem environment_eq_ok_iff_exports {store : Variables} {entries : List Bytes} :
    store.environment = .ok entries ↔ ¬ store.HasNul ∧
      store.exports.map (fun pair => encodeEntry pair.1 pair.2) = entries := by
  rw [environment_eq_ok_iff, exports, List.map_map]
  rfl

/-- Assigning words is exporting what they say, as far as they are assignments. -/
theorem performAll_assign (store : Variables) (words : List String) :
    Operation.performAll store (words.map .assign) =
      store.exportAll (words.filterMap splitAssignment?) := by
  induction words generalizing store with
  | nil => rfl
  | cons word words inductionHypothesis =>
    show Operation.performAll (Operation.perform store (.assign word)) (words.map .assign) = _
    rw [inductionHypothesis]
    cases splits : splitAssignment? word with
    | none => rw [Operation.perform_assign_of_none splits, List.filterMap_cons_none splits]
    | some pair =>
      rw [Operation.perform_assign_of_some splits, List.filterMap_cons_some splits]
      rfl

/-- An entry as text. -/
def entryText (pair : String × String) : String := pair.1 ++ "=" ++ pair.2

/-- Pairs whose names end at the first equals sign are found again in their entries. -/
theorem filterMap_splitAssignment? {pairs : List (String × String)}
    (named : ∀ pair ∈ pairs, pair.1 ≠ "" ∧ '=' ∉ pair.1.toList) :
    (pairs.map entryText).filterMap splitAssignment? = pairs := by
  induction pairs with
  | nil => rfl
  | cons pair pairs inductionHypothesis =>
    rw [List.forall_mem_cons] at named
    have splits : splitAssignment? (entryText pair) = some pair :=
      splitAssignment?_eq_some_iff.mpr ⟨rfl, named.1.2, named.1.1⟩
    rw [List.map_cons, List.filterMap_cons_some splits, inductionHypothesis named.2]

/-- The entries of a store, assigned in any order to an empty one, export the same again. -/
theorem exports_performAll_assign {store : Variables}
    (named : ∀ pair ∈ store.exports, pair.1 ≠ "" ∧ '=' ∉ pair.1.toList) {words : List String}
    (listed : words.Perm (store.exports.map entryText)) (name value : String) :
    (Operation.performAll .empty (words.map .assign)).find? name = some ⟨value, true⟩ ↔
      store.find? name = some ⟨value, true⟩ := by
  have pairs : (words.filterMap splitAssignment?).Perm store.exports := by
    have same := listed.filterMap splitAssignment?
    rwa [filterMap_splitAssignment? named] at same
  have distinct : (Association.keys (words.filterMap splitAssignment?)).Nodup :=
    (pairs.map Prod.fst).nodup_iff.mpr store.nodup_keys_exports
  rw [performAll_assign, find?_exportAll, Session.remembered?, find?_empty, Option.or_none,
    Session.latest?_eq_get? distinct, ← mem_exports_iff, ← pairs.mem_iff,
    ← Association.get?_eq_some_iff distinct]
  simp

end Variables

namespace Operation

/-- What a store keeps that began empty and had these operations carried out on it. It may list its
variables in any order. -/
structure Keeps (history : List Operation) (store : Variables) : Prop where
  /-- A variable has the value that it was given last. -/
  value : ∀ name value, store.get? name = some value ↔ GivenLast history name value
  /-- It is undefined if it was never given one. -/
  undefined : ∀ name, store.get? name = none ↔
    ∀ operation ∈ history, ∀ value, ¬ operation.Gives name value
  /-- It is exported if that was asked for once it was defined. -/
  exported : ∀ name, store.IsExported name ↔ ExportedOnce history name
  /-- The variables can be handed to a program unless one of those exported holds a zero
  character. -/
  handed : (∃ entries, store.environment = .ok entries) ↔
    ∀ name value, ExportedOnce history name → GivenLast history name value →
      ¬ Text.HasNul name ∧ ¬ Text.HasNul value
  /-- Then there is one entry for each exported variable, with its value, and no other. -/
  entries : ∀ entries, store.environment = .ok entries → ∃ pairs : List (String × String),
    entries = pairs.map (fun pair => Text.encode (pair.1 ++ "=" ++ pair.2)) ∧
    (pairs.map Prod.fst).Nodup ∧
    ∀ name value, (name, value) ∈ pairs ↔ ExportedOnce history name ∧ GivenLast history name value
  /-- If the names are proper ones, each entry can be cut into the name and the value again. -/
  splits : (∀ name, ExportedOnce history name → name ≠ "" ∧ '=' ∉ name.toList) →
    ∀ name value, ExportedOnce history name → GivenLast history name value →
      (Text.decode? (Text.encode (name ++ "=" ++ value))).bind splitAssignment? =
        some (name, value)
  /-- Their entries, assigned in any order to an empty store, give the same entries again, in
  whatever order that store lists its variables. -/
  rereads : (∀ name, ExportedOnce history name → name ≠ "" ∧ '=' ∉ name.toList) →
    ∀ entries, store.environment = .ok entries →
      ∀ words : List String, (words.map Text.encode).Perm entries →
        ∀ again : Variables,
          again.entries.Perm (performAll .empty (words.map .assign)).entries →
            ∃ entriesAgain, again.environment = .ok entriesAgain ∧ entriesAgain.Perm entries

/-- Whatever is done to an empty store, it keeps the values that were given last and the marks that
were ever set, in whatever order it lists its variables. -/
theorem performAll_keeps (history : List Operation) (store : Variables)
    (listed : store.entries.Perm (performAll .empty history).entries) : Keeps history store := by
  have exported (name value : String) : store.find? name = some ⟨value, true⟩ ↔
      ExportedOnce history name ∧ GivenLast history name value := by
    rw [Variables.find?_perm listed, find?_performAll_iff]
  have sameValue (name : String) : store.get? name = (performAll .empty history).get? name := by
    rw [Variables.get?, Variables.find?_perm listed, Variables.get?]
  have properPairs (proper : ∀ name, ExportedOnce history name → name ≠ "" ∧ '=' ∉ name.toList) :
      ∀ pair ∈ store.exports, pair.1 ≠ "" ∧ '=' ∉ pair.1.toList :=
    fun pair mem => proper pair.1 ((exported _ _).mp (Variables.mem_exports_iff.mp mem)).1
  constructor
  case value => exact fun name value => sameValue name ▸ get?_performAll_iff history name value
  case undefined => exact fun name => sameValue name ▸ get?_performAll_eq_none_iff history name
  case exported =>
    intro name
    rw [← isExported_performAll_iff, Variables.IsExported, Variables.find?_perm listed]
    rfl
  case handed =>
    rw [Variables.exists_environment_ok_iff, Variables.HasNul]
    simp only [exported, not_exists, not_and, not_or, and_imp]
  case entries =>
    intro entries handed
    obtain ⟨_, rfl⟩ := Variables.environment_eq_ok_iff_exports.mp handed
    refine ⟨store.exports, rfl, store.nodup_keys_exports, fun name value => ?_⟩
    rw [Variables.mem_exports_iff, exported]
  case splits =>
    intro proper name value marked _
    rw [Text.decode?_encode, Option.bind_some]
    exact splitAssignment?_eq_some_iff.mpr ⟨rfl, (proper name marked).2, (proper name marked).1⟩
  case rereads =>
    intro proper entries handed words same again relisted
    obtain ⟨free, rfl⟩ := Variables.environment_eq_ok_iff_exports.mp handed
    have texts : words.Perm (store.exports.map Variables.entryText) := by
      have encoded : (words.map Text.encode).Perm
          ((store.exports.map Variables.entryText).map Text.encode) := by
        rw [List.map_map]
        exact same
      have decoded := encoded.filterMap Text.decode?
      rwa [Text.filterMap_decode?_encode, Text.filterMap_decode?_encode] at decoded
    have found (name value : String) : again.find? name = some ⟨value, true⟩ ↔
        store.find? name = some ⟨value, true⟩ := by
      rw [Variables.find?_perm relisted]
      exact Variables.exports_performAll_assign (properPairs proper) texts name value
    have freeToo : ¬ again.HasNul := by
      simp only [Variables.HasNul, found]
      exact free
    exact ⟨_, Variables.environment_eq_ok_iff_exports.mpr ⟨freeToo, rfl⟩,
      (Variables.exports_perm found).map _⟩

/-- A variable that is exported before it is defined stays unexported, one that is exported later
stays so when it is set again, and words that are no assignments do nothing. -/
theorem keeps_remarked :
    let history := [mark "LATE", set "LATE" "x", set "KEPT" "1", mark "KEPT", set "KEPT" "2",
      assign "WORD=a=b", assign "=y", assign "plain"]
    let listed : Variables :=
      ⟨[("WORD", ⟨"a=b", true⟩), ("KEPT", ⟨"2", true⟩), ("LATE", ⟨"x", false⟩)], by decide⟩
    listed.entries.Perm (performAll .empty history).entries ∧ Keeps history listed ∧
      listed.environment = .ok [Text.encode "WORD=a=b", Text.encode "KEPT=2"] := by
  intro history listed
  have same : listed.entries.Perm (performAll .empty history).entries := by decide +kernel
  exact ⟨same, performAll_keeps history listed same, by decide +kernel⟩

end Operation

end PipelineShell
