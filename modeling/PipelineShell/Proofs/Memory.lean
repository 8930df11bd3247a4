/-
What a session remembers.

Only assignments write to the variables, so what is found under a name is what the latest assignment
of that name wrote, or else what the session started with. This file says so for all lines at once,
and follows the value to the places where it is read: the words that refer to the variable, and the
environment that programs are started with.
-/

import PipelineShell.Proofs.Dispatch

namespace PipelineShell.Session

variable {σ : Type} (system : System σ) (executor : Executor σ) (mode : OutputMode)

/-! ### What lines write -/

/-- What a line writes: if it ends as an assignment, the name and the value in its first word. -/
def write? (line : String) (session : Session σ) : Option (String × String) :=
  match (runLine system executor mode line session).1 with
  | .ok .assigned => session.store.assignment? line
  | _ => none

/-- What lines write, in order. -/
def writes : List String → Session σ → List (String × String)
  | [], _ => []
  | line :: lines, session =>
    (write? system executor mode line session).toList ++
      writes lines (runLine system executor mode line session).2

/-- What was written last under a name. -/
def latest? (name : String) (written : List (String × String)) : Option String :=
  written.reverse.lookup name

/-- What there is under a name after writing: what was written last, exported, or else what there
was before. -/
def remembered? (before : Variables) (written : List (String × String)) (name : String) :
    Option Variable :=
  ((latest? name written).map fun value => ⟨value, true⟩).or (before.find? name)

theorem latest?_append (name : String) (earlier later : List (String × String)) :
    latest? name (earlier ++ later) = (latest? name later).or (latest? name earlier) := by
  rw [latest?, List.reverse_append, List.lookup_append, latest?, latest?]

theorem write?_eq (line : String) (session : Session σ) :
    write? system executor mode line session = session.store.assignment? line := by
  unfold write?
  split
  · rfl
  · rename_i other
    symm
    rw [Option.eq_none_iff_forall_ne_some]
    exact fun pair assigns =>
      other ((runLine_eq_assigned_iff system executor mode).mpr ⟨pair, assigns⟩)

theorem remembered?_append (before : Variables) (earlier later : List (String × String))
    (name : String) :
    remembered? before (earlier ++ later) name =
      ((latest? name later).map fun value => ⟨value, true⟩).or
        (remembered? before earlier name) := by
  rw [remembered?, latest?_append, remembered?]
  cases latest? name later <;> rfl

theorem find?_after (store : Variables) (assignment : Option (String × String)) (name : String) :
    (store.after assignment).find? name = remembered? store assignment.toList name := by
  cases assignment with
  | none => rfl
  | some pair =>
    obtain ⟨written, value⟩ := pair
    rw [remembered?, Option.toList_some, latest?, List.reverse_singleton, List.lookup_singleton]
    by_cases same : name = written
    · subst same
      rw [Variables.find?_after_self]
      simp
    · rw [Variables.find?_after_of_ne _ same]
      simp [same]

/-- Lines leave the variables as their writes do. -/
theorem find?_runEach (lines : List String) (session : Session σ) (name : String) :
    (runEach system executor mode lines session).store.find? name =
      remembered? session.store (writes system executor mode lines session) name := by
  induction lines generalizing session with
  | nil => rfl
  | cons line lines inductionHypothesis =>
    rw [runEach_cons, inductionHypothesis, remembered?, store_runLine, find?_after, writes,
      write?_eq, remembered?_append]

/-! ### Reading what was written -/

/-- How a line treats the variables, in a session that began with the variables `initial` and has
written `written` since. -/
structure Remembers (initial : Variables) (written : List (String × String)) (line : String)
    (current : Session σ) : Prop where
  /-- Under each name there is what was written last. -/
  found : ∀ name, current.store.find? name = remembered? initial written name
  /-- A line that does not end as an assignment writes nothing and changes no variable. -/
  unchanged : (runLine system executor mode line current).1 ≠ .ok .assigned →
    write? system executor mode line current = none ∧
      (runLine system executor mode line current).2.store = current.store
  /-- One that does writes what its first word says: it sets and exports the variable before the
  first equals sign, and changes no other. -/
  assigned : (runLine system executor mode line current).1 = .ok .assigned →
    ∃ name value rest, write? system executor mode line current = some (name, value) ∧
      current.store.expand (Words.ofLine line) = .ok ((name ++ "=" ++ value) :: rest) ∧
      name ≠ "" ∧ '=' ∉ name.toList ∧
      (runLine system executor mode line current).2.store.find? name = some ⟨value, true⟩ ∧
      ∀ other, other ≠ name → (runLine system executor mode line current).2.store.find? other =
        current.store.find? other
  /-- If each variable that the line refers to is defined, a reference stands for its value, and any
  other word for itself. -/
  expands : (∀ name, name ≠ "" → "$" ++ name ∈ Words.ofLine line →
      remembered? initial written name ≠ none) →
    ∃ words, current.store.expand (Words.ofLine line) = .ok words ∧
      List.Forall₂ (fun word value =>
        (∀ name, name ≠ "" → word = "$" ++ name →
          (remembered? initial written name).map (·.value) = some value) ∧
        ((∀ name, name ≠ "" → word ≠ "$" ++ name) → word = value)) (Words.ofLine line) words
  /-- The first reference to a variable that is not defined ends the line. -/
  undefined : ∀ before name after, Words.ofLine line = before ++ ("$" ++ name) :: after →
    name ≠ "" → remembered? initial written name = none →
    (∀ other, other ≠ "" → "$" ++ other ∈ before → remembered? initial written other ≠ none) →
    runLine system executor mode line current = (.error (.expansion ⟨name⟩), current)
  /-- A pipeline is run with these variables. Its programs get those that are exported. -/
  handed : ∀ pipeline store shell, Hands system mode line current pipeline store shell →
    (∀ name, store.find? name = remembered? initial written name) ∧
    ∀ entries, store.environment = .ok entries → ∀ entry, entry ∈ entries ↔
      ∃ name value, remembered? initial written name = some ⟨value, true⟩ ∧
        entry = Variables.encodeEntry name value

/-- What words stand for when each variable that they refer to is defined. -/
theorem expand_of_defined {store : Variables} {words : List String}
    (defined : ∀ name, name ≠ "" → "$" ++ name ∈ words → store.get? name ≠ none) :
    ∃ expanded, store.expand words = .ok expanded ∧
      List.Forall₂ (fun word value =>
        (∀ name, name ≠ "" → word = "$" ++ name → store.get? name = some value) ∧
        ((∀ name, name ≠ "" → word ≠ "$" ++ name) → word = value)) words expanded := by
  cases expands : store.expand words with
  | error fault =>
    obtain ⟨before, word, after, rfl, refers, undefined, _⟩ :=
      Variables.expand_eq_error_iff.mp expands
    obtain ⟨rfl, nonempty⟩ := reference?_eq_some_iff.mp refers
    exact absurd undefined (defined fault.name nonempty (by simp))
  | ok expanded =>
    refine ⟨expanded, rfl, (Variables.expand_eq_ok_iff.mp expands).imp fun word value found => ?_⟩
    rcases Variables.expandWord_eq_ok_iff.mp found with ⟨plain, rfl⟩ | ⟨name, refers, stored⟩
    · refine ⟨fun name nonempty same => ?_, fun _ => rfl⟩
      rw [reference?_eq_some_iff.mpr ⟨same, nonempty⟩] at plain
      cases plain
    · obtain ⟨same, nonempty⟩ := reference?_eq_some_iff.mp refers
      refine ⟨fun other otherNonempty sameToo => ?_, fun plain => absurd same (plain name nonempty)⟩
      rw [reference?_eq_some_iff.mpr ⟨sameToo, otherNonempty⟩] at refers
      cases refers
      exact stored

theorem runLine_of_undefined {line name : String} {session : Session σ} {before after : List String}
    (cut : Words.ofLine line = before ++ ("$" ++ name) :: after) (nonempty : name ≠ "")
    (undefined : session.store.get? name = none)
    (defined : ∀ other, other ≠ "" → "$" ++ other ∈ before → session.store.get? other ≠ none) :
    runLine system executor mode line session = (.error (.expansion ⟨name⟩), session) := by
  have fails : session.store.expand (Words.ofLine line) = .error ⟨name⟩ := by
    refine Variables.expand_eq_error_iff.mpr ⟨before, _, after, cut,
      reference?_eq_some_iff.mpr ⟨rfl, nonempty⟩, undefined, fun earlier mem other refers => ?_⟩
    obtain ⟨rfl, otherNonempty⟩ := reference?_eq_some_iff.mp refers
    exact defined other otherNonempty mem
  rw [runLine, fails]

theorem exists_of_runLine_assigned {line : String} {session : Session σ}
    (assigned : (runLine system executor mode line session).1 = .ok .assigned) :
    ∃ name value rest, write? system executor mode line session = some (name, value) ∧
      session.store.expand (Words.ofLine line) = .ok ((name ++ "=" ++ value) :: rest) ∧
      name ≠ "" ∧ '=' ∉ name.toList ∧
      (runLine system executor mode line session).2.store =
        session.store.after (some (name, value)) := by
  obtain ⟨⟨name, value⟩, assigns⟩ := (runLine_eq_assigned_iff system executor mode).mp assigned
  rw [store_runLine, write?_eq, assigns]
  unfold Variables.assignment? at assigns
  split at assigns
  · cases assigns
  · rename_i words expanded
    cases words with
    | nil => cases assigns
    | cons first rest =>
      obtain ⟨rfl, absent, nonempty⟩ := splitAssignment?_eq_some_iff.mp assigns
      exact ⟨name, value, rest, rfl, expanded, nonempty, absent, rfl⟩

/-- Whatever lines a session has carried out, the next one reads what they wrote last, and writes
only if it ends as an assignment. -/
theorem runEach_remembers (lines : List String) (session : Session σ) (line : String) :
    Remembers system executor mode session.store (writes system executor mode lines session) line
      (runEach system executor mode lines session) := by
  have found := find?_runEach system executor mode lines session
  generalize writes system executor mode lines session = written at found ⊢
  generalize runEach system executor mode lines session = current at found ⊢
  have value : ∀ name, current.store.get? name =
      (remembered? session.store written name).map (·.value) := by
    intro name
    rw [Variables.get?, found]
  have undefined : ∀ name, current.store.get? name = none ↔
      remembered? session.store written name = none := by
    intro name
    rw [value, Option.map_eq_none_iff]
  constructor
  case found => exact found
  case unchanged =>
    intro other
    rw [store_runLine, write?_eq]
    cases assigns : current.store.assignment? line with
    | none => exact ⟨rfl, rfl⟩
    | some pair =>
      exact absurd ((runLine_eq_assigned_iff system executor mode).mpr ⟨pair, assigns⟩) other
  case assigned =>
    intro assigned
    obtain ⟨name, value, rest, writes, expanded, nonempty, absent, stored⟩ :=
      exists_of_runLine_assigned system executor mode assigned
    refine ⟨name, value, rest, writes, expanded, nonempty, absent, ?_, fun other different => ?_⟩
    · rw [stored, Variables.find?_after_self]
    · rw [stored, Variables.find?_after_of_ne _ different]
  case expands =>
    simp only [ne_eq, ← undefined, ← value]
    exact expand_of_defined
  case undefined =>
    simp only [ne_eq, ← undefined]
    intro before name after cut nonempty
    exact runLine_of_undefined system executor mode cut nonempty
  case handed =>
    intro pipeline store shell hands
    obtain ⟨_, _, _, _, _, rfl, _⟩ := hands_iff.mp hands
    refine ⟨found, fun entries handed entry => ?_⟩
    simp only [← found]
    exact Variables.mem_environment_iff handed

end PipelineShell.Session
