/-
Where programs are looked for.

A program gets its variables as entries `NAME=value`, and the search path is what follows `PATH=` in
the first entry that begins so. An entry can begin so without being that of `PATH`: a name with an
equals sign in it would do. This file proves that no session ever has such a name, as long as it
inherits none. Settings and assignments end a name at the first equals sign, and a variable of the
process ends its name at the first one that is not its first character. So exactly one entry can
begin like the search path, and neither the order of the entries nor that of the settings matters.
-/

import PipelineShell.Proofs.Memory
import PipelineShell.Proofs.Wiring

namespace PipelineShell

variable {σ : Type}

/-! ### Names -/

/-- Whether a name holds an equals sign at most as its first character. -/
def EndsAtEquals (name : String) : Prop := '=' ∉ name.toList.tail

instance : DecidablePred EndsAtEquals := fun _ => inferInstanceAs (Decidable (_ ∉ _))

theorem endsAtEquals_of_notMem {name : String} (absent : '=' ∉ name.toList) : EndsAtEquals name :=
  fun mem => absent (List.mem_of_mem_tail mem)

/-- The byte of an equals sign. -/
def equalsByte : UInt8 := 61

theorem encodeEntry_eq (name value : String) :
    Variables.encodeEntry name value = Text.encode name ++ equalsByte :: Text.encode value := by
  have sign : Text.encode "=" = [equalsByte] := by decide
  rw [Variables.encodeEntry, Text.encode_append, Text.encode_append, sign, List.append_assoc]
  rfl

/-- Lists that are cut at their first mark are cut in one way only. -/
theorem append_mark_inj {α : Type} [DecidableEq α] {mark : α} {before after first second : List α}
    (absentBefore : mark ∉ before) (absentFirst : mark ∉ first)
    (same : before ++ mark :: after = first ++ mark :: second) :
    before = first ∧ after = second := by
  have cut : (before ++ mark :: after).span (· ≠ mark) = (before, mark :: after) :=
    span_eq_cons_iff.mpr ⟨rfl, rfl, absentBefore⟩
  have cutToo : (first ++ mark :: second).span (· ≠ mark) = (first, mark :: second) :=
    span_eq_cons_iff.mpr ⟨rfl, rfl, absentFirst⟩
  rw [same, cutToo] at cut
  cases cut
  exact ⟨rfl, rfl⟩

/-- Only the entry of `PATH` begins like the search path. -/
theorem eq_path_of_mark {name value : String} {path : Bytes} (ends : EndsAtEquals name)
    (begins : Lookup.searchPathMark ++ path = Variables.encodeEntry name value) :
    name = "PATH" ∧ path = Text.encode value := by
  have mark : Lookup.searchPathMark = Text.encode "PATH" ++ [equalsByte] := by decide
  have isSign (text : String) : equalsByte ∈ Text.encode text ↔ '=' ∈ text.toList :=
    Text.ascii_mem_encode_iff (by decide) (by decide)
  rw [mark, List.append_assoc, List.singleton_append, encodeEntry_eq] at begins
  have absentPath : equalsByte ∉ Text.encode "PATH" := by decide
  by_cases absent : '=' ∈ name.toList
  · -- The sign is the first character of the name then, and `PATH` begins otherwise.
    exfalso
    cases characters : name.toList with
    | nil => simp [characters] at absent
    | cons first rest =>
      rw [EndsAtEquals, characters] at ends
      rw [characters] at absent
      obtain rfl : '=' = first := (List.mem_cons.mp absent).resolve_right ends
      have signBytes : String.utf8EncodeChar '=' = [equalsByte] := by decide
      have pathBytes : Text.encode "PATH" = [80, 65, 84, 72] := by decide
      rw [Text.encode_eq_flatMap name, characters, List.flatMap_cons, signBytes, pathBytes]
        at begins
      exact absurd (List.cons.inj begins).1 (by decide)
  · obtain ⟨same, rest⟩ := append_mark_inj absentPath (mt (isSign name).mp absent) begins
    exact ⟨(Text.encode_inj.mp same).symm, rest⟩

/-! ### The names that settings define -/

namespace Settings

theorem mem_of_mem_trim {text : String} {character : Char}
    (mem : character ∈ (Text.trim text).toList) : character ∈ text.toList := by
  rw [Text.trim, String.toList_ofList, Text.trimEnd, List.mem_reverse] at mem
  have inStart := List.mem_reverse.mp ((List.dropWhile_sublist _).subset mem)
  exact (List.dropWhile_sublist _).subset inStart

theorem dropMarks_suffix (key : List Char) : dropMarks key <:+ key := by
  fun_induction dropMarks key with
  | case1 rest inductionHypothesis =>
    exact inductionHypothesis.trans (List.suffix_append ['e', 'n', 'v', '.'] rest)
  | case2 key _ => exact List.suffix_refl key

/-- A line that defines a variable names it before the first equals sign. -/
theorem exists_of_readChange_define {line name value : String}
    (defines : readChange line = .ok (.define name value)) :
    ∃ written : String, line = written ++ "=" ++ value ∧ '=' ∉ written.toList ∧
      name.toList = dropMarks (Text.trim written).toList := by
  unfold readChange at defines
  split at defines
  · cases defines
  · rename_i written sign rest cut
    obtain ⟨characters, rfl, absent⟩ := span_eq_cons_iff.mp cut
    dsimp only at defines
    split at defines
    · cases defines
    · split at defines <;> cases defines
    · cases defines
    · split at defines <;> cases defines
    · split at defines
      · split at defines
        · cases defines
        · obtain ⟨rfl, rfl⟩ := Change.define.inj (Except.ok.inj defines)
          refine ⟨String.ofList written, ?_, by simpa using absent, String.toList_ofList⟩
          rw [← String.toList_inj, characters]
          simp
      · cases defines

/-- What every change by a line keeps is kept by all lines. -/
theorem readLines_induction {Invariant : Settings → Prop}
    (step : ∀ settings line change, readChange line = .ok change → Invariant settings →
      Invariant (settings.apply change))
    {settings loaded : Settings} {number : Nat} {lines : List String}
    (loads : readLines settings number lines = .ok loaded) (holds : Invariant settings) :
    Invariant loaded := by
  induction lines generalizing settings number with
  | nil => exact Except.ok.inj loads ▸ holds
  | cons line rest inductionHypothesis =>
    rw [readLines] at loads
    split at loads
    · cases loads
    · exact inductionHypothesis loads holds
    · rename_i change asked
      refine inductionHypothesis loads (step settings line change ?_ holds)
      unfold readLine at asked
      split at asked
      · cases asked
      · cases changed : readChange line with
        | error fault =>
          rw [changed] at asked
          cases asked
        | ok other =>
          rw [changed] at asked
          cases asked
          rfl

/-- Whether settings define each variable once, and under a name without an equals sign. -/
structure WellNamed (settings : Settings) : Prop where
  distinct : (Association.keys settings.definitions).Nodup
  absent : ∀ pair ∈ settings.definitions, '=' ∉ pair.1.toList

theorem wellNamed_of_ofText {text : String} {settings : Settings}
    (loads : ofText text = .ok settings) : WellNamed settings := by
  refine readLines_induction (fun settings line change asked named => ?_) loads ⟨by simp [default],
    by simp [default]⟩
  cases change with
  | prompt | threshold | journalFile | outputMode => exact ⟨named.distinct, named.absent⟩
  | define name value =>
    obtain ⟨written, _, absent, suffix⟩ := exists_of_readChange_define asked
    refine ⟨Association.nodup_keys_put named.distinct name value, fun pair mem => ?_⟩
    rcases Association.eq_or_mem_of_mem_put mem with rfl | earlier
    · intro sign
      rw [suffix] at sign
      exact absent (mem_of_mem_trim ((dropMarks_suffix _).subset sign))
    · exact named.absent pair earlier

end Settings

/-! ### Lists of variables in any order -/

/-- With distinct keys it does not matter in which order pairs are listed. -/
theorem Association.get?_perm {α β : Type} [DecidableEq α] {pairs listed : List (α × β)}
    (same : listed.Perm pairs) (distinct : (keys pairs).Nodup) (key : α) :
    get? key listed = get? key pairs := by
  have distinctToo : (keys listed).Nodup := (same.map Prod.fst).nodup_iff.mpr distinct
  ext value
  rw [get?_eq_some_iff distinctToo, get?_eq_some_iff distinct, same.mem_iff]

/-- With distinct keys the last pair of a key is the first one. -/
theorem Session.latest?_eq_get? {pairs : List (String × String)}
    (distinct : (Association.keys pairs).Nodup) (name : String) :
    latest? name pairs = Association.get? name pairs := by
  induction pairs with
  | nil => rfl
  | cons pair rest inductionHypothesis =>
    rw [Association.keys_cons, List.nodup_cons] at distinct
    have later := inductionHypothesis distinct.2
    have both : latest? name (pair :: rest) = (latest? name rest).or (latest? name [pair]) :=
      latest?_append name [pair] rest
    rw [both, later, Association.get?, latest?, List.reverse_singleton, List.lookup_singleton]
    by_cases same : pair.1 = name
    · subst same
      rw [Association.get?_eq_none_iff.mpr distinct.1]
      simp
    · have different : (name == pair.1) = false := beq_eq_false_iff_ne.mpr (Ne.symm same)
      rw [different, if_neg same]
      simp

namespace Variables

/-- Variables that are exported are found as they were given last. -/
theorem find?_exportAll (store : Variables) (pairs : List (String × String)) (name : String) :
    (store.exportAll pairs).find? name = Session.remembered? store pairs name := by
  induction pairs generalizing store with
  | nil => rfl
  | cons pair rest inductionHypothesis =>
    have next : store.exportAll (pair :: rest) = (store.after (some pair)).exportAll rest := rfl
    rw [next, inductionHypothesis, Session.remembered?, Session.find?_after, Option.toList_some]
    exact (Session.remembered?_append store [pair] rest name).symm

theorem find?_perm {store listed : Variables} (same : listed.entries.Perm store.entries)
    (name : String) : listed.find? name = store.find? name :=
  Association.get?_perm same store.distinct name

/-- Whether every name ends where an entry is cut. -/
def Named (store : Variables) : Prop := store.All fun name _ => EndsAtEquals name

instance : DecidablePred Named := fun store => List.decidableBAll _ store.entries

theorem Named.after {store : Variables} (named : store.Named) (line : String) :
    (store.after (store.assignment? line)).Named := by
  refine All.after named fun pair assigns => ?_
  obtain ⟨_, _, _, absent, _⟩ := exists_of_assignment? assigns
  exact endsAtEquals_of_notMem absent

/-! ### Finding the search path -/

/-- The search path that variables ask for: the value of `PATH`, if it is exported. -/
def searchPath (store : Variables) : Bytes :=
  match store.find? "PATH" with
  | some ⟨value, true⟩ => Text.encode value
  | _ => Lookup.defaultSearchPath

theorem searchPath_of_find? {store : Variables} {value : String}
    (found : store.find? "PATH" = some ⟨value, true⟩) : store.searchPath = Text.encode value := by
  rw [searchPath, found]

theorem searchPath_of_not_exported {store : Variables}
    (absent : ∀ value, store.find? "PATH" ≠ some ⟨value, true⟩) :
    store.searchPath = Lookup.defaultSearchPath := by
  unfold searchPath
  split
  · rename_i value found
    exact absurd found (absent value)
  · rfl

/-- An entry that begins like the search path is that of `PATH`. -/
theorem Named.find?_of_mark {store : Variables} {environment : List Bytes} (named : store.Named)
    (handed : store.environment = .ok environment) {path : Bytes}
    (mem : Lookup.searchPathMark ++ path ∈ environment) :
    ∃ value, store.find? "PATH" = some ⟨value, true⟩ ∧ path = Text.encode value := by
  obtain ⟨name, value, found, begins⟩ := (mem_environment_iff handed).mp mem
  have ends : EndsAtEquals name := named (name, ⟨value, true⟩) (Association.mem_of_get? found)
  obtain ⟨rfl, same⟩ := eq_path_of_mark ends begins
  exact ⟨value, found, same⟩

/-- The search path that is found among the entries is the one that the variables ask for. -/
theorem Named.searchPath_eq {store : Variables} {environment : List Bytes} (named : store.Named)
    (handed : store.environment = .ok environment) :
    Lookup.searchPath environment = store.searchPath := by
  unfold Lookup.searchPath
  cases found : environment.findSome? Lookup.searchPathMark.isPrefixOf? with
  | none =>
    rw [searchPath_of_not_exported]
    · rfl
    · intro value exported
      -- The entry of `PATH` would have been found.
      have mem := (mem_environment_iff handed).mpr ⟨"PATH", value, exported, rfl⟩
      have missed := List.findSome?_eq_none_iff.mp found _ mem
      have begins : Lookup.searchPathMark ++ Text.encode value = encodeEntry "PATH" value := by
        rw [encodeEntry, Text.encode_append]
        rfl
      rw [List.isPrefixOf?_eq_some_iff_append_eq.mpr begins] at missed
      cases missed
  | some path =>
    obtain ⟨entry, mem, cut⟩ := List.exists_of_findSome?_eq_some found
    rw [List.isPrefixOf?_eq_some_iff_append_eq] at cut
    obtain ⟨value, exported, rfl⟩ := named.find?_of_mark handed (cut ▸ mem)
    rw [searchPath_of_find? exported]
    rfl

end Variables

/-! ### Sessions -/

namespace Session

/-- What programs are looked for with, when a session that was started with the variables `initial`
has the variables `current`. -/
structure Searches (settings : Settings) (inherited : List (String × String))
    (initial current : Variables) : Prop where
  /-- The session started with the variables of the process, overridden by those of the settings,
  and all of them were exported. -/
  initial : ∀ name, initial.find? name =
    ((Association.get? name settings.definitions).or (latest? name inherited)).map
      fun value => ⟨value, true⟩
  /-- In whatever order the variables are listed when they are handed over, the search path is the
  value of `PATH` if that is exported, and otherwise the default one. -/
  path : ∀ listed : Variables, listed.entries.Perm current.entries →
    ∀ environment, listed.environment = .ok environment →
      Lookup.searchPath environment = current.searchPath
  /-- No other variable has an entry that begins like the search path. -/
  only : ∀ listed : Variables, listed.entries.Perm current.entries →
    ∀ environment, listed.environment = .ok environment →
      ∀ path, Lookup.searchPathMark ++ path ∈ environment →
        ∃ value, current.find? "PATH" = some ⟨value, true⟩ ∧ path = Text.encode value

theorem find?_start {settings : Settings} {definitions : List (String × String)}
    (distinct : (Association.keys settings.definitions).Nodup)
    (same : definitions.Perm settings.definitions) (inherited : List (String × String))
    (shell : Interpreter σ) (name : String) :
    (start { settings with definitions } inherited shell).store.find? name =
      ((Association.get? name settings.definitions).or (latest? name inherited)).map
        fun value => ⟨value, true⟩ := by
  have distinctToo : (Association.keys definitions).Nodup :=
    (same.map Prod.fst).nodup_iff.mpr distinct
  rw [start, Variables.find?_exportAll, remembered?, Variables.find?_exportAll, remembered?,
    latest?_eq_get? distinctToo, Association.get?_perm same distinct, Variables.find?_empty,
    Option.or_none, Option.map_or]

theorem named_start {settings : Settings} {inherited : List (String × String)}
    (absent : ∀ pair ∈ settings.definitions, '=' ∉ pair.1.toList)
    (ends : ∀ pair ∈ inherited, EndsAtEquals pair.1) (shell : Interpreter σ) :
    (start settings inherited shell).store.Named := by
  have nothing : Variables.empty.Named := fun _ mem => by cases mem
  exact Variables.All.exportAll (Variables.All.exportAll nothing ends) fun pair mem =>
    endsAtEquals_of_notMem (absent pair mem)

/-- Whatever the settings of a session are and whatever lines it has carried out, programs are
looked for in its `PATH`. -/
theorem runEach_searches (system : System σ) (executor : Executor σ) (mode : OutputMode)
    (lines : List String) (shell : Interpreter σ) {text : String} {settings : Settings}
    (loads : Settings.ofText text = .ok settings) {definitions : List (String × String)}
    (listing : definitions.Perm settings.definitions) {inherited : List (String × String)}
    (ends : ∀ pair ∈ inherited, EndsAtEquals pair.1) :
    let session := start { settings with definitions } inherited shell
    Searches settings inherited session.store
      (runEach system executor mode lines session).store := by
  intro session
  obtain ⟨distinct, absent⟩ := Settings.wellNamed_of_ofText loads
  have begins : session.store.Named :=
    named_start (fun pair mem => absent pair (listing.mem_iff.mp mem)) ends shell
  have named : (runEach system executor mode lines session).store.Named :=
    store_runEach_induction system executor mode (fun _ line current => current.after line) lines
      session begins
  generalize (runEach system executor mode lines session).store = current at named ⊢
  constructor
  case initial => exact find?_start distinct listing inherited shell
  case path =>
    intro listed same environment handed
    have namedToo : listed.Named := fun pair mem => named pair (same.mem_iff.mp mem)
    rw [namedToo.searchPath_eq handed, Variables.searchPath, Variables.find?_perm same]
    rfl
  case only =>
    intro listed same environment handed path mem
    have namedToo : listed.Named := fun pair mem => named pair (same.mem_iff.mp mem)
    obtain ⟨value, found, rest⟩ := namedToo.find?_of_mark handed mem
    exact ⟨value, Variables.find?_perm same "PATH" ▸ found, rest⟩

/-- Settings that define the search path, after a variable whose value reads like its entry. -/
def rivals : Settings :=
  { Settings.default with definitions := [("OTHER", "PATH=/other"), ("PATH", "/settings")] }

/-- The name of one variable begins with an equals sign, that of another ends like the search path,
and the values of two read like its entry. -/
def lookalikes : Variables where
  entries := [("OTHERPATH", ⟨"PATH=/later", true⟩), ("OTHER", ⟨"PATH=/other", true⟩),
    ("HOME", ⟨"/", true⟩), ("PATH", ⟨"/usr/bin:/bin", true⟩), ("=PATH", ⟨"/hidden", true⟩)]
  distinct := by decide

/-- The process has a search path, the settings define another one and are listed the other way
round, and an assignment decides. -/
theorem searches_assigned :
    let text := "env.OTHER=PATH=/other\nenv.PATH=/settings"
    let definitions := rivals.definitions.reverse
    let inherited := [("=PATH", "/hidden"), ("PATH", "/inherited"), ("HOME", "/")]
    let session : Session ProcessId := start { rivals with definitions } inherited (.start 100)
    let current := runEach System.granting (fun _ _ shell => (.ok 0, shell)) .truncate
      ["OTHERPATH=PATH=/later", "PATH=/usr/bin:/bin"] session
    Settings.ofText text = .ok rivals ∧ definitions.Perm rivals.definitions ∧
      (∀ pair ∈ inherited, EndsAtEquals pair.1) ∧
      Searches rivals inherited session.store current.store ∧
      session.store.find? "PATH" = some ⟨"/settings", true⟩ ∧
      lookalikes.entries.Perm current.store.entries ∧
      ∃ environment, lookalikes.environment = .ok environment ∧
        Lookup.searchPath environment = Text.encode "/usr/bin:/bin" := by
  intro text definitions inherited session current
  have lines : Text.textLines text = ["env.OTHER=PATH=/other", "env.PATH=/settings"] := by
    decide +kernel
  have loads : Settings.ofText text = .ok rivals := by
    rw [Settings.ofText, lines]
    rfl
  have listing : definitions.Perm rivals.definitions := List.reverse_perm _
  have ends : ∀ pair ∈ inherited, EndsAtEquals pair.1 := by decide
  have searches : Searches rivals inherited session.store current.store :=
    runEach_searches System.granting (fun _ _ shell => (.ok 0, shell)) .truncate
      ["OTHERPATH=PATH=/later", "PATH=/usr/bin:/bin"] (.start 100) loads listing ends
  have initial : session.store.find? "PATH" = some ⟨"/settings", true⟩ := searches.initial "PATH"
  have same : lookalikes.entries.Perm current.store.entries := by
    rw [store_runEach]
    decide +kernel
  have path : current.store.searchPath = Text.encode "/usr/bin:/bin" := by
    rw [store_runEach]
    decide +kernel
  have handed : lookalikes.environment = .ok (lookalikes.entries.map fun pair =>
      Variables.encodeEntry pair.1 pair.2.value) := by
    decide +kernel
  exact ⟨loads, listing, ends, searches, initial, same, _, handed,
    path ▸ searches.path lookalikes same _ handed⟩

end Session

end PipelineShell
