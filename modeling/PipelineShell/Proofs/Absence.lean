/-
What a child exits with when there is no file for its program.

Two refusals say that a file is not there: it is missing, or something on the way to it is no
directory. A search goes on after both, and in the end it reports the last one that it met. Only the
first of the two has the code for a program that was not found. So a search that meets nothing else
and ends with the first one gives that code, in whatever order the directories come, and the other
code then means that a file was there. A search that ends with the second one gives the other code
although nothing was there, and it may give the right one when the directories change places.
-/

import PipelineShell.Proofs.Candidates
import PipelineShell.Proofs.Places

namespace PipelineShell

variable {σ : Type}

namespace Lookup

/-! ### Files that are not there -/

/-- Whether an answer says that the file is not there. -/
def IsMissing (answer : Option Errno) : Prop :=
  answer = some .noEntry ∨ answer = some .notDirectory

instance : DecidablePred IsMissing := fun _ => inferInstanceAs (Decidable (_ ∨ _))

theorem IsMissing.goesOn {answer : Option Errno} (missing : IsMissing answer) : GoesOn answer := by
  rcases missing with same | same
  · exact .inl same
  · exact .inr (.inl same)

theorem IsMissing.ne_accessDenied {answer : Option Errno} (missing : IsMissing answer) :
    answer ≠ some .accessDenied := by
  rintro rfl
  exact absurd missing (by decide)

/-- Whether the last file is looked for in something that is no directory. -/
def EndsAstray (refusal : Bytes → Option Errno) (files : List Bytes) : Prop :=
  files.getLast?.bind refusal = some .notDirectory

instance (refusal : Bytes → Option Errno) : DecidablePred (EndsAstray refusal) :=
  fun _ => inferInstanceAs (Decidable (_ = _))

/-- The code that a child exits with when it looks for its program among files. There is none if one
of them starts. -/
def exit? (refusal : Bytes → Option Errno) (files : List Bytes) : Option Int :=
  match search refusal files with
  | .started _ => none
  | .refused errno => some (exitCode errno)

section

variable {refusal : Bytes → Option Errno} {files : List Bytes}

theorem endsAstray_concat {before : List Bytes} {last : Bytes} :
    EndsAstray refusal (before ++ [last]) ↔ refusal last = some .notDirectory := by
  rw [EndsAstray, List.getLast?_concat, Option.bind_some]

/-- Where no file is there, the last one decides. -/
theorem search_missing (nonempty : files ≠ [])
    (missing : ∀ file ∈ files, IsMissing (refusal file)) :
    search refusal files =
      .refused (if EndsAstray refusal files then .notDirectory else .noEntry) := by
  obtain ⟨before, last, rfl⟩ := (List.eq_nil_or_concat' files).resolve_left nonempty
  have answered : refusal last =
      some (if refusal last = some .notDirectory then .notDirectory else .noEntry) := by
    rcases missing last (by simp) with absent | absent
    · rw [absent, if_neg (by decide)]
    · rw [if_pos absent, absent]
  simp only [endsAstray_concat]
  exact (search_decided refusal _).missing before last _ rfl
    (fun file mem => (missing file mem).goesOn) (fun file mem => (missing file mem).ne_accessDenied)
    answered

/-- A search that starts nothing went on to the end, or it was ended by what it reports. -/
theorem goesOn_or_of_search {errno : Errno} (refused : search refusal files = .refused errno) :
    (∀ file ∈ files, GoesOn (refusal file)) ∨
      ∃ file ∈ files, refusal file = some errno ∧ ¬ GoesOn (some errno) := by
  rw [search] at refused
  generalize false = denied, Errno.noEntry = last at refused
  induction files generalizing denied last with
  | nil => exact .inl (List.forall_mem_nil _)
  | cons file rest inductionHypothesis =>
    cases answered : refusal file with
    | none =>
      rw [tryFrom_of_none answered] at refused
      cases refused
    | some met =>
      by_cases goesOn : GoesOn (some met)
      · rw [tryFrom_of_goesOn answered goesOn] at refused
        refine (inductionHypothesis _ _ refused).imp (fun later => ?_) ?_
        · exact List.forall_mem_cons.mpr ⟨answered ▸ goesOn, later⟩
        · rintro ⟨other, mem, stops⟩
          exact ⟨other, List.mem_cons_of_mem file mem, stops⟩
      · rw [tryFrom_of_not_goesOn answered goesOn] at refused
        cases refused
        exact .inr ⟨file, List.mem_cons_self, answered, goesOn⟩

theorem exit?_missing (nonempty : files ≠ [])
    (missing : ∀ file ∈ files, IsMissing (refusal file)) :
    exit? refusal files = some (if EndsAstray refusal files then 126 else 127) := by
  rw [exit?, search_missing nonempty missing]
  by_cases astray : EndsAstray refusal files
  · rw [if_pos astray, if_pos astray]
    rfl
  · rw [if_neg astray, if_neg astray]
    rfl

/-- The code for a program that could not be executed means that a file was there, or that the last
one was looked for in something that is no directory. -/
theorem found_or_endsAstray_of_exit? (nonempty : files ≠ [])
    (exits : exit? refusal files = some 126) :
    (∃ file ∈ files, ∃ errno, refusal file = some errno ∧ ¬ IsMissing (some errno)) ∨
      EndsAstray refusal files := by
  by_contra neither
  push Not at neither
  obtain ⟨unfound, straight⟩ := neither
  unfold exit? at exits
  split at exits
  · cases exits
  · rename_i errno refused
    rcases goesOn_or_of_search refused with goesOn | ⟨file, mem, answered, stops⟩
    · have missing : ∀ file ∈ files, IsMissing (refusal file) := by
        intro file mem
        cases answered : refusal file with
        | none => exact absurd (answered ▸ goesOn file mem) (by decide)
        | some met => exact unfound file mem met answered
      rw [search_missing nonempty missing, if_neg straight] at refused
      cases refused
      exact absurd exits (by decide)
    · exact stops (unfound file mem errno answered).goesOn

end

/-! ### Directories in any order -/

theorem candidates_ne_nil (program : String) (path : Bytes) : candidates program path ≠ [] := by
  by_cases slashed : '/' ∈ program.toList
  · rw [candidates_of_slash slashed]
    exact List.cons_ne_nil _ _
  · rw [candidates_of_plain slashed, ← Text.pieces_eq_splitOn]
    exact fun empty => Text.pieces_ne_nil _ _ (List.map_eq_nil_iff.mp empty)

/-- The same directories in another order give the same files in another order. -/
theorem candidates_perm (program : String) {path permuted : Bytes}
    (same : (permuted.splitOn colon).Perm (path.splitOn colon)) :
    (candidates program permuted).Perm (candidates program path) := by
  by_cases slashed : '/' ∈ program.toList
  · rw [candidates_of_slash slashed, candidates_of_slash slashed]
  · rw [candidates_of_plain slashed, candidates_of_plain slashed]
    exact same.map (fileIn program)

/-- What the code tells that a child exits with when it looks for its program in the directories of
a search path. -/
structure Coded (refusal : Bytes → Option Errno) (program : String) (path : Bytes) : Prop where
  /-- If no file is there, the program was not found, unless the search ends astray. -/
  absent : (∀ file ∈ candidates program path, IsMissing (refusal file)) →
    exit? refusal (candidates program path) =
      some (if EndsAstray refusal (candidates program path) then 126 else 127)
  /-- The directories may then change places, and the code changes only with what the last file is
  looked for in. -/
  reordered : (∀ file ∈ candidates program path, IsMissing (refusal file)) →
    ∀ permuted : Bytes, (permuted.splitOn colon).Perm (path.splitOn colon) →
      (exit? refusal (candidates program permuted) = exit? refusal (candidates program path) ↔
        (EndsAstray refusal (candidates program permuted) ↔
          EndsAstray refusal (candidates program path)))
  /-- If the program could not be executed, a file was there, unless the search ends astray. -/
  found : exit? refusal (candidates program path) = some 126 →
    (∃ file ∈ candidates program path, ∃ errno,
      refusal file = some errno ∧ ¬ IsMissing (some errno)) ∨
        EndsAstray refusal (candidates program path)

theorem candidates_coded (refusal : Bytes → Option Errno) (program : String) (path : Bytes) :
    Coded refusal program path where
  absent missing := exit?_missing (candidates_ne_nil program path) missing
  reordered missing permuted same := by
    have missingToo : ∀ file ∈ candidates program permuted, IsMissing (refusal file) :=
      fun file mem => missing file ((candidates_perm program same).mem_iff.mp mem)
    rw [exit?_missing (candidates_ne_nil program permuted) missingToo,
      exit?_missing (candidates_ne_nil program path) missing]
    by_cases astray : EndsAstray refusal (candidates program path) <;>
      by_cases astrayToo : EndsAstray refusal (candidates program permuted) <;>
        simp [astray, astrayToo]
  found exits := found_or_endsAstray_of_exit? (candidates_ne_nil program path) exits

end Lookup

namespace Supervision

open Lookup

section

variable {system : System σ} {table slots : Table} {command : Command} {environment : List Bytes}
  {world : σ} {refusal : Bytes → Option Errno}

theorem runChild_of_refused
    (answers : ∀ file,
      system.refusal table ⟨slots, command.arguments, environment⟩ file world = refusal file)
    {errno : Errno} (refused : search refusal command.files = .refused errno) (pid : ProcessId)
    (program : String) :
    runChild system table pid program command environment (none, slots) world =
      system.quit pid slots (diagnostic program errno) (exitCode errno) world := by
  rw [runChild_eq]
  simp only [answers]
  rw [refused]

/-- The code of a search is the one that the child exits with. -/
theorem runChild_of_exit?
    (answers : ∀ file,
      system.refusal table ⟨slots, command.arguments, environment⟩ file world = refusal file)
    {code : Int} (exits : exit? refusal command.files = some code) (pid : ProcessId)
    (program : String) :
    ∃ errno, runChild system table pid program command environment (none, slots) world =
      system.quit pid slots (diagnostic program errno) code world := by
  unfold exit? at exits
  split at exits
  · cases exits
  · rename_i errno refused
    cases exits
    exact ⟨errno, runChild_of_refused answers refused pid program⟩

end

/-- The code of a child tells whether its program was found, as far as the last file is not looked
for in something that is no directory. It is the same on every system that refuses the files in the
same way, whatever else is handed over. -/
theorem runChild_coded (refusal : Bytes → Option Errno) (program : String) (path : Bytes) :
    Coded refusal program path ∧
      ∀ (system : System σ) (table slots : Table) (pid : ProcessId)
        (arguments environment : List Bytes) (world : σ) (code : Int),
        (∀ file, system.refusal table ⟨slots, arguments, environment⟩ file world = refusal file) →
          exit? refusal (candidates program path) = some code →
            ∃ errno, runChild system table pid program ⟨candidates program path, arguments⟩
              environment (none, slots) world =
                system.quit pid slots (diagnostic program errno) code world :=
  ⟨candidates_coded refusal program path, fun _ _ _ pid _ _ _ _ answers exits =>
    runChild_of_exit? answers exits pid program⟩

/-- Only the file in between is looked for in something that is no directory. -/
theorem coded_between :
    let refusal : Bytes → Option Errno := fun file =>
      if file = Text.encode "b/ls" then some .notDirectory else some .noEntry
    let files := candidates "ls" (Text.encode "/a:b:/c")
    (∀ file ∈ files, IsMissing (refusal file)) ∧ ¬ EndsAstray refusal files ∧
      ∃ message,
        runChild (System.refusing refusal) .standard 100 "ls" ⟨files, [Text.encode "ls"]⟩ []
          (none, .standard) (.inl []) = .inr (message, 127) := by
  intro refusal files
  obtain ⟨coded, exits⟩ := runChild_coded refusal "ls" (Text.encode "/a:b:/c")
  have missing : ∀ file ∈ files, IsMissing (refusal file) := by decide +kernel
  have straight : ¬ EndsAstray refusal files := by decide +kernel
  have code : exit? refusal files = some 127 := by rw [coded.absent missing, if_neg straight]
  obtain ⟨errno, child⟩ := exits (System.refusing refusal) .standard .standard 100
    [Text.encode "ls"] [] (.inl []) 127 (fun _ => rfl) code
  exact ⟨missing, straight, _, child⟩

end Supervision

/-! ### A search that ends astray -/

/-- A path that leads on from a name leads nowhere if the name is missing or that of a file. -/
theorem FileTree.find_through {tree : FileTree} {here : Location} {path : Bytes} {absolute : Bool}
    {name : Name} {rest : List Name} {slashed : Bool} {errno : Errno}
    (cut : Path.ofBytes path = ⟨absolute, name :: rest, slashed⟩) (further : rest ≠ [])
    (short : path.length < pathLimit ∧ name.length ≤ nameLimit)
    (plain : name ≠ selfName ∧ name ≠ parentName)
    (met : tree.get? ((if absolute then [] else here) ++ [name]) = none ∧ errno = .noEntry ∨
      (∃ contents mode, tree.get? ((if absolute then [] else here) ++ [name]) =
        some (.file contents mode)) ∧ errno = .notDirectory) :
    tree.find here path = .error errno := by
  have given : path ≠ [] := by
    rintro rfl
    cases cut
  have lost : tree.resolve false here path = .error errno := by
    rw [resolve, if_neg given, if_neg (Nat.not_le.mpr short.1), cut]
    dsimp only
    rw [follow_name tree plain.1 plain.2 (by simp) (Nat.not_lt.mpr short.2)]
    rcases met with ⟨absent, rfl⟩ | ⟨⟨contents, mode, file⟩, rfl⟩
    · rw [absent]
      exact if_neg fun ends => further ends.1
    · rw [file]
      exact if_neg fun ends => further ends.1
  rw [find, lost]

/-- The machine refuses to execute a file that it does not find. -/
theorem Machine.refusal_of_find {machine : Machine} {file : Bytes} {errno : Errno}
    (lost : machine.tree.find machine.directory file = .error errno) (table : Table)
    (image : Image) : Machine.system.refusal table image file machine = some errno := by
  show machine.refusal _ image file = some errno
  rw [Machine.refusal, Execution.load, Execution.findExecutable]
  simp only [lost]

namespace Supervision

open Lookup

/-- There is no program in either place: one is missing, and the other is a file and no directory.
Which code the child exits with is left to the order of the two. -/
theorem coded_astray :
    let machine := Machine.holding "notes" []
    let image : Image := ⟨.standard, [Text.encode "prog"], []⟩
    let child : Bytes → Machine := fun path =>
      runChild Machine.system .standard 100 "prog" ⟨candidates "prog" path, image.arguments⟩ []
        (none, .standard) machine
    (∀ file ∈ candidates "prog" (Text.encode "/missing:notes"),
      IsMissing (Machine.system.refusal .standard image file machine)) ∧
      ((Text.encode "notes:/missing").splitOn colon).Perm
        ((Text.encode "/missing:notes").splitOn colon) ∧
      child (Text.encode "/missing:notes") =
        machine.quit 100 .standard "tiny-pipesh: prog: Not a directory\n" 126 ∧
      child (Text.encode "notes:/missing") =
        machine.quit 100 .standard "tiny-pipesh: prog: No such file or directory\n" 127 := by
  intro machine image child
  let refusal : Bytes → Option Errno := fun file =>
    Machine.system.refusal .standard image file machine
  let missing := Text.encode "/missing/prog"
  let astray := Text.encode "notes/prog"
  have atMissing : refusal missing = some .noEntry :=
    Machine.refusal_of_find (FileTree.find_through
      (show Path.ofBytes missing = ⟨true, [Text.encode "missing", Text.encode "prog"], false⟩ by
        decide +kernel)
      (by decide) (by decide +kernel) (by decide +kernel) (.inl ⟨rfl, rfl⟩)) _ _
  have atAstray : refusal astray = some .notDirectory :=
    Machine.refusal_of_find (FileTree.find_through
      (show Path.ofBytes astray = ⟨false, [Text.encode "notes", Text.encode "prog"], false⟩ by
        decide +kernel)
      (by decide) (by decide +kernel) (by decide +kernel) (.inr ⟨⟨_, _, rfl⟩, rfl⟩)) _ _
  have files : candidates "prog" (Text.encode "/missing:notes") = [missing, astray] := by
    decide +kernel
  have turned : candidates "prog" (Text.encode "notes:/missing") = [astray, missing] := by
    decide +kernel
  have quits (path : Bytes) (errno : Errno)
      (ends : search refusal (candidates "prog" path) = .refused errno) :
      child path = machine.quit 100 .standard (diagnostic "prog" errno) (exitCode errno) :=
    runChild_of_refused (fun _ => rfl) ends 100 "prog"
  refine ⟨?_, by decide +kernel, ?_, ?_⟩
  · rw [files]
    simpa [IsMissing] using ⟨.inl atMissing, .inr atAstray⟩
  · rw [quits _ .notDirectory (by rw [files]; simp [search, tryFrom, atMissing, atAstray])]
    rfl
  · rw [quits _ .noEntry (by rw [turned]; simp [search, tryFrom, atMissing, atAstray])]
    rfl

end Supervision

end PipelineShell
