/-
The files that are tried for a program, and which of them decides.

A name with a slash is a file. Any other name is tried in the directories that the colons of the
search path separate, so there is always a file to be tried. Each file either starts or is refused,
and what the search carries from one to the next is the latest refusal and whether access was denied
so far. The three kinds of refusals that it carries on from change nothing else, so the first file
with another answer decides, whatever comes after it. If there is none, what was carried decides.
-/

import PipelineShell.Supervision

namespace PipelineShell

variable {σ : Type}

theorem Text.pieces_eq_splitOn {α : Type} [DecidableEq α] (mark : α) (items : List α) :
    pieces (· == mark) items = items.splitOn mark := by
  induction items with
  | nil => rfl
  | cons item rest inductionHypothesis =>
    rw [List.splitOn, List.splitOnP_cons_eq_if_modifyHead, ← List.splitOn, pieces,
      ← inductionHypothesis]
    split
    · rfl
    · split
      · rename_i empty
        exact absurd empty (pieces_ne_nil _ rest)
      · rename_i piece others cut
        rw [cut]
        rfl

namespace Lookup

/-! ### The files to try -/

/-- The file of a program in a directory of the search path. No directory is the current one, and
there is a slash before the name unless the directory ends in one. -/
def fileIn (program : String) (directory : Bytes) : Bytes :=
  let place := if directory = [] then Text.encode "." else directory
  place ++ (if place.getLast? = some slash then [] else [slash]) ++ Text.encode program

theorem within_eq_fileIn (program : String) (directory : Bytes) :
    within (if directory = [] then Text.encode "." else directory) (Text.encode program) =
      fileIn program directory := by
  have somewhere : (if directory = [] then Text.encode "." else directory) ≠ [] := by
    split
    · decide
    · assumption
  unfold within fileIn
  generalize (if directory = [] then Text.encode "." else directory) = place at somewhere ⊢
  dsimp only
  by_cases slashed : place.getLast? = some slash
  · rw [if_pos (.inr slashed), if_pos slashed, List.append_nil]
  · rw [if_neg (not_or.mpr ⟨somewhere, slashed⟩), if_neg slashed, List.append_assoc]
    rfl

theorem candidates_of_plain {program : String} (plain : '/' ∉ program.toList) (path : Bytes) :
    candidates program path = (path.splitOn colon).map (fileIn program) := by
  rw [candidates, if_neg plain, directories, Text.pieces_eq_splitOn, List.map_map]
  exact List.map_congr_left fun directory _ => within_eq_fileIn program directory

theorem candidates_of_slash {program : String} (slashed : '/' ∈ program.toList) (path : Bytes) :
    candidates program path = [Text.encode program] :=
  if_pos slashed

/-- Which files are tried for a program. -/
structure Tried (program : String) (path : Bytes) (files : List Bytes) : Prop where
  /-- A name with a slash is the file. -/
  slashed : '/' ∈ program.toList → files = [Text.encode program]
  /-- Any other name is tried in each directory of the search path, in order. -/
  plain : '/' ∉ program.toList → files = (path.splitOn colon).map (fileIn program)
  /-- There is one directory more than there are colons. -/
  count : '/' ∉ program.toList → files.length = 1 + path.count colon

theorem candidates_tried (program : String) (path : Bytes) :
    Tried program path (candidates program path) where
  slashed slashed := candidates_of_slash slashed path
  plain plain := candidates_of_plain plain path
  count plain := by
    rw [candidates_of_plain plain, List.length_map, ← Text.pieces_eq_splitOn, Text.length_pieces]
    rfl

/-! ### The file that decides -/

/-- Whether a search goes on after an answer: the file is missing, a directory on the way to it is,
or access is denied. -/
def GoesOn (answer : Option Errno) : Prop :=
  answer = some .noEntry ∨ answer = some .notDirectory ∨ answer = some .accessDenied

instance : DecidablePred GoesOn := fun _ => inferInstanceAs (Decidable (_ ∨ _ ∨ _))

section

variable {refusal : Bytes → Option Errno} {before files : List Bytes} {file : Bytes} {errno : Errno}

/-- A refusal after which the search goes on is carried along. -/
theorem tryFrom_of_goesOn (refused : refusal file = some errno) (goesOn : GoesOn (some errno))
    (denied : Bool) (last : Errno) (rest : List Bytes) :
    tryFrom refusal denied last (file :: rest) =
      tryFrom refusal (denied || errno = .accessDenied) errno rest := by
  rw [tryFrom, refused]
  rcases goesOn with same | same | same
  all_goals
    cases same
    simp

theorem tryFrom_of_none (starts : refusal file = none) (denied : Bool) (last : Errno)
    (rest : List Bytes) : tryFrom refusal denied last (file :: rest) = .started file := by
  rw [tryFrom, starts]

/-- Any other refusal ends the search. -/
theorem tryFrom_of_not_goesOn (refused : refusal file = some errno)
    (stops : ¬ GoesOn (some errno)) (denied : Bool) (last : Errno) (rest : List Bytes) :
    tryFrom refusal denied last (file :: rest) = .refused errno := by
  rw [tryFrom, refused]
  split
  · rename_i impossible
    cases impossible
  · rename_i same
    exact absurd (.inr (.inr same)) stops
  · rename_i same
    exact absurd (.inl same) stops
  · rename_i same
    exact absurd (.inr (.inl same)) stops
  · rename_i same
    cases same
    rfl

/-- What is carried over files after each of which the search goes on. -/
theorem tryFrom_append (goesOn : ∀ file ∈ before, GoesOn (refusal file)) (denied : Bool)
    (last : Errno) (rest : List Bytes) :
    tryFrom refusal denied last (before ++ rest) =
      tryFrom refusal (denied || .accessDenied ∈ before.filterMap refusal)
        ((before.filterMap refusal).getLastD last) rest := by
  induction before generalizing denied last with
  | nil => simp
  | cons file later inductionHypothesis =>
    obtain ⟨goesOnHere, goesOnLater⟩ := List.forall_mem_cons.mp goesOn
    cases refused : refusal file with
    | none =>
      rw [refused] at goesOnHere
      exact absurd goesOnHere (by decide)
    | some errno =>
      rw [refused] at goesOnHere
      rw [List.cons_append, tryFrom_of_goesOn refused goesOnHere, inductionHypothesis goesOnLater,
        List.filterMap_cons_some refused, List.getLastD_cons, Bool.or_assoc]
      simp [eq_comm]

theorem search_started (goesOn : ∀ earlier ∈ before, GoesOn (refusal earlier))
    (starts : refusal file = none) (after : List Bytes) :
    search refusal (before ++ file :: after) = .started file := by
  rw [search, tryFrom_append goesOn, tryFrom_of_none starts]

theorem search_stopped (goesOn : ∀ earlier ∈ before, GoesOn (refusal earlier))
    (refused : refusal file = some errno) (stops : ¬ GoesOn (some errno)) (after : List Bytes) :
    search refusal (before ++ file :: after) = .refused errno := by
  rw [search, tryFrom_append goesOn, tryFrom_of_not_goesOn refused stops]

/-- If the search goes on to the end, denied access is what is reported, wherever it was met. -/
theorem search_exhausted (goesOn : ∀ file ∈ files, GoesOn (refusal file)) :
    search refusal files =
      .refused (if .accessDenied ∈ files.filterMap refusal then .accessDenied
        else (files.filterMap refusal).getLastD .noEntry) := by
  have carried := tryFrom_append goesOn false .noEntry []
  rw [List.append_nil, Bool.false_or, tryFrom] at carried
  rw [search, carried]
  simp only [decide_eq_true_eq]

end

/-- Which file decides how a search ends, when the system refuses files or lets them start. -/
structure Decided (refusal : Bytes → Option Errno) (files : List Bytes) (verdict : Verdict) :
    Prop where
  /-- The first file that starts is executed, if the search goes on after all before it. -/
  started : ∀ before file after, files = before ++ file :: after →
    (∀ earlier ∈ before, GoesOn (refusal earlier)) → refusal file = none →
      verdict = .started file
  /-- The first refusal after which the search does not go on is reported, whatever the answers for
  the later files would be. -/
  stopped : ∀ before file after errno, files = before ++ file :: after →
    (∀ earlier ∈ before, GoesOn (refusal earlier)) → refusal file = some errno →
      ¬ GoesOn (some errno) → verdict = .refused errno
  /-- If the search goes on to the end, any denied access is reported. -/
  denied : (∀ file ∈ files, GoesOn (refusal file)) →
    (∃ file ∈ files, refusal file = some .accessDenied) → verdict = .refused .accessDenied
  /-- Without one, it is the refusal of the last file. -/
  missing : ∀ before last errno, files = before ++ [last] →
    (∀ file ∈ files, GoesOn (refusal file)) →
      (∀ file ∈ files, refusal file ≠ some .accessDenied) → refusal last = some errno →
        verdict = .refused errno

theorem search_decided (refusal : Bytes → Option Errno) (files : List Bytes) :
    Decided refusal files (search refusal files) where
  started before file after split goesOn starts := by
    rw [split]
    exact search_started goesOn starts after
  stopped before file after errno split goesOn refused stops := by
    rw [split]
    exact search_stopped goesOn refused stops after
  denied goesOn denied := by
    rw [search_exhausted goesOn, if_pos (List.mem_filterMap.mpr denied)]
  missing before last errno split goesOn granted refused := by
    have absent : Errno.accessDenied ∉ files.filterMap refusal := by
      simpa [List.mem_filterMap] using granted
    have latest : [last].filterMap refusal = [errno] := List.filterMap_cons_some refused
    rw [search_exhausted goesOn, if_neg absent, split, List.filterMap_append, latest,
      List.getLastD_concat]

end Lookup

namespace Supervision

open Lookup

theorem runChild_eq (system : System σ) (table slots : Table) (pid : ProcessId) (program : String)
    (command : Command) (environment : List Bytes) (world : σ) :
    let image : Image := ⟨slots, command.arguments, environment⟩
    runChild system table pid program command environment (none, slots) world =
      match search (fun file => system.refusal table image file world) command.files with
      | .started file => system.execute pid image file world
      | .refused errno => system.quit pid slots (diagnostic program errno) (exitCode errno) world :=
  rfl

/-- A child whose slots are filled tries the files of its program in order. It executes the one that
the search arrives at, or it reports the refusal and exits with the code for it. -/
theorem runChild_searches (system : System σ) (table slots : Table) (pid : ProcessId)
    (program : String) (path : Bytes) (arguments environment : List Bytes) (world : σ) :
    let files := candidates program path
    let image : Image := ⟨slots, arguments, environment⟩
    Tried program path files ∧
      ∃ verdict, Decided (fun file => system.refusal table image file world) files verdict ∧
        runChild system table pid program ⟨files, arguments⟩ environment (none, slots) world =
          match verdict with
          | .started file => system.execute pid image file world
          | .refused errno =>
            system.quit pid slots (diagnostic program errno)
              (if errno = .noEntry then 127 else 126) world :=
  ⟨candidates_tried program path, _, search_decided _ _,
    runChild_eq system table slots pid program _ environment world⟩

end Supervision

/-- A system that refuses files for given reasons. Its world is what the last child came to: the
file that it executed, or its report and the code that a wait for it gives. -/
def System.refusing (refusal : Bytes → Option Errno) : System (Bytes ⊕ String × Int) where
  openFile _ _ _ world := (.ok (), world)
  makePipe _ world := (.ok (), world)
  fork world := (.ok 100, world)
  refusal _ _ file _ := refusal file
  execute _ _ file _ := .inl file
  quit _ _ message code _ := .inr (message, code)
  wait _ world := (⟨[], .exited (world.elim (fun _ => 0) Prod.snd), by simp⟩, world)
  changeDirectory _ world := (.ok (), world)
  input _ := []
  skipInput _ world := world
  write _ _ world := world
  enter _ world := world

namespace Supervision

/-- Access is denied in the current directory only, and that is reported in the end. -/
theorem searches_denied :
    let refusal : Bytes → Option Errno := fun file =>
      if file = Text.encode "./ls" then some .accessDenied
      else if file = Text.encode "b/ls" then some .notDirectory else some .noEntry
    let files := Lookup.candidates "ls" (Text.encode "/a::b/:/d")
    files = ["/a/ls", "./ls", "b/ls", "/d/ls"].map Text.encode ∧
      (∀ file ∈ files, Lookup.GoesOn (refusal file)) ∧
      runChild (System.refusing refusal) .standard 100 "ls" ⟨files, [Text.encode "ls"]⟩ []
          (none, .standard) (.inl []) = .inr ("tiny-pipesh: ls: Permission denied\n", 126) := by
  intro refusal files
  obtain ⟨tried, verdict, decided, child⟩ := runChild_searches (System.refusing refusal) .standard
    .standard 100 "ls" (Text.encode "/a::b/:/d") [Text.encode "ls"] [] (.inl [])
  have spread : files = ["/a/ls", "./ls", "b/ls", "/d/ls"].map Text.encode :=
    (tried.plain (by decide)).trans (by decide +kernel)
  have goesOn : ∀ file ∈ files, Lookup.GoesOn (refusal file) := by decide +kernel
  have denied : verdict = .refused .accessDenied :=
    decided.denied goesOn ⟨Text.encode "./ls", by decide +kernel, by decide +kernel⟩
  refine ⟨spread, goesOn, child.trans ?_⟩
  rw [denied]
  rfl

end Supervision

end PipelineShell
