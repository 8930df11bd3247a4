/-
How many descriptors a line needs.

The shell's process may have a bounded number of descriptors open at once. While a line is read, a
redirection needs one for its file and leaves those of the directions redirected so far open: the
file that it replaces is closed only afterwards. Then every pipe needs two. What is open at each of
these moments is what the line holds, and that is counted by custody. A bounded interpreter does
what an unbounded one does up to the first request that it has no room for, so that request is the
one that the line fails with. Once there is a pipe, it needs more than any redirection did in
passing, so the passing need decides only for a line of one stage.
-/

import Mathlib.Data.List.Dedup
import Mathlib.Data.List.Perm.Subperm
import PipelineShell.Proofs.Wiring

namespace PipelineShell

open Construction Grammar Interpreter

variable {σ : Type}

/-! ### What redirections need -/

/-- In how many directions something is redirected. -/
def kinds (redirections : List Redirection) : Nat := (directions redirections).dedup.length

/-- How many descriptors a redirection needs when these come before it: one for its file, and one
for each direction in which something was redirected. -/
def demand (earlier : List Redirection) : Nat := 1 + kinds earlier

/-- How many descriptors redirections need at once: as many as the one that needs the most. -/
def peak (redirections : List Redirection) : Nat :=
  ((List.range redirections.length).map fun index => demand (redirections.take index)).foldl max 0

theorem kinds_eq (redirections : List Redirection) :
    kinds redirections = (if .input ∈ directions redirections then 1 else 0) +
      if .output ∈ directions redirections then 1 else 0 := by
  have listed : (directions redirections).dedup.Perm
      ([.input, .output].filter fun direction => direction ∈ directions redirections) := by
    refine (List.perm_ext_iff_of_nodup (List.nodup_dedup _) ?_).mpr fun direction => ?_
    · exact List.Nodup.filter _ (by decide)
    · rw [List.mem_dedup, List.mem_filter]
      cases direction <;> simp
  rw [kinds, listed.length_eq]
  by_cases input : Direction.input ∈ directions redirections <;>
    by_cases output : Direction.output ∈ directions redirections <;> simp [input, output]

theorem kinds_append_le (earlier later : List Redirection) :
    kinds earlier ≤ kinds (earlier ++ later) := by
  have sub : (directions earlier).dedup ⊆ (directions (earlier ++ later)).dedup := by
    intro direction mem
    rw [List.mem_dedup] at mem ⊢
    exact List.map_subset _ (List.subset_append_left earlier later) mem
  exact ((List.nodup_dedup _).subperm sub).length_le

theorem kinds_append_singleton_le (earlier : List Redirection) (redirection : Redirection) :
    kinds (earlier ++ [redirection]) ≤ demand earlier := by
  have split : directions (earlier ++ [redirection]) =
      directions earlier ++ [redirection.direction] := List.map_append
  rw [demand, kinds_eq, kinds_eq, split]
  cases redirection.direction <;> simp only [List.mem_append, List.mem_singleton, reduceCtorEq,
    or_false, or_true, if_true] <;> split <;> omega

theorem peak_append_singleton (earlier : List Redirection) (redirection : Redirection) :
    peak (earlier ++ [redirection]) = max (peak earlier) (demand earlier) := by
  have before : ∀ index ∈ List.range earlier.length,
      demand ((earlier ++ [redirection]).take index) = demand (earlier.take index) := by
    intro index mem
    rw [List.take_append_of_le_length (Nat.le_of_lt (List.mem_range.mp mem))]
  rw [peak, List.length_append, List.length_singleton, List.range_succ, List.map_append,
    List.map_congr_left before, List.map_singleton, List.take_left, List.foldl_append]
  rfl

/-- Redirections need the descriptors that they keep, -/
theorem kinds_le_peak (redirections : List Redirection) :
    kinds redirections ≤ peak redirections := by
  induction redirections using List.reverseRecOn with
  | nil => exact Nat.zero_le _
  | append_singleton earlier redirection _ =>
    rw [peak_append_singleton]
    exact (kinds_append_singleton_le earlier redirection).trans (Nat.le_max_right _ _)

/-- and at most one more in passing. -/
theorem peak_le (redirections : List Redirection) :
    peak redirections ≤ 1 + kinds redirections := by
  induction redirections using List.reverseRecOn with
  | nil => exact Nat.zero_le _
  | append_singleton earlier redirection inductionHypothesis =>
    have grows : demand earlier ≤ 1 + kinds (earlier ++ [redirection]) :=
      Nat.add_le_add_left (kinds_append_le earlier [redirection]) 1
    rw [peak_append_singleton]
    exact Nat.max_le.mpr ⟨inductionHypothesis.trans grows, grows⟩

/-- If redirections need too much, there is a first one that does. -/
theorem exists_first_of_lt_peak {redirections : List Redirection} {spare : Nat}
    (exceeds : spare < peak redirections) :
    ∃ earlier redirection later, redirections = earlier ++ redirection :: later ∧
      peak earlier ≤ spare ∧ spare < demand earlier := by
  induction redirections using List.reverseRecOn with
  | nil => cases exceeds
  | append_singleton earlier last inductionHypothesis =>
    rw [peak_append_singleton] at exceeds
    by_cases sooner : spare < peak earlier
    · obtain ⟨before, redirection, after, rfl, fits, first⟩ := inductionHypothesis sooner
      exact ⟨before, redirection, after ++ [last], by simp, fits, first⟩
    · exact ⟨earlier, last, [], rfl, Nat.le_of_not_lt sooner, by omega⟩

/-! ### What a line holds -/

/-- The descriptors of the ends of a line. -/
def Ends.owned (ends : Ends) : List Descriptor :=
  (ends .input).owned?.toList ++ (ends .output).owned?.toList

/-- A redirected end takes a descriptor over, and the one that it had before is closed. -/
theorem Custody.redirect {ends : Ends} {descriptor : Descriptor} {before after : Interpreter σ}
    (custody : Custody (ends.owned ++ [descriptor]) before after) (direction : Direction) :
    Custody (Ends.owned (Function.update ends direction (.owned descriptor))) before
      (after.closeAll (ends direction).owned?.toList) := by
  refine (custody.perm (List.perm_iff_count.mpr fun other => ?_)).closeAll
  cases direction <;>
    simp only [Ends.owned, List.count_append, Function.update_self, ne_eq, reduceCtorEq,
      not_false_eq_true, Function.update_of_ne, Endpoint.owned?, Option.toList_some] <;>
    omega

theorem openEach_custody {system : System σ} {mode : OutputMode} {redirections : List Redirection}
    {ends reached : Ends} {before shell after : Interpreter σ}
    (custody : Custody ends.owned before shell)
    (opened : openEach system mode redirections ends shell = (.ok reached, after)) :
    Custody reached.owned before after := by
  induction redirections generalizing ends shell with
  | nil =>
    cases opened
    exact custody
  | cons redirection rest inductionHypothesis =>
    have kept := custody.openFile system redirection.target (truncates mode redirection.direction)
    rw [openEach] at opened
    split at opened
    · cases opened
    · rename_i descriptor next found
      rw [found] at kept
      exact inductionHypothesis (kept.redirect redirection.direction) opened

/-- Redirections leave so many descriptors open as there are directions in which they redirect. -/
theorem length_slots_of_openEach {system : System σ} {mode : OutputMode}
    {redirections : List Redirection} {reached : Ends} {shell after : Interpreter σ}
    (opened : openEach system mode redirections Ends.inherited shell = (.ok reached, after)) :
    after.table.slots.length = shell.table.slots.length + kinds redirections := by
  have nothing : Custody Ends.inherited.owned shell shell := Custody.start shell
  have custody := openEach_custody nothing opened
  obtain ⟨leading, _, _⟩ := openEach_leading opened (.inherited shell.table)
  have lastOf (direction : Direction) : (reached direction).owned?.toList.length =
      if direction ∈ directions redirections then 1 else 0 := by
    rw [(leading.leads direction).length_owned, Option.or_none, length_lastFile, directions]
    simp only [List.mem_map]
  rw [custody.length_slots, Ends.owned, List.length_append, lastOf, lastOf, kinds_eq]

theorem length_slots_of_makePipe {system : System σ} {shell after : Interpreter σ}
    {ends : PipeEnds} (made : shell.makePipe system = (.ok ends, after)) :
    after.table.slots.length = shell.table.slots.length + 2 := by
  have custody := (Custody.start shell).makePipe system
  rw [made] at custody
  exact custody.length_slots

/-! ### Bounded interpreters -/

namespace Interpreter

/-- An interpreter that may have so many descriptors open at once. -/
def bounded (shell : Interpreter σ) (limit : Nat) : Interpreter σ :=
  { shell with limit := some limit }

variable {system : System σ} {shell after : Interpreter σ} (limit : Nat)

theorem hasRoom_bounded_iff (shell : Interpreter σ) (count : Nat) :
    (shell.bounded limit).hasRoom count ↔ shell.table.slots.length + count ≤ limit :=
  decide_eq_true_iff

theorem closeAll_bounded (shell : Interpreter σ) (descriptors : List Descriptor) :
    (shell.bounded limit).closeAll descriptors = (shell.closeAll descriptors).bounded limit := by
  induction descriptors generalizing shell with
  | nil => rfl
  | cons first rest inductionHypothesis => exact inductionHypothesis (shell.close first)

/-- A bounded interpreter opens the same file, if it has room for one descriptor more. -/
theorem openFile_bounded {path : String} {truncate : Bool} {descriptor : Descriptor}
    (opened : shell.openFile system path truncate = (.ok descriptor, after)) :
    (shell.bounded limit).openFile system path truncate =
      if shell.table.slots.length + 1 ≤ limit then (.ok descriptor, after.bounded limit)
      else (.error (.refused .tooManyOpen), shell.bounded limit) := by
  unfold Interpreter.openFile at opened ⊢
  split at opened
  · cases opened
  · rename_i bytes named
    split at opened
    · dsimp only at opened
      split at opened
      · cases opened
      · rename_i changed granted
        cases opened
        have grantedToo : system.openFile bytes truncate (shell.bounded limit).minted
            ((shell.bounded limit).record
              (.requested path truncate (shell.bounded limit).minted)).world =
            (.ok (), changed) := granted
        simp only [hasRoom_bounded_iff]
        rw [grantedToo]
        rfl
    · cases opened

/-- And it makes the same pipe, if it has room for two. -/
theorem makePipe_bounded {ends : PipeEnds} (made : shell.makePipe system = (.ok ends, after)) :
    (shell.bounded limit).makePipe system =
      if shell.table.slots.length + 2 ≤ limit then (.ok ends, after.bounded limit)
      else (.error .tooManyOpen, shell.bounded limit) := by
  unfold Interpreter.makePipe at made ⊢
  split at made
  · split at made
    · cases made
    · rename_i changed granted
      cases made
      have grantedToo : system.makePipe (shell.bounded limit).minted (shell.bounded limit).world =
          (.ok (), changed) := granted
      simp only [hasRoom_bounded_iff]
      rw [grantedToo]
      rfl
  · cases made

end Interpreter

/-! ### Opening redirections within a limit -/

section

variable {system : System σ} {mode : OutputMode} {shell after : Interpreter σ} {reached : Ends}

/-- The first of several redirections is opened if there is room for one descriptor more. -/
theorem openEach_cons_bounded {redirection : Redirection} {rest : List Redirection} {ends : Ends}
    (opened : openEach system mode (redirection :: rest) ends shell = (.ok reached, after)) :
    ∃ next middle, openEach system mode rest next middle = (.ok reached, after) ∧
      ∀ limit, openEach system mode (redirection :: rest) ends (shell.bounded limit) =
        if shell.table.slots.length + 1 ≤ limit then
          openEach system mode rest next (middle.bounded limit)
        else
          (.error (.cannotOpen redirection.target (.refused .tooManyOpen)),
            shell.bounded limit) := by
  rw [openEach] at opened
  split at opened
  · cases opened
  · rename_i descriptor middle found
    refine ⟨_, _, opened, fun limit => ?_⟩
    rw [openEach, openFile_bounded limit found]
    by_cases room : shell.table.slots.length + 1 ≤ limit
    · rw [if_pos room, if_pos room]
      dsimp only
      rw [closeAll_bounded]
    · rw [if_neg room, if_neg room]

/-- Redirections that need no more than there is are all opened. -/
theorem openEach_bounded {redirections : List Redirection}
    (opened : openEach system mode redirections Ends.inherited shell = (.ok reached, after))
    {spare : Nat} (fits : peak redirections ≤ spare) :
    openEach system mode redirections Ends.inherited
        (shell.bounded (shell.table.slots.length + spare)) =
      (.ok reached, after.bounded (shell.table.slots.length + spare)) := by
  induction redirections using List.reverseRecOn generalizing reached after with
  | nil =>
    cases opened
    rfl
  | append_singleton earlier redirection inductionHypothesis =>
    rw [peak_append_singleton, Nat.max_le] at fits
    rw [openEach_append] at opened ⊢
    split at opened
    · cases opened
    · rename_i ends middle before
      obtain ⟨next, last, ended, step⟩ := openEach_cons_bounded opened
      have room : middle.table.slots.length + 1 ≤ shell.table.slots.length + spare := by
        rw [length_slots_of_openEach before, Nat.add_assoc, Nat.add_comm (kinds earlier)]
        exact Nat.add_le_add_left fits.2 _
      rw [inductionHypothesis before fits.1]
      dsimp only
      rw [step, if_pos room]
      cases ended
      rfl

/-- The first redirection that needs more than there is decides the error. -/
theorem openEach_bounded_of_lt_demand {earlier later : List Redirection}
    {redirection : Redirection}
    (opened : openEach system mode (earlier ++ redirection :: later) Ends.inherited shell =
      (.ok reached, after))
    {spare : Nat} (fits : peak earlier ≤ spare) (exceeds : spare < demand earlier) :
    ∃ failed : Interpreter σ, failed.minted = shell.minted + earlier.length ∧
      openEach system mode (earlier ++ redirection :: later) Ends.inherited
          (shell.bounded (shell.table.slots.length + spare)) =
        (.error (.cannotOpen redirection.target (.refused .tooManyOpen)), failed) := by
  rw [openEach_append] at opened ⊢
  split at opened
  · cases opened
  · rename_i ends middle before
    obtain ⟨_, minted, _⟩ := openEach_leading before (.inherited shell.table)
    obtain ⟨next, last, _, step⟩ := openEach_cons_bounded opened
    have full : ¬ middle.table.slots.length + 1 ≤ shell.table.slots.length + spare := by
      rw [length_slots_of_openEach before, Nat.add_assoc, Nat.add_comm (kinds earlier), Nat.not_le]
      exact Nat.add_lt_add_left exceeds _
    refine ⟨middle.bounded (shell.table.slots.length + spare), minted, ?_⟩
    rw [openEach_bounded before fits]
    dsimp only
    rw [step, if_neg full]

end

/-! ### Making pipes within a limit -/

section

variable {system : System σ} {shell after : Interpreter σ}

theorem exists_of_makePipes_succ {count : Nat} {pipes : List PipeEnds}
    (made : makePipes system (count + 1) shell = (.ok pipes, after)) :
    ∃ first rest middle, pipes = first :: rest ∧
      shell.makePipe system = (.ok first, middle) ∧
      makePipes system count middle = (.ok rest, after) := by
  rw [makePipes] at made
  split at made
  · cases made
  · rename_i first middle found
    split at made
    · cases made
    · rename_i rest last more
      cases made
      exact ⟨first, rest, middle, rfl, found, more⟩

/-- Pipes that there is room for are all made. -/
theorem makePipes_bounded {count : Nat} {pipes : List PipeEnds}
    (made : makePipes system count shell = (.ok pipes, after)) {limit : Nat}
    (fits : shell.table.slots.length + 2 * count ≤ limit) :
    makePipes system count (shell.bounded limit) = (.ok pipes, after.bounded limit) := by
  induction count generalizing shell pipes with
  | zero =>
    cases made
    rfl
  | succ count inductionHypothesis =>
    obtain ⟨first, rest, middle, rfl, found, more⟩ := exists_of_makePipes_succ made
    have length := length_slots_of_makePipe found
    rw [makePipes, makePipe_bounded limit found, if_pos (by omega)]
    dsimp only
    rw [inductionHypothesis more (by omega)]

/-- The first pipe that there is no room for is not made. -/
theorem makePipes_bounded_of_lt {count : Nat} {pipes : List PipeEnds}
    (made : makePipes system count shell = (.ok pipes, after)) {limit index : Nat}
    (within : index < count) (fits : shell.table.slots.length + 2 * index ≤ limit)
    (exceeds : limit < shell.table.slots.length + 2 * (index + 1)) :
    ∃ failed : Interpreter σ, failed.minted = shell.minted + index ∧
      makePipes system count (shell.bounded limit) = (.error .tooManyOpen, failed) := by
  induction count generalizing shell pipes index with
  | zero => exact absurd within (Nat.not_lt_zero index)
  | succ count inductionHypothesis =>
    obtain ⟨first, rest, middle, rfl, found, more⟩ := exists_of_makePipes_succ made
    rw [makePipes, makePipe_bounded limit found]
    cases index with
    | zero =>
      rw [if_neg (by omega)]
      exact ⟨shell.bounded limit, rfl, rfl⟩
    | succ index =>
      have length := length_slots_of_makePipe found
      obtain ⟨_, _, _, minted, _⟩ := makePipe_ok found
      obtain ⟨failed, reached, fails⟩ := inductionHypothesis more (Nat.lt_of_succ_lt_succ within)
        (by omega) (by omega)
      rw [if_pos (by omega)]
      dsimp only
      rw [fails]
      exact ⟨failed, by omega, rfl⟩

end

/-! ### Lines within a limit -/

/-- How a line fails that has so many descriptors to spare: with this error, and when this is the
next serial number. It was `first` when the line began. -/
inductive Shortage (words : List String) (first spare : Nat) : BuildError → Nat → Prop where
  /-- At the first redirection that needs too much. -/
  | opening {earlier later : List Redirection} {redirection : Redirection}
      (cut : redirectionsOf words = earlier ++ redirection :: later)
      (fits : peak earlier ≤ spare) (exceeds : spare < demand earlier) :
      Shortage words first spare (.cannotOpen redirection.target (.refused .tooManyOpen))
        (first + earlier.length)
  /-- At the first pipe that needs too much, when all redirections were opened. -/
  | piping {index : Nat} (opened : peak (redirectionsOf words) ≤ spare)
      (within : index < words.count Operator.pipe.text)
      (fits : kinds (redirectionsOf words) + 2 * index ≤ spare)
      (exceeds : spare < kinds (redirectionsOf words) + 2 * (index + 1)) :
      Shortage words first spare (.cannotPipe .tooManyOpen)
        (first + (redirectionsOf words).length + index)

/-- Whether so many descriptors are enough for a line: for its redirections in passing, and for what
they leave open together with all pipes. -/
def Suffices (words : List String) (spare : Nat) : Prop :=
  peak (redirectionsOf words) ≤ spare ∧
    kinds (redirectionsOf words) + 2 * words.count Operator.pipe.text ≤ spare

/-- With a pipe, what is needed in passing does not matter. -/
theorem suffices_iff_of_pipe {words : List String} {spare : Nat}
    (present : Operator.pipe.text ∈ words) :
    Suffices words spare ↔
      kinds (redirectionsOf words) + 2 * words.count Operator.pipe.text ≤ spare := by
  have passing := peak_le (redirectionsOf words)
  have counted := List.one_le_count_iff.mpr present
  exact and_iff_right_of_imp fun enough => by omega

/-- Without one it is all that matters. -/
theorem suffices_iff_of_no_pipe {words : List String} {spare : Nat}
    (absent : Operator.pipe.text ∉ words) :
    Suffices words spare ↔ peak (redirectionsOf words) ≤ spare := by
  have kept := kinds_le_peak (redirectionsOf words)
  have counted := List.count_eq_zero_of_not_mem absent
  exact and_iff_left_of_imp fun enough => by omega

/-- There are enough descriptors for a line, or it fails somewhere. -/
theorem suffices_or_shortage (words : List String) (first spare : Nat) :
    Suffices words spare ∨ ∃ error reached, Shortage words first spare error reached := by
  by_cases opened : peak (redirectionsOf words) ≤ spare
  · by_cases enough : kinds (redirectionsOf words) + 2 * words.count Operator.pipe.text ≤ spare
    · exact .inl ⟨opened, enough⟩
    · have kept := (kinds_le_peak (redirectionsOf words)).trans opened
      -- Two descriptors go to each pipe, so this many are made.
      exact .inr ⟨_, _, .piping opened
        (show (spare - kinds (redirectionsOf words)) / 2 < _ by omega) (by omega) (by omega)⟩
  · obtain ⟨earlier, redirection, later, cut, fits, exceeds⟩ :=
      exists_first_of_lt_peak (Nat.lt_of_not_le opened)
    exact .inr ⟨_, _, .opening cut fits exceeds⟩

section

variable {system : System σ} {mode : OutputMode} {words : List String} {commands : List Command}
  {ends : Ends} {shell opened done : Interpreter σ} {pipes : List PipeEnds} {spare : Nat}

theorem count_pipe_of_grammatical (grammatical : Grammatical words commands) :
    commands.length - 1 = words.count Operator.pipe.text := by
  rw [length_of_grammatical grammatical, Nat.add_sub_cancel]

/-- The signs of a line say in how many directions something is redirected. -/
theorem kinds_of_grammatical (grammatical : Grammatical words commands) :
    kinds (redirectionsOf words) = (if (Operator.redirect .input).text ∈ words then 1 else 0) +
      if (Operator.redirect .output).text ∈ words then 1 else 0 := by
  rw [kinds_eq]
  simp only [directions, List.mem_map, sign_mem_grammatical grammatical]

/-- A line that has enough descriptors is built as if there were no limit. -/
theorem Suffices.build_eq (enough : Suffices words spare) (nonempty : words ≠ [])
    (grammatical : Grammatical words commands)
    (opens : openEach system mode (redirectionsOf words) Ends.inherited shell = (.ok ends, opened))
    (made : makePipes system (words.count Operator.pipe.text) opened = (.ok pipes, done)) :
    (build system mode words (shell.bounded (shell.table.slots.length + spare))).1 =
      .ok (pipelineOf commands ends pipes) := by
  have outcome := build_of_commands system mode nonempty grammatical
    (shell.bounded (shell.table.slots.length + spare))
  have room : opened.table.slots.length + 2 * words.count Operator.pipe.text ≤
      shell.table.slots.length + spare := by
    have length := length_slots_of_openEach opens
    have kept := enough.2
    omega
  rw [← redirectionsOf_grammatical grammatical, count_pipe_of_grammatical grammatical,
    openEach_bounded opens enough.1] at outcome
  dsimp only at outcome
  rw [makePipes_bounded made room] at outcome
  exact outcome.1

/-- A line that has too few fails where they run out. -/
theorem Shortage.build_eq {error : BuildError} {reached : Nat}
    (shortage : Shortage words shell.minted spare error reached) (nonempty : words ≠ [])
    (grammatical : Grammatical words commands)
    (opens : openEach system mode (redirectionsOf words) Ends.inherited shell = (.ok ends, opened))
    (made : makePipes system (words.count Operator.pipe.text) opened = (.ok pipes, done)) :
    (build system mode words (shell.bounded (shell.table.slots.length + spare))).1 =
        .error error ∧
      (build system mode words (shell.bounded (shell.table.slots.length + spare))).2.minted =
        reached := by
  have outcome := build_of_commands system mode nonempty grammatical
    (shell.bounded (shell.table.slots.length + spare))
  rw [← redirectionsOf_grammatical grammatical, count_pipe_of_grammatical grammatical] at outcome
  cases shortage with
  | opening cut fits exceeds =>
    rw [cut] at opens outcome
    obtain ⟨failed, minted, fails⟩ := openEach_bounded_of_lt_demand opens fits exceeds
    rw [fails] at outcome
    exact ⟨outcome.1, outcome.2.trans minted⟩
  | @piping index fitsAll within fits exceeds =>
    have length := length_slots_of_openEach opens
    obtain ⟨_, mintedOpened, _⟩ := openEach_leading opens (.inherited shell.table)
    have room : opened.table.slots.length + 2 * index ≤ shell.table.slots.length + spare := by
      rw [length, Nat.add_assoc]
      exact Nat.add_le_add_left fits _
    have full : shell.table.slots.length + spare < opened.table.slots.length + 2 * (index + 1) := by
      rw [length, Nat.add_assoc]
      exact Nat.add_lt_add_left exceeds _
    obtain ⟨failed, minted, fails⟩ := makePipes_bounded_of_lt made within room full
    rw [openEach_bounded opens fitsAll] at outcome
    dsimp only at outcome
    rw [fails] at outcome
    exact ⟨outcome.1, outcome.2.trans (mintedOpened ▸ minted)⟩

end

/-- How a build of words ends that has so many descriptors to spare and would give this pipeline if
there were no limit. -/
structure Budgeted (words : List String) (shell : Interpreter σ) (spare : Nat)
    (pipeline : Pipeline) (outcome : Except BuildError Pipeline × Interpreter σ) : Prop where
  /-- There is one stage more than there are pipes. -/
  length : pipeline.stages.length = words.count Operator.pipe.text + 1
  /-- With pipes it needs two descriptors for each, and one for each direction of redirections. -/
  joined : Operator.pipe.text ∈ words → (outcome.1 = .ok pipeline ↔
    2 * words.count Operator.pipe.text +
      (if (Operator.redirect .input).text ∈ words then 1 else 0) +
      (if (Operator.redirect .output).text ∈ words then 1 else 0) ≤ spare)
  /-- Without pipes it needs what its redirections need at once. -/
  single : Operator.pipe.text ∉ words →
    (outcome.1 = .ok pipeline ↔ peak (redirectionsOf words) ≤ spare)
  /-- It fails where the descriptors run out, and then closes all that it opened. -/
  failed : ∀ error, outcome.1 = .error error →
    Shortage words shell.minted spare error outcome.2.minted ∧ outcome.2.table = shell.table
  /-- It ends in no third way. -/
  decided : outcome.1 = .ok pipeline ∨ ∃ error, outcome.1 = .error error

/-- A build that would succeed without a limit needs exactly the descriptors that its words call
for. -/
theorem build_budgeted (system : System σ) (mode : OutputMode) (words : List String)
    (shell : Interpreter σ) (spare : Nat) {pipeline : Pipeline}
    (builds : (build system mode words shell).1 = .ok pipeline) :
    Budgeted words shell spare pipeline
      (build system mode words (shell.bounded (shell.table.slots.length + spare))) := by
  by_cases empty : words = []
  · subst empty
    rw [build, if_pos rfl] at builds ⊢
    cases builds
    exact
      { length := rfl
        joined := fun present => absurd present List.not_mem_nil
        single := fun _ => iff_of_true rfl (Nat.zero_le spare)
        failed := fun error failed => by cases failed
        decided := .inl rfl }
  obtain ⟨commands, ends, opened, pipes, done, grammatical, opens, made, rfl, _⟩ :=
    exists_commands_of_build empty (Prod.ext builds rfl)
  rw [← redirectionsOf_grammatical grammatical] at opens
  rw [count_pipe_of_grammatical grammatical] at made
  have custody := build_custody system mode words
    (Custody.start (shell.bounded (shell.table.slots.length + spare)))
  have ending := suffices_or_shortage words shell.minted spare
  have succeeds : (build system mode words
      (shell.bounded (shell.table.slots.length + spare))).1 = .ok (pipelineOf commands ends pipes) ↔
        Suffices words spare := by
    refine ⟨fun succeeds => ending.resolve_right ?_, fun enough =>
      enough.build_eq empty grammatical opens made⟩
    rintro ⟨error, reached, shortage⟩
    rw [(shortage.build_eq empty grammatical opens made).1] at succeeds
    cases succeeds
  constructor
  case length =>
    obtain ⟨counted, enough⟩ := length_pipes grammatical
      (count_pipe_of_grammatical grammatical ▸ made)
    rw [pipelineOf, length_joinedBy, length_seated, enough, counted]
  case joined =>
    intro present
    rw [succeeds, suffices_iff_of_pipe present, kinds_of_grammatical grammatical, Nat.add_comm,
      Nat.add_assoc]
  case single =>
    intro absent
    rw [succeeds, suffices_iff_of_no_pipe absent]
  case failed =>
    intro error fails
    rw [fails] at custody
    rcases ending with enough | ⟨other, reached, shortage⟩
    · rw [succeeds.mpr enough] at fails
      cases fails
    · obtain ⟨failsToo, rfl⟩ := shortage.build_eq empty grammatical opens made
      rw [fails] at failsToo
      obtain rfl : error = other := Except.error.inj failsToo
      exact ⟨shortage, custody.table_eq⟩
  case decided =>
    rcases ending with enough | ⟨error, reached, shortage⟩
    · exact .inl (succeeds.mpr enough)
    · exact .inr ⟨error, (shortage.build_eq empty grammatical opens made).1⟩

/-- A line that replaces its input after it redirected its output. -/
def replacing : List String := ["sort", "<", "first", ">", "sorted", "<", "second"]

/-- What the line becomes. The descriptor 3 of the first file is closed again. -/
def replacingBuilt : Pipeline where
  stages := [⟨"sort", ["sort"], .owned 5, .owned 4⟩]
  background := false

/-- The line keeps two descriptors and needs three in passing, so with two to spare it cannot open
its last file. -/
theorem budgeted_replacing :
    (build System.granting .truncate replacing (Interpreter.start 100)).1 = .ok replacingBuilt ∧
      Budgeted replacing (Interpreter.start (100 : ProcessId)) 2 replacingBuilt
        (build System.granting .truncate replacing ((Interpreter.start 100).bounded (3 + 2))) ∧
      kinds (redirectionsOf replacing) = 2 ∧ peak (redirectionsOf replacing) = 3 ∧
      (build System.granting .truncate replacing ((Interpreter.start 100).bounded (3 + 2))).1 =
        .error (.cannotOpen "second" (.refused .tooManyOpen)) := by
  have builds : (build System.granting .truncate replacing (Interpreter.start 100)).1 =
      .ok replacingBuilt := by decide +kernel
  exact ⟨builds, build_budgeted System.granting .truncate replacing (Interpreter.start 100) 2 builds,
    by decide +kernel, by decide +kernel, by decide +kernel⟩

end PipelineShell
