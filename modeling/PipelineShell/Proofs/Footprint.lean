/-
What a build leaves in the file system.

Files are opened while a line is still being read, so also a build that fails may have created some
and emptied others. Which ones depends on how far it came: the redirections before the first
violation are opened in order, all of them if there is none, and the first that cannot be opened
ends the build. What follows is joining, closing and keeping the journal. So a whole build leaves
what opening those redirections leaves, apart from what it adds to the journal.
-/

import PipelineShell.Proofs.Places
import PipelineShell.Proofs.Wiring

namespace PipelineShell

open Construction Grammar Interpreter

variable {σ Site : Type}

/-! ### How far a build comes -/

/-- Opening redirections one after the other succeeds, or there is a first one that is refused. -/
theorem openEach_ok_or_refused (system : System σ) (mode : OutputMode)
    (redirections : List Redirection) (ends : Ends) (shell : Interpreter σ) :
    (∃ reached after, openEach system mode redirections ends shell = (.ok reached, after)) ∨
      ∃ opened redirection later reached middle fault after,
        redirections = opened ++ redirection :: later ∧
        openEach system mode opened ends shell = (.ok reached, middle) ∧
        middle.openFile system redirection.target (truncates mode redirection.direction) =
          (.error fault, after) ∧
        openEach system mode redirections ends shell =
          (.error (.cannotOpen redirection.target fault), after) := by
  induction redirections generalizing ends shell with
  | nil => exact .inl ⟨ends, shell, rfl⟩
  | cons redirection rest inductionHypothesis =>
    rcases found : shell.openFile system redirection.target
      (truncates mode redirection.direction) with ⟨fault | descriptor, next⟩
    · refine .inr ⟨[], redirection, rest, ends, shell, fault, next, rfl, rfl, found, ?_⟩
      rw [openEach, found]
    · have first : ∀ redirections, openEach system mode (redirection :: redirections) ends shell =
          openEach system mode redirections
            (Function.update ends redirection.direction (.owned descriptor))
            (next.closeAll (ends redirection.direction).owned?.toList) := by
        intro redirections
        rw [openEach, found]
      rw [first]
      rcases inductionHypothesis (Function.update ends redirection.direction (.owned descriptor))
          (next.closeAll (ends redirection.direction).owned?.toList) with
        ⟨reached, after, opens⟩ | ⟨opened, refused, later, reached, middle, fault, after, rfl,
          opens, refuses, fails⟩
      · exact .inl ⟨reached, after, opens⟩
      · exact .inr ⟨redirection :: opened, refused, later, reached, middle, fault, after, rfl,
          (first opened).trans opens, refuses, fails⟩

/-- The redirections of a line that lie before its first violation: all of them, if it has none. -/
def Preceding (words : List String) (redirections : List Redirection) : Prop :=
  (∃ commands, Grammatical words commands ∧
    redirections = commands.flatMap Command.redirections) ∨
  ∃ error, FirstViolation words redirections error

/-- Which redirections a build opens, when it ends like this. -/
inductive Opens (words : List String) (opened : List Redirection) :
    Except BuildError Pipeline → Prop where
  /-- Without words there are none. -/
  | nothing (empty : words = []) (none : opened = []) (pipeline : Pipeline) :
      Opens words opened (.ok pipeline)
  /-- A build that succeeds opens all of them, -/
  | all {commands : List Command} (grammatical : Grammatical words commands)
      (whole : opened = commands.flatMap Command.redirections) (pipeline : Pipeline) :
      Opens words opened (.ok pipeline)
  /-- and so does one that fails to make a pipe. -/
  | beforePipe {commands : List Command} (grammatical : Grammatical words commands)
      (whole : opened = commands.flatMap Command.redirections) (errno : Errno) :
      Opens words opened (.error (.cannotPipe errno))
  /-- A violation comes after those that lie before it. -/
  | beforeViolation {error : BuildError} (first : FirstViolation words opened error) :
      Opens words opened (.error error)
  /-- One that cannot be opened comes after those before it, and no violation lies before it. -/
  | beforeRefusal {redirection : Redirection} {later : List Redirection}
      (preceding : Preceding words (opened ++ redirection :: later)) (fault : Fault) :
      Opens words opened (.error (.cannotOpen redirection.target fault))

/-- What remains to be done after the redirections were opened: nothing that opens files. -/
def afterwards : List Deed := [.enter, .close, .makePipe, .join]

section

variable {system : System σ} {mode : OutputMode} {words : List String} {shell : Interpreter σ}

/-- A build opens redirections one after the other, may be refused one more, and opens nothing from
then on. -/
theorem build_opens (system : System σ) (mode : OutputMode) (words : List String)
    (shell : Interpreter σ) :
    ∃ opened ends reached tried, Opens words opened (build system mode words shell).1 ∧
      openEach system mode opened Ends.inherited shell = (.ok ends, reached) ∧
      (tried = reached ∨ ∃ (redirection : Redirection) (fault : Fault),
        (build system mode words shell).1 = .error (.cannotOpen redirection.target fault) ∧
        reached.openFile system redirection.target (truncates mode redirection.direction) =
          (.error fault, tried)) ∧
      Does system afterwards tried (build system mode words shell).2 := by
  by_cases empty : words = []
  · refine ⟨[], Ends.inherited, shell, shell, ?_, rfl, .inl rfl, ?_⟩
    · rw [build, if_pos empty]
      exact .nothing empty rfl _
    · rw [build, if_pos empty]
      exact .refl shell
  · rcases grammatical_or_violation words with ⟨commands, grammatical⟩ | ⟨earlier, error, first⟩
    · have outcome := build_of_grammatical system mode empty grammatical shell
      rcases openEach_ok_or_refused system mode (commands.flatMap Command.redirections)
          Ends.inherited shell with
        ⟨ends, after, opens⟩ | ⟨opened, redirection, later, reached, middle, fault, after, whole,
          opens, refuses, fails⟩
      · rw [opens] at outcome
        dsimp only at outcome
        have joined := joinAll_does system (seated (commands.length - 1) ends 0 commands) after
        generalize joinAll system (seated (commands.length - 1) ends 0 commands) after = stages
          at outcome joined
        obtain ⟨errno | stages, done⟩ := stages
        · rw [outcome]
          exact ⟨_, ends, after, after, .beforePipe grammatical rfl errno, opens, .inl rfl,
            joined.mono (by decide)⟩
        · rw [outcome]
          exact ⟨_, ends, after, after, .all grammatical rfl _, opens, .inl rfl,
            (joined.mono (by decide)).step (.enter .debug _ done) (by decide)⟩
      · rw [fails] at outcome
        obtain ⟨ending, does⟩ := outcome
        refine ⟨opened, reached, middle, after, ?_, opens, .inr ⟨redirection, fault, ending, refuses⟩,
          does.mono (by decide)⟩
        rw [ending]
        exact .beforeRefusal (.inl ⟨commands, grammatical, whole.symm⟩) fault
    · have outcome := build_of_firstViolation system mode empty first shell
      rcases openEach_ok_or_refused system mode earlier Ends.inherited shell with
        ⟨ends, after, opens⟩ | ⟨opened, redirection, later, reached, middle, fault, after, rfl,
          opens, refuses, fails⟩
      · rw [opens] at outcome
        obtain ⟨ending, does⟩ := outcome
        refine ⟨earlier, ends, after, after, ?_, opens, .inl rfl, does.mono (by decide)⟩
        rw [ending]
        exact .beforeViolation first
      · rw [fails] at outcome
        obtain ⟨ending, does⟩ := outcome
        refine ⟨opened, reached, middle, after, ?_, opens, .inr ⟨redirection, fault, ending, refuses⟩,
          does.mono (by decide)⟩
        rw [ending]
        exact .beforeRefusal (.inr ⟨error, first⟩) fault

end

/-! ### The footprint -/

variable [DecidableEq Site]

/-- What opening redirections leaves of the files that were seen before, apart from the journal. -/
structure Footprint (mode : OutputMode) (opened : List Redirection)
    (before after : FileView Site) : Prop where
  /-- What is opened leads somewhere. -/
  leads : ∀ redirection ∈ opened, ∃ site,
    before.site? (Text.encode redirection.target) = some site
  /-- A file that was missing is there, with no contents and with the permissions of a new file. -/
  created : ∀ redirection ∈ opened, ∀ site,
    before.site? (Text.encode redirection.target) = some site → before.journal? ≠ some site →
    before.node? site = none →
    after.node? site = some (.file [] (FileTree.masked 0o700 before.mask))
  /-- A file that output goes to is empty, if the mode asks for it. -/
  emptied : mode = .truncate → ∀ redirection ∈ opened, redirection.direction = .output →
    ∀ site contents permissions,
      before.site? (Text.encode redirection.target) = some site → before.journal? ≠ some site →
      before.node? site = some (.file contents permissions) →
      after.node? site = some (.file [] permissions)
  /-- Nothing else that was there has changed. -/
  changed : ∀ site node, before.journal? ≠ some site → before.node? site = some node →
    after.node? site ≠ some node →
    mode = .truncate ∧ ∃ redirection ∈ opened, redirection.direction = .output ∧
      before.site? (Text.encode redirection.target) = some site
  /-- Nothing else that was missing has appeared. -/
  appeared : ∀ site, before.journal? ≠ some site → before.node? site = none →
    after.node? site ≠ none → ∃ redirection ∈ opened,
      before.site? (Text.encode redirection.target) = some site
  /-- Paths lead where they did. -/
  sites : after.site? = before.site?

theorem truncates_eq_true_iff {mode : OutputMode} {direction : Direction} :
    truncates mode direction = true ↔ mode = .truncate ∧ direction = .output := by
  simp only [truncates, Bool.and_eq_true, decide_eq_true_eq, and_comm]

theorem mem_leading {view : FileView Site} {site : Site} {redirections : List Redirection}
    {redirection : Redirection} : redirection ∈ view.leading site redirections ↔
      redirection ∈ redirections ∧
        view.site? (Text.encode redirection.target) = some site := by
  rw [FileView.leading, List.mem_filter, decide_eq_true_eq]

/-- Touching the places of redirections leaves their footprint. -/
theorem footprint_touchEach (mode : OutputMode) {opened : List Redirection}
    {before after : FileView Site}
    (leads : ∀ redirection ∈ opened, ∃ site,
      before.site? (Text.encode redirection.target) = some site)
    (agrees : after.Agree (before.touchEach mode opened)) : Footprint mode opened before after := by
  obtain ⟨sites, mask, journal⟩ := before.touchEach_stays mode opened
  have nodes : ∀ site, before.journal? ≠ some site →
      after.node? site = (before.touchEach mode opened).node? site :=
    fun site elsewhere => agrees.nodes site (journal.symm ▸ elsewhere)
  constructor
  case leads => exact leads
  case created =>
    intro redirection mem site lead elsewhere missing
    have present : before.leading site opened ≠ [] :=
      List.ne_nil_of_mem (mem_leading.mpr ⟨mem, lead⟩)
    rw [nodes site elsewhere, FileView.node?_touchEach, if_neg present, missing]
    rfl
  case emptied =>
    intro truncating redirection mem output site contents permissions lead elsewhere there
    have leading := mem_leading.mpr ⟨mem, lead⟩
    have empties : (before.leading site opened).any
        (fun redirection => truncates mode redirection.direction) = true :=
      List.any_eq_true.mpr ⟨redirection, leading, truncates_eq_true_iff.mpr ⟨truncating, output⟩⟩
    rw [nodes site elsewhere, FileView.node?_touchEach, if_neg (List.ne_nil_of_mem leading),
      empties, there]
    rfl
  case changed =>
    intro site node elsewhere there different
    rw [nodes site elsewhere, FileView.node?_touchEach, there] at different
    split at different
    · exact absurd rfl different
    · by_cases empties : (before.leading site opened).any
          (fun redirection => truncates mode redirection.direction) = true
      · obtain ⟨redirection, leading, truncating⟩ := List.any_eq_true.mp empties
        obtain ⟨mem, lead⟩ := mem_leading.mp leading
        obtain ⟨asked, output⟩ := truncates_eq_true_iff.mp truncating
        exact ⟨asked, redirection, mem, output, lead⟩
      · rw [Bool.not_eq_true] at empties
        rw [empties] at different
        cases node <;> exact absurd rfl different
  case appeared =>
    intro site elsewhere missing there
    rw [nodes site elsewhere, FileView.node?_touchEach, missing] at there
    split at there
    · exact absurd rfl there
    · rename_i present
      obtain ⟨redirection, leading⟩ := List.exists_mem_of_ne_nil _ present
      exact ⟨redirection, mem_leading.mp leading⟩
  case sites => exact agrees.sites.trans sites

/-- What a build did with the files, when it opened these redirections. -/
structure Leaves {system : System σ} (filing : Filing system Site) (mode : OutputMode)
    (words : List String) (shell : Interpreter σ) (opened : List Redirection)
    (result : Except BuildError Pipeline × Interpreter σ) : Prop where
  opens : Opens words opened result.1
  /-- All of them were opened. -/
  succeeded : ∃ ends reached, openEach system mode opened Ends.inherited shell = (.ok ends, reached)
  /-- The system was asked for them in order, and besides at most for one that it refused. -/
  requests : ∃ refused, result.2.requests =
      shell.requests ++ requestsOf mode shell.minted opened ++ refused ∧
    (refused = [] ∨ ∃ (redirection : Redirection) (fault : Fault),
      result.1 = .error (.cannotOpen redirection.target fault) ∧
      refused = [⟨redirection.target, truncates mode redirection.direction,
        shell.minted + opened.length⟩])
  footprint : Footprint mode opened (filing.view shell.world) (filing.view result.2.world)

/-- Whatever becomes of a build, it opens the redirections before the first violation, in order, and
leaves no more in the file system than opening them does. -/
theorem build_footprint {system : System σ} (filing : Filing system Site) (mode : OutputMode)
    (words : List String) {shell : Interpreter σ} (sound : filing.Sound shell.world) :
    ∃ opened, Leaves filing mode words shell opened (build system mode words shell) := by
  obtain ⟨opened, ends, reached, tried, opens, succeeded, tries, does⟩ :=
    build_opens system mode words shell
  obtain ⟨soundReached, leads, touches⟩ := filing.openEach_ok sound succeeded
  obtain ⟨_, minted, asked⟩ := openEach_leading succeeded (.inherited shell.table)
  -- One that was refused leaves the files alone, too, and the system may not have been asked for it.
  have kept : filing.Sound tried.world ∧ filing.view tried.world = filing.view reached.world ∧
      ∃ refused, tried.requests = reached.requests ++ refused ∧
        (refused = [] ∨ ∃ (redirection : Redirection) (fault : Fault),
          (build system mode words shell).1 = .error (.cannotOpen redirection.target fault) ∧
          refused = [⟨redirection.target, truncates mode redirection.direction,
            reached.minted⟩]) := by
    rcases tries with rfl | ⟨redirection, fault, ending, refuses⟩
    · exact ⟨soundReached, rfl, [], (List.append_nil _).symm, .inl rfl⟩
    · obtain ⟨soundTried, same, refused, short, asksFor⟩ :=
        filing.openFile_error soundReached refuses
      refine ⟨soundTried, same, refused, asksFor, ?_⟩
      rcases List.prefix_cons_iff.mp short with none | ⟨rest, one, short⟩
      · exact .inl none
      · rw [List.prefix_nil.mp short] at one
        exact .inr ⟨redirection, fault, ending, one⟩
  obtain ⟨soundTried, same, refused, asksFor, atMost⟩ := kept
  have agrees := (filing.does_agree does (by decide) (by decide) (by decide) soundTried).2
  rw [same, touches] at agrees
  rw [minted] at atMost
  refine ⟨opened, opens, ⟨ends, reached, succeeded⟩, ⟨refused, ?_, atMost⟩,
    footprint_touchEach mode leads agrees⟩
  rw [does.requests_eq (by decide), asksFor, asked]

/-- A line with a violation that comes after a file that is missing and one that is there. -/
theorem footprint_missingTarget :
    let machine := Machine.holding "counts" (Text.encode "12\n")
    let words := ["wc", "<", "new", ">", "counts", "<"]
    [] ∉ machine.directory ∧
      ∃ opened, Leaves Machine.filing .truncate words (Interpreter.start machine) opened
        (build Machine.system .truncate words (Interpreter.start machine)) := by
  intro machine words
  have proper : Machine.filing.Sound machine := List.not_mem_nil
  exact ⟨proper, build_footprint Machine.filing .truncate words proper⟩

end PipelineShell
