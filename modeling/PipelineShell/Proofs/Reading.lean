/-
How a session goes through its input.

The input is read in blocks, and a line that was not used up yet is kept until the next one is
wanted. What is still to come at any time is therefore what was read and not used, followed by what
is left of the input. Reading a line takes the first one of these bytes off and leaves the rest, so
the lines that a session carries out are those of its input, in order and each once, for as long as
nobody else takes from the input. After a line that went wrong the session is where that line left
it, and goes on.
-/

import Mathlib.Data.List.Infix
import PipelineShell.Proofs.Gating
import PipelineShell.Proofs.Loading

namespace PipelineShell

variable {σ : Type}

/-! ### Reading one line -/

/-- Taking the first line of some bytes: there is none, or the first piece, which is cut off. -/
inductive Reads : (available : Bytes) → Option Bytes → (left : Bytes) → Prop where
  | nothing : Reads [] none []
  | line {available segment left : Bytes} (nonempty : segment ≠ [])
      (cut : Text.cutAfter Text.lineFeed available =
        segment :: Text.cutAfter Text.lineFeed left) : Reads available (some segment) left

theorem Reads.length_lt {available segment left : Bytes}
    (reads : Reads available (some segment) left) : left.length < available.length := by
  cases reads with
  | line nonempty cut =>
    have whole : available = segment ++ left := by
      rw [← Text.flatten_cutAfter Text.lineFeed available, cut, List.flatten_cons,
        Text.flatten_cutAfter]
    rw [whole, List.length_append]
    exact Nat.lt_add_of_pos_left (List.length_pos_iff.mpr nonempty)

theorem Reads.inputLines_eq {available segment left : Bytes}
    (reads : Reads available (some segment) left) :
    Text.inputLines available = Text.inputLine segment :: Text.inputLines left := by
  cases reads with
  | line _ cut => exact congrArg (List.map Text.inputLine) cut

/-- Takes blocks of these sizes from the input. -/
def skipBlocks (system : System σ) (blocks : List Nat) (world : σ) : σ :=
  blocks.foldl (fun world count => system.skipInput count world) world

theorem drop_length_takeWhile {α : Type} (keep : α → Bool) (items : List α) :
    items.drop (items.takeWhile keep).length = items.dropWhile keep :=
  calc items.drop (items.takeWhile keep).length
    _ = (items.takeWhile keep ++ items.dropWhile keep).drop (items.takeWhile keep).length := by
      rw [List.takeWhile_append_dropWhile]
    _ = items.dropWhile keep := List.drop_left

theorem reads_of_lineFeed {unread : Bytes} {feed : UInt8} {rest : Bytes}
    (found : unread.drop (unread.takeWhile (· ≠ Text.lineFeed)).length = feed :: rest)
    (input : Bytes) :
    Reads (unread ++ input) (some (unread.takeWhile (· ≠ Text.lineFeed) ++ [feed]))
      (rest ++ input) := by
  rw [drop_length_takeWhile] at found
  obtain ⟨whole, rfl, absent⟩ := span_eq_cons_iff.mp
    ((List.span_eq_takeWhile_dropWhile _ _).trans (congrArg (Prod.mk _) found))
  refine .line (by simp) ?_
  conv_lhs => rw [whole]
  rw [List.append_assoc, List.cons_append]
  exact Text.cutAfter_append_mark absent _

theorem reads_all {unread : Bytes} (nonempty : unread ≠ [])
    (found : unread.drop (unread.takeWhile (· ≠ Text.lineFeed)).length = []) :
    Reads unread (some unread) [] := by
  rw [drop_length_takeWhile, List.dropWhile_eq_nil_iff] at found
  have absent : Text.lineFeed ∉ unread := fun mem => by simpa using found _ mem
  exact .line nonempty (Text.cutAfter_of_notMem absent nonempty)

section

variable {system : System σ} {Sound : σ → Prop}

/-- Reading a line takes the first one of what is to come. A block that is read holds at least one
byte, so there are never more blocks than bytes. -/
theorem takeLine_reads
    (skips : ∀ count world, Sound world → Sound (system.skipInput count world) ∧
      system.input (system.skipInput count world) = (system.input world).drop count)
    {bound : Nat} {unread : Bytes} {world : σ} (sound : Sound world)
    (enough : (system.input world).length < bound) :
    ∃ line left blocks,
      Session.takeLine system bound unread world = (line, left, skipBlocks system blocks world) ∧
        Sound (skipBlocks system blocks world) ∧
        Reads (unread ++ system.input world) line
          (left ++ system.input (skipBlocks system blocks world)) := by
  induction bound generalizing unread world with
  | zero => exact absurd enough (Nat.not_lt_zero _)
  | succ bound inductionHypothesis =>
    unfold Session.takeLine
    dsimp only
    split
    · rename_i feed rest found
      exact ⟨_, rest, [], rfl, sound, reads_of_lineFeed found _⟩
    · rename_i found
      split
      · rename_i atEnd
        have nothingLeft : system.input world = [] :=
          (List.take_eq_nil_iff.mp atEnd).resolve_left (by decide)
        refine ⟨_, [], [], rfl, sound, ?_⟩
        rw [skipBlocks, List.foldl_nil, nothingLeft, List.append_nil]
        split
        · rename_i nothingRead
          rw [nothingRead]
          exact .nothing
        · rename_i nonempty
          exact reads_all nonempty found
      · rename_i more
        generalize isBlock : (system.input world).take Session.inputBlock = block at more ⊢
        have isPrefix : block <+: system.input world := isBlock ▸ List.take_prefix _ _
        obtain ⟨soundAfter, inputAfter⟩ := skips block.length world sound
        have less : (system.input (system.skipInput block.length world)).length < bound := by
          have taken := List.length_pos_iff.mpr more
          have short := isPrefix.length_le
          rw [inputAfter, List.length_drop]
          omega
        obtain ⟨line, left, blocks, takes, soundLast, reads⟩ :=
          @inductionHypothesis (unread ++ block) _ soundAfter less
        refine ⟨line, left, block.length :: blocks, takes, soundLast, ?_⟩
        rwa [inputAfter, List.append_assoc, ← List.prefix_append_drop isPrefix] at reads

end

/-! ### What takes from the input -/

/-- Whether the world stays sound and nothing is taken from the input. -/
def System.KeepsInput (system : System σ) (Sound : σ → Prop) (before after : σ) : Prop :=
  Sound after ∧ system.input after = system.input before

/-- Nothing that the shell or an executor does takes from the input, except for reading it, which
takes from its front. This may depend on the world being sound, as it then stays. -/
structure Undisturbed (system : System σ) (executor : Executor σ) (Sound : σ → Prop) : Prop where
  skipInput : ∀ count world, Sound world → Sound (system.skipInput count world) ∧
    system.input (system.skipInput count world) = (system.input world).drop count
  openFile : ∀ path truncate serial world, Sound world →
    Sound (system.openFile path truncate serial world).2 ∧
      system.input (system.openFile path truncate serial world).2 = system.input world
  makePipe : ∀ serial world, Sound world → Sound (system.makePipe serial world).2 ∧
    system.input (system.makePipe serial world).2 = system.input world
  changeDirectory : ∀ path world, Sound world → Sound (system.changeDirectory path world).2 ∧
    system.input (system.changeDirectory path world).2 = system.input world
  write : ∀ stream text world, Sound world → Sound (system.write stream text world) ∧
    system.input (system.write stream text world) = system.input world
  enter : ∀ entry world, Sound world → Sound (system.enter entry world) ∧
    system.input (system.enter entry world) = system.input world
  executor : ∀ pipeline store shell, Sound shell.world →
    Sound (executor pipeline store shell).2.world ∧
      system.input (executor pipeline store shell).2.world = system.input shell.world

namespace Undisturbed

variable {system : System σ} {executor : Executor σ} {Sound : σ → Prop}
variable (undisturbed : Undisturbed system executor Sound)
include undisturbed

theorem does {deeds : List Deed} {before after : Interpreter σ}
    (does : Does system deeds before after) (sound : Sound before.world) :
    Sound after.world ∧ system.input after.world = system.input before.world := by
  refine does.world_induction
    (motive := fun world => Sound world ∧ system.input world = system.input before.world)
    ⟨sound, rfl⟩ ?_
  rintro deed _ first next change ⟨firstSound, same⟩
  have kept : Sound next ∧ system.input next = system.input first := by
    cases change with
    | none => exact ⟨firstSound, rfl⟩
    | enter => exact undisturbed.enter _ _ firstSound
    | write => exact undisturbed.write _ _ _ firstSound
    | openFile => exact undisturbed.openFile _ _ _ _ firstSound
    | makePipe => exact undisturbed.makePipe _ _ firstSound
    | changeDirectory => exact undisturbed.changeDirectory _ _ firstSound
  exact ⟨kept.1, kept.2.trans same⟩

/-- Whatever becomes of a line, the input stays for the next ones, provided that an executor leaves
it alone when it runs what the line hands over. -/
theorem runLine_of_keeps {other : Executor σ} {mode : OutputMode} {line : String}
    {session : Session σ}
    (keeps : ∀ pipeline store shell, Session.Hands system mode line session pipeline store shell →
      Sound shell.world →
      system.KeepsInput Sound shell.world (other pipeline store shell).2.world)
    (sound : Sound session.shell.world) :
    system.KeepsInput Sound session.shell.world
      (Session.runLine system other mode line session).2.shell.world := by
  by_cases qualified : ∃ pipeline built, Session.Qualifies system mode line session pipeline built
  · obtain ⟨pipeline, built, qualifies⟩ := qualified
    obtain ⟨builtSound, builtSame⟩ := undisturbed.does qualifies.does sound
    obtain ⟨ranSound, ranSame⟩ := keeps _ _ _ qualifies.hands builtSound
    rw [qualifies.hands, Session.snd_concluded]
    exact ⟨ranSound, ranSame.trans builtSame⟩
  · have way := Session.runLine_way system other mode line session
    exact undisturbed.does (way.does_of_unqualified qualified) sound

/-- An executor that leaves the input alone does so at every line. -/
theorem runLine (mode : OutputMode) (line : String) (session : Session σ)
    (sound : Sound session.shell.world) :
    Sound (Session.runLine system executor mode line session).2.shell.world ∧
      system.input (Session.runLine system executor mode line session).2.shell.world =
        system.input session.shell.world :=
  undisturbed.runLine_of_keeps
    (fun pipeline store shell _ => undisturbed.executor pipeline store shell) sound

end Undisturbed

/-! ### The course of a session -/

namespace Session

variable (system : System σ) (executor : Executor σ) (settings : Settings)

/-- The same session in another world. -/
def inWorld (session : Session σ) (world : σ) : Session σ :=
  { session with shell := { session.shell with world } }

/-- A session in which the prompt was written once, and then blocks of the input were read. -/
def Prompted (session current : Session σ) : Prop :=
  ∃ blocks, current = (session.write system .output settings.prompt).inWorld
    (skipBlocks system blocks (session.write system .output settings.prompt).shell.world)

/-- A session carries out lines one after the other, each after a prompt. None of them ends it: one
that goes well is entered in the journal, and the error of one that does not is reported once. -/
inductive Passes : List String → Session σ → Session σ → Prop where
  | nil (session : Session σ) : Passes [] session session
  | carried {session current after reached : Session σ} {line : String} {lines : List String}
      {outcome : Outcome} (prompted : Prompted system settings session current)
      (ran : runLine system executor settings.outputMode line current = (.ok outcome, after))
      (stays : ∀ code, outcome ≠ .exit code)
      (later : Passes lines (after.enter system .debug outcome.label) reached) :
      Passes (line :: lines) session reached
  | reported {session current after reached : Session σ} {line : String} {lines : List String}
      {error : LineError} (prompted : Prompted system settings session current)
      (ran : runLine system executor settings.outputMode line current = (.error error, after))
      (later : Passes lines (after.write system .errors (report error.message)) reached) :
      Passes (line :: lines) session reached

/-- A session ends at a line that exits, with its code, at one that is not text, with code one, or
with code zero after the last line. -/
inductive Ends : List (Option String) → Session σ → Int × Session σ → Prop where
  | exit {session current after : Session σ} {line : String} {code : Int}
      (rest : List (Option String)) (prompted : Prompted system settings session current)
      (ran : runLine system executor settings.outputMode line current =
        (.ok (.exit code), after)) : Ends (some line :: rest) session (code, after)
  | notText {session current : Session σ} (rest : List (Option String))
      (prompted : Prompted system settings session current) :
      Ends (none :: rest) session
        (1, current.write system .errors
          (report ("cannot read input: " ++ Fault.message .notText)))
  | noMore {session current : Session σ} (prompted : Prompted system settings session current) :
      Ends [] session (0, current.write system .output "\n")

/-- A session goes through lines: it carries out some of them and ends where the rest begins. -/
def Follows (lines : List (Option String)) (session : Session σ) (result : Int × Session σ) :
    Prop :=
  ∃ carried rest reached, lines = carried.map some ++ rest ∧
    Passes system executor settings carried session reached ∧
    Ends system executor settings rest reached result

variable {system executor settings}

theorem readLine_of_takeLine {unread left : Bytes} {session : Session σ} {line : Option Bytes}
    {world : σ}
    (takes : takeLine system ((system.input session.shell.world).length + 1) unread
      session.shell.world = (line, left, world)) :
    session.readLine system unread = (line, left, session.inWorld world) := by
  unfold readLine
  dsimp only
  rw [takes]
  rfl

namespace Follows

variable {line : String} {lines : List (Option String)} {session current after : Session σ}
variable {result : Int × Session σ}

theorem of_ends (ends : Ends system executor settings lines session result) :
    Follows system executor settings lines session result :=
  ⟨[], lines, session, rfl, .nil session, ends⟩

theorem carry {outcome : Outcome} (prompted : Prompted system settings session current)
    (ran : runLine system executor settings.outputMode line current = (.ok outcome, after))
    (stays : ∀ code, outcome ≠ .exit code)
    (later : Follows system executor settings lines (after.enter system .debug outcome.label)
      result) : Follows system executor settings (some line :: lines) session result := by
  obtain ⟨carried, rest, reached, rfl, passes, ends⟩ := later
  exact ⟨line :: carried, rest, reached, rfl, .carried prompted ran stays passes, ends⟩

theorem report {error : LineError} (prompted : Prompted system settings session current)
    (ran : runLine system executor settings.outputMode line current = (.error error, after))
    (later : Follows system executor settings lines
      (after.write system .errors (Session.report error.message)) result) :
    Follows system executor settings (some line :: lines) session result := by
  obtain ⟨carried, rest, reached, rfl, passes, ends⟩ := later
  exact ⟨line :: carried, rest, reached, rfl, .reported prompted ran passes, ends⟩

end Follows

section

variable {Sound : σ → Prop} (undisturbed : Undisturbed system executor Sound)
include undisturbed

/-- After the prompt, the first line of what is to come is read. -/
theorem readLine_reads (settings : Settings) (unread : Bytes) {session : Session σ}
    (sound : Sound session.shell.world) :
    ∃ line left current,
      (session.write system .output settings.prompt).readLine system unread =
          (line, left, current) ∧
        Prompted system settings session current ∧ Sound current.shell.world ∧
        Reads (unread ++ system.input session.shell.world) line
          (left ++ system.input current.shell.world) := by
  obtain ⟨wroteSound, wroteSame⟩ :=
    undisturbed.write .output settings.prompt session.shell.world sound
  obtain ⟨line, left, blocks, takes, soundAfter, reads⟩ :=
    takeLine_reads undisturbed.skipInput wroteSound (Nat.lt_succ_self _)
  refine ⟨line, left, _, readLine_of_takeLine takes, ⟨blocks, rfl⟩, soundAfter, ?_⟩
  rw [← wroteSame]
  exact reads

/-- When no lines are to come, reading finds none. -/
theorem readLine_of_inputLines_nil (settings : Settings) {unread : Bytes} {session : Session σ}
    (sound : Sound session.shell.world)
    (toCome : Text.inputLines (unread ++ system.input session.shell.world) = []) :
    ∃ left current,
      (session.write system .output settings.prompt).readLine system unread =
          (none, left, current) ∧
        Prompted system settings session current := by
  obtain ⟨line, left, current, readsLine, prompted, -, reads⟩ :=
    readLine_reads undisturbed settings unread sound
  cases line with
  | none => exact ⟨left, current, readsLine, prompted⟩
  | some segment => cases toCome.symm.trans reads.inputLines_eq

/-- Otherwise reading takes the first one off, and leaves the others. -/
theorem readLine_of_inputLines_cons (settings : Settings) {unread : Bytes} {session : Session σ}
    {item : Option String} {items : List (Option String)} (sound : Sound session.shell.world)
    (toCome : Text.inputLines (unread ++ system.input session.shell.world) = item :: items) :
    ∃ segment left current,
      (session.write system .output settings.prompt).readLine system unread =
          (some segment, left, current) ∧
        Prompted system settings session current ∧ Sound current.shell.world ∧
        Text.inputLine segment = item ∧
        Text.inputLines (left ++ system.input current.shell.world) = items := by
  obtain ⟨line, left, current, readsLine, prompted, currentSound, reads⟩ :=
    readLine_reads undisturbed settings unread sound
  cases line with
  | none =>
    generalize unread ++ system.input session.shell.world = available at toCome reads
    generalize left ++ system.input current.shell.world = remaining at reads
    cases reads
    cases toCome
  | some segment =>
    obtain ⟨isItem, areItems⟩ := List.cons.inj (reads.inputLines_eq.symm.trans toCome)
    exact ⟨segment, left, current, readsLine, prompted, currentSound, isItem, areItems⟩

/-- As long as there may be more lines than bytes to come, a session goes through the lines of what
is to come. -/
theorem runLines_follows {bound : Nat} (unread : Bytes) {session : Session σ}
    (sound : Sound session.shell.world)
    (enough : (unread ++ system.input session.shell.world).length < bound) :
    Follows system executor settings
      (Text.inputLines (unread ++ system.input session.shell.world)) session
      (runLines system executor settings bound unread session) := by
  induction bound generalizing unread session with
  | zero => exact absurd enough (Nat.not_lt_zero _)
  | succ bound inductionHypothesis =>
    obtain ⟨line, left, current, readsLine, prompted, currentSound, reads⟩ :=
      readLine_reads undisturbed settings unread sound
    rw [runLines, readsLine]
    generalize unread ++ system.input session.shell.world = available at enough reads ⊢
    generalize isLeft : left ++ system.input current.shell.world = remaining at reads
    cases line with
    | none =>
      cases reads
      exact .of_ends (.noMore prompted)
    | some segment =>
      have less : remaining.length < bound := by
        have shorter := reads.length_lt
        omega
      -- The rest is gone through from any session that left the input as this one found it.
      have later : ∀ next : Session σ, Sound next.shell.world →
          system.input next.shell.world = system.input current.shell.world →
          Follows system executor settings (Text.inputLines remaining) next
            (runLines system executor settings bound left next) := by
        intro next nextSound same
        have toCome : left ++ system.input next.shell.world = remaining := same ▸ isLeft
        rw [← toCome] at less ⊢
        exact inductionHypothesis left nextSound less
      rw [reads.inputLines_eq]
      dsimp only
      split
      · rename_i notText
        rw [notText]
        exact .of_ends (.notText _ prompted)
      · rename_i text isText
        rw [isText]
        obtain ⟨ranSound, ranSame⟩ :=
          undisturbed.runLine settings.outputMode text current currentSound
        split
        · rename_i code after ran
          exact .of_ends (.exit _ prompted ran)
        · rename_i outcome after stays ran
          rw [ran] at ranSound ranSame
          obtain ⟨enteredSound, enteredSame⟩ :=
            undisturbed.enter ⟨.debug, outcome.label⟩ after.shell.world ranSound
          exact .carry prompted ran stays (later _ enteredSound (enteredSame.trans ranSame))
        · rename_i error after ran
          rw [ran] at ranSound ranSame
          obtain ⟨wroteSound, wroteSame⟩ :=
            undisturbed.write .errors (report error.message) after.shell.world ranSound
          exact .report prompted ran (later _ wroteSound (wroteSame.trans ranSame))

end

/-- A session goes through the lines of its input, in order and each once, until one of them exits,
is not text, or is the last one. It prompts once before it tries to read each of them. A line that
goes wrong is reported once, and the session goes on from where the line left it. -/
theorem run_follows {Sound : σ → Prop} (undisturbed : Undisturbed system executor Sound)
    (settings : Settings) (session : Session σ) (sound : Sound session.shell.world) :
    Follows system executor settings (Text.inputLines (system.input session.shell.world)) session
      (run system executor settings session) :=
  runLines_follows undisturbed [] sound (Nat.lt_succ_self _)

end Session

/-! ### The input of the machine -/

namespace Kernel

variable {kernel : Kernel} {location : Location}

/-- Whether the input of the shell stands apart: no name leads to it, and the journal is kept
elsewhere. -/
structure InputApart (kernel : Kernel) : Prop where
  proper : [] ∉ kernel.directory
  unnamed : ∀ location, kernel.tree.get? location ≠ some (.slot Stream.input.slot)
  journal : kernel.sink ≠ .file (streamLocation .input)

theorem ne_streamLocation_of_proper (proper : [] ∉ location) (stream : Stream) :
    location ≠ streamLocation stream := by
  rintro rfl
  exact proper List.mem_cons_self

/-- What is left of the input. -/
def inputLeft (kernel : Kernel) : Bytes := kernel.input.drop kernel.inputOffset

theorem inputLeft_clearFile (different : location ≠ streamLocation .input) :
    (kernel.clearFile location).inputLeft = kernel.inputLeft := by
  unfold clearFile
  split
  · rename_i found
    exact absurd (streamAt?_eq_some_iff.mp found).symm different
  · rfl
  · rfl
  · rfl

theorem inputLeft_writeFile (different : location ≠ streamLocation .input) (offset : Nat)
    (bytes : Bytes) : (kernel.writeFile location offset bytes).inputLeft = kernel.inputLeft := by
  unfold writeFile
  split
  · rename_i found
    exact absurd (streamAt?_eq_some_iff.mp found).symm different
  · rfl
  · rfl
  · rfl

/-- The input stands apart if no node leads to it. -/
theorem inputApart_of_nodes (proper : [] ∉ kernel.directory)
    (nodes : ∀ entry ∈ kernel.tree.nodes, entry.2 ≠ .slot Stream.input.slot)
    (journal : kernel.sink ≠ .file (streamLocation .input)) : kernel.InputApart := by
  refine ⟨proper, fun location named => ?_, journal⟩
  cases location with
  | nil => cases named
  | cons name rest => exact nodes _ (Association.mem_of_get? named) rfl

namespace InputApart

variable (apart : kernel.InputApart)
include apart

/-- Changing files makes no name lead to the input. -/
theorem of_keeps {changed : Kernel} (tree : kernel.tree.KeepsPaths changed.tree)
    (directory : changed.directory = kernel.directory) (sink : changed.sink = kernel.sink) :
    changed.InputApart := by
  refine ⟨directory ▸ apart.proper, fun location leads => ?_, sink ▸ apart.journal⟩
  cases found : kernel.tree.get? location with
  | none =>
    rcases tree.missing _ found with still | ⟨_, _, now⟩
    · rw [still] at leads
      cases leads
    · rw [now] at leads
      cases leads
  | some node =>
    by_cases isFile : ∃ contents mode, node = .file contents mode
    · obtain ⟨_, _, rfl⟩ := isFile
      obtain ⟨_, _, now⟩ := tree.files _ _ _ found
      rw [now] at leads
      cases leads
    · rw [tree.others _ _ found fun contents mode same => isFile ⟨contents, mode, same⟩] at leads
      exact apart.unnamed location (found.trans leads)

theorem openAt (different : location ≠ streamLocation .input) (serial : Nat) (access : Access) :
    (kernel.openAt serial location access).2.InputApart ∧
      (kernel.openAt serial location access).2.inputLeft = kernel.inputLeft := by
  rcases kernel.openAt_cases serial location access with ⟨_, refused⟩ | ⟨_, _, _, opens⟩
  · rw [refused]
    exact ⟨apart, rfl⟩
  · rw [opens]
    obtain ⟨tree, directory, _, sink⟩ := clearFile_keeps kernel location
    split
    · exact ⟨apart.of_keeps tree directory sink, inputLeft_clearFile different⟩
    · exact ⟨apart.of_keeps (keepsPaths_refl _) rfl rfl, rfl⟩

/-- A slot that is reached by a name is not that of the input. -/
theorem reopen {number : Descriptor} (named : kernel.tree.get? location = some (.slot number))
    (serial : Nat) (access : Access) :
    (kernel.reopen serial .standard number access).2.InputApart ∧
      (kernel.reopen serial .standard number access).2.inputLeft = kernel.inputLeft := by
  rw [reopen_standard]
  split
  · rename_i place leads
    refine apart.openAt ?_ serial access
    rintro rfl
    refine apart.unnamed location ?_
    rw [named, slot_of_slotLocation? leads]
  · exact ⟨apart, rfl⟩

/-- No file that is opened for a redirection is the input. -/
theorem openPath (serial : Nat) (path : Bytes) (truncate : Bool) :
    (kernel.openPath serial .standard kernel.directory path
        (kernel.redirecting truncate)).2.InputApart ∧
      (kernel.openPath serial .standard kernel.directory path
        (kernel.redirecting truncate)).2.inputLeft = kernel.inputLeft := by
  unfold Kernel.openPath
  split
  · exact ⟨apart, rfl⟩
  · exact ⟨apart, rfl⟩
  · rename_i parent name mode absent _
    obtain ⟨_, missing⟩ := isProper_of_resolve apart.proper absent
    exact ⟨apart.of_keeps (keepsPaths_put (by simp) (.inl missing) _ _) rfl rfl, rfl⟩
  · rename_i found
    obtain ⟨_, impossible | named⟩ := isProper_of_resolve apart.proper found
    · cases impossible
    · exact apart.reopen named serial _
  · rename_i found
    exact apart.openAt (ne_streamLocation_of_proper (isProper_of_resolve apart.proper found).1 _)
      serial _

theorem changeDirectory (path : Bytes) :
    (kernel.changeDirectory path).2.InputApart ∧
      (kernel.changeDirectory path).2.inputLeft = kernel.inputLeft := by
  unfold Kernel.changeDirectory FileTree.directoryAt
  cases leads : kernel.tree.resolve false kernel.directory path with
  | error => exact ⟨apart, rfl⟩
  | ok place =>
    have isProper := isProper_of_resolve apart.proper leads
    cases place with
    | absent => exact ⟨apart, rfl⟩
    | found location node =>
      cases node with
      | directory => exact ⟨⟨isProper.1, apart.unnamed, apart.journal⟩, rfl⟩
      | file | link | device | program | slot => exact ⟨apart, rfl⟩

theorem deliver (stream : Stream) (bytes : Bytes) :
    (kernel.deliver (.inherited stream) bytes).InputApart ∧
      (kernel.deliver (.inherited stream) bytes).inputLeft = kernel.inputLeft := by
  cases stream <;> exact ⟨apart.of_keeps (keepsPaths_refl _) rfl rfl, rfl⟩

theorem enter (entry : Entry) :
    (kernel.enter entry).InputApart ∧ (kernel.enter entry).inputLeft = kernel.inputLeft := by
  unfold Kernel.enter
  split
  · dsimp only
    split
    · exact ⟨apart, rfl⟩
    · exact apart.deliver .errors _
    · rename_i location sink
      obtain ⟨tree, directory, _, same⟩ := writeFile_keeps kernel location
        (kernel.sizeAt location) (Text.encode (entryLine entry))
      refine ⟨apart.of_keeps tree directory same, inputLeft_writeFile (fun there => ?_) _ _⟩
      exact apart.journal (there ▸ sink)
  · exact ⟨apart, rfl⟩

end InputApart

end Kernel

/-- The machine disturbs no session, unless there is a name for its input, or its journal is kept
there. -/
theorem Machine.undisturbed {executor : Executor Machine}
    (executes : ∀ pipeline store (shell : Interpreter Machine), shell.world.InputApart →
      (executor pipeline store shell).2.world.InputApart ∧
        (executor pipeline store shell).2.world.inputLeft = shell.world.inputLeft) :
    Undisturbed Machine.system executor fun machine => machine.InputApart where
  skipInput _ _ apart := ⟨apart.of_keeps (keepsPaths_refl _) rfl rfl, List.drop_drop.symm⟩
  openFile path truncate serial _ apart := apart.openPath serial path truncate
  makePipe _ _ apart := ⟨apart.of_keeps (keepsPaths_refl _) rfl rfl, rfl⟩
  changeDirectory path _ apart := apart.changeDirectory path
  write stream text _ apart := apart.deliver stream (Text.encode text)
  enter entry _ apart := apart.enter entry
  executor := executes

/-- An executor that only closes what it is given. -/
def Executor.idle : Executor σ :=
  fun pipeline _ shell => (.ok 0, shell.closeAll pipeline.owned)

theorem Machine.undisturbed_idle :
    Undisturbed Machine.system Executor.idle fun machine => machine.InputApart := by
  refine undisturbed fun pipeline _ shell apart => ?_
  rw [Executor.idle, shell.world_closeAll pipeline.owned]
  exact ⟨apart, rfl⟩

/-- A machine with an input that has a line that goes wrong and one that exits before the last
one. -/
def Machine.mistaken : Machine :=
  { Machine.holding "notes" [] with
    input := Text.encode "name=value\n$missing\r\nexit 3\nhelp" }

theorem follows_mistaken :
    Undisturbed Machine.system Executor.idle (fun machine => machine.InputApart) ∧
      Machine.mistaken.InputApart ∧
      Text.inputLines (Machine.system.input Machine.mistaken) =
        [some "name=value", some "$missing", some "exit 3", some "help"] ∧
      Session.Follows Machine.system Executor.idle .default
        (Text.inputLines (Machine.system.input Machine.mistaken)) ⟨.empty, .start Machine.mistaken⟩
        (Session.run Machine.system Executor.idle .default ⟨.empty, .start Machine.mistaken⟩) ∧
      (Session.run Machine.system Executor.idle .default
        ⟨.empty, .start Machine.mistaken⟩).1 = 3 := by
  have nodes : ∀ entry ∈ Machine.mistaken.tree.nodes, entry.2 ≠ .slot Stream.input.slot := by
    decide +kernel
  have apart : Machine.mistaken.InputApart :=
    Kernel.inputApart_of_nodes List.not_mem_nil nodes nofun
  refine ⟨Machine.undisturbed_idle, apart, by decide +kernel, ?_, by decide +kernel⟩
  exact Session.run_follows Machine.undisturbed_idle .default ⟨.empty, .start Machine.mistaken⟩
    apart

end PipelineShell
