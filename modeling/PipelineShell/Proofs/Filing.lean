/-
Systems that open files.

What is seen of the files of a world is a view: where paths lead and what is there. Opening a path
touches the place to which it leads: a file that was missing is created, and one that is there may
be emptied. A system opens files as systems do if this is all that opening does to the view, and a
refusal does nothing. Redirections that are opened one after the other then touch their places one
after the other, so in the end each place was touched once for all of them.
-/

import PipelineShell.FileTree
import PipelineShell.Proofs.Joining

namespace PipelineShell

open Construction Grammar Interpreter

variable {σ Site : Type}

/-! ### Views of files -/

/-- What is seen of the files of a world. -/
@[ext]
structure FileView (Site : Type) where
  /-- Where a path leads. There may be no file there yet. -/
  site? : Bytes → Option Site
  node? : Site → Option Node
  /-- The permissions that new files do not get. -/
  mask : Nat
  /-- Where the journal is kept, if that is a place among the files. -/
  journal? : Option Site

/-- What is at a place after it was opened: a new file, the file that was there and may have been
emptied, or whatever else was there. -/
def touched (truncate : Bool) (mask : Nat) : Option Node → Node
  | none => .file [] (FileTree.masked 0o700 mask)
  | some (.file contents mode) => if truncate then .file [] mode else .file contents mode
  | some other => other

theorem touched_touched (first second : Bool) (mask : Nat) (node? : Option Node) :
    touched second mask (some (touched first mask node?)) =
      touched (first || second) mask node? := by
  rcases node? with _ | node
  · cases second <;> rfl
  · cases node <;> cases first <;> cases second <;> rfl

namespace FileView

variable [DecidableEq Site]

/-- The files after a path was opened. -/
def touch (path : Bytes) (truncate : Bool) (view : FileView Site) : FileView Site :=
  match view.site? path with
  | none => view
  | some site =>
    { view with
      node? := Function.update view.node? site
        (some (touched truncate view.mask (view.node? site))) }

/-- The files after redirections were opened, one after the other. -/
def touchEach (mode : OutputMode) (redirections : List Redirection) (view : FileView Site) :
    FileView Site :=
  redirections.foldl
    (fun view redirection =>
      view.touch (Text.encode redirection.target) (truncates mode redirection.direction)) view

/-- The redirections that lead to a place. -/
def leading (view : FileView Site) (site : Site) (redirections : List Redirection) :
    List Redirection :=
  redirections.filter fun redirection => view.site? (Text.encode redirection.target) = some site

@[simp] theorem site?_touch (path : Bytes) (truncate : Bool) (view : FileView Site) :
    (view.touch path truncate).site? = view.site? := by
  unfold touch
  split <;> rfl

@[simp] theorem mask_touch (path : Bytes) (truncate : Bool) (view : FileView Site) :
    (view.touch path truncate).mask = view.mask := by
  unfold touch
  split <;> rfl

@[simp] theorem journal?_touch (path : Bytes) (truncate : Bool) (view : FileView Site) :
    (view.touch path truncate).journal? = view.journal? := by
  unfold touch
  split <;> rfl

theorem node?_touch (path : Bytes) (truncate : Bool) (view : FileView Site) (site : Site) :
    (view.touch path truncate).node? site =
      if view.site? path = some site then some (touched truncate view.mask (view.node? site))
      else view.node? site := by
  unfold touch
  split
  · rename_i nowhere
    simp [nowhere]
  · rename_i other leads
    simp only [leads, Option.some.injEq]
    by_cases same : other = site
    · rw [same, Function.update_self, if_pos rfl]
    · rw [Function.update_of_ne (Ne.symm same), if_neg same]

/-- Paths lead where they did, and what opening depends on stays. -/
theorem touchEach_stays (mode : OutputMode) (redirections : List Redirection)
    (view : FileView Site) :
    (view.touchEach mode redirections).site? = view.site? ∧
      (view.touchEach mode redirections).mask = view.mask ∧
      (view.touchEach mode redirections).journal? = view.journal? := by
  induction redirections generalizing view with
  | nil => exact ⟨rfl, rfl, rfl⟩
  | cons redirection rest inductionHypothesis =>
    obtain ⟨sites, mask, journal⟩ := inductionHypothesis
      (view.touch (Text.encode redirection.target) (truncates mode redirection.direction))
    exact ⟨sites.trans (site?_touch ..), mask.trans (mask_touch ..),
      journal.trans (journal?_touch ..)⟩

/-- A place is touched once by all redirections that lead to it, and emptied if one of them does. -/
theorem node?_touchEach (mode : OutputMode) (redirections : List Redirection)
    (view : FileView Site) (site : Site) :
    (view.touchEach mode redirections).node? site =
      if view.leading site redirections = [] then view.node? site
      else some (touched
        ((view.leading site redirections).any fun redirection =>
          truncates mode redirection.direction) view.mask (view.node? site)) := by
  induction redirections generalizing view with
  | nil => rfl
  | cons redirection rest inductionHypothesis =>
    have later := inductionHypothesis
      (view.touch (Text.encode redirection.target) (truncates mode redirection.direction))
    rw [leading, site?_touch, mask_touch, node?_touch] at later
    refine later.trans ?_
    rw [leading, List.filter_cons]
    by_cases leads : view.site? (Text.encode redirection.target) = some site
    · simp only [leads, if_true, decide_true, reduceCtorEq, if_false, List.any_cons]
      split
      · rename_i none
        rw [none, List.any_nil, Bool.or_false]
      · rw [touched_touched]
    · simp only [leads, if_false, decide_false, Bool.false_eq_true]

end FileView

/-- A path that the system takes is the text of the path, encoded. -/
theorem bytes_of_systemPath {path : String} {bytes : Bytes} (isPath : systemPath path = .ok bytes) :
    bytes = Text.encode path := by
  unfold systemPath at isPath
  dsimp only at isPath
  split at isPath
  · cases isPath
  · split at isPath
    · cases isPath
    · split at isPath
      · cases isPath
      · exact (Except.ok.inj isPath).symm

/-! ### Systems that open files -/

/-- Two views are the same but for what is in the journal. -/
structure FileView.Agree (first second : FileView Site) : Prop where
  sites : first.site? = second.site?
  mask : first.mask = second.mask
  journal : first.journal? = second.journal?
  nodes : ∀ site, second.journal? ≠ some site → first.node? site = second.node? site

theorem FileView.Agree.refl (view : FileView Site) : Agree view view :=
  ⟨rfl, rfl, rfl, fun _ _ => rfl⟩

theorem FileView.Agree.trans {first second third : FileView Site} (left : Agree first second)
    (right : Agree second third) : Agree first third where
  sites := left.sites.trans right.sites
  mask := left.mask.trans right.mask
  journal := left.journal.trans right.journal
  nodes site elsewhere :=
    (left.nodes site (right.journal.symm ▸ elsewhere)).trans (right.nodes site elsewhere)

/-- How files are seen in the worlds of a system that opens them as systems do: for reading and
writing, creating what is missing, and emptying what is there if asked to. What cannot be opened is
left alone. This may depend on the world being sound, as it then stays. -/
structure Filing (system : System σ) (Site : Type) [DecidableEq Site] where
  view : σ → FileView Site
  Sound : σ → Prop
  opens : ∀ {path truncate serial world after}, Sound world →
    system.openFile path truncate serial world = (.ok (), after) →
    Sound after ∧ (∃ site, (view world).site? path = some site) ∧
      view after = (view world).touch path truncate
  refuses : ∀ {path truncate serial world errno after}, Sound world →
    system.openFile path truncate serial world = (.error errno, after) →
    Sound after ∧ view after = view world
  makePipe : ∀ serial world, Sound world → Sound (system.makePipe serial world).2 ∧
    view (system.makePipe serial world).2 = view world
  enter : ∀ entry world, Sound world → Sound (system.enter entry world) ∧
    (view (system.enter entry world)).Agree (view world)

namespace Filing

variable [DecidableEq Site] {system : System σ} (filing : Filing system Site)
include filing

theorem openFile_ok {path : String} {truncate : Bool} {shell after : Interpreter σ}
    {descriptor : Descriptor} (sound : filing.Sound shell.world)
    (opened : shell.openFile system path truncate = (.ok descriptor, after)) :
    filing.Sound after.world ∧ (∃ site, (filing.view shell.world).site? (Text.encode path) =
        some site) ∧
      filing.view after.world = (filing.view shell.world).touch (Text.encode path) truncate := by
  unfold Interpreter.openFile at opened
  split at opened
  · cases opened
  · rename_i bytes isPath
    obtain rfl := bytes_of_systemPath isPath
    split at opened
    · dsimp only at opened
      split at opened
      · cases opened
      · rename_i world made
        cases opened
        exact filing.opens sound made
    · cases opened

/-- A file that is not opened is left alone. If the system was asked for it, the history says so. -/
theorem openFile_error {path : String} {truncate : Bool} {shell after : Interpreter σ}
    {fault : Fault} (sound : filing.Sound shell.world)
    (refused : shell.openFile system path truncate = (.error fault, after)) :
    filing.Sound after.world ∧ filing.view after.world = filing.view shell.world ∧
      ∃ asked, asked <+: [(⟨path, truncate, shell.minted⟩ : Request)] ∧
        after.requests = shell.requests ++ asked := by
  have nothing : ∃ asked, asked <+: [(⟨path, truncate, shell.minted⟩ : Request)] ∧
      shell.requests = shell.requests ++ asked :=
    ⟨[], List.nil_prefix, (List.append_nil _).symm⟩
  unfold Interpreter.openFile at refused
  split at refused
  · cases refused
    exact ⟨sound, rfl, nothing⟩
  · split at refused
    · dsimp only at refused
      split at refused
      · rename_i errno world failed
        cases refused
        obtain ⟨soundAfter, same⟩ := filing.refuses sound failed
        exact ⟨soundAfter, same, _, List.prefix_rfl, Interpreter.recorded_record _ shell _⟩
      · cases refused
    · cases refused
      exact ⟨sound, rfl, nothing⟩

/-- What follows the openings of a build leaves the files alone, but for the journal. -/
theorem does_agree {deeds : List Deed} {before after : Interpreter σ}
    (does : Does system deeds before after) (closed : .openFile ∉ deeds)
    (stays : .changeDirectory ∉ deeds) (silent : .write ∉ deeds)
    (sound : filing.Sound before.world) :
    filing.Sound after.world ∧ (filing.view after.world).Agree (filing.view before.world) := by
  refine does.world_induction
    (motive := fun world =>
      filing.Sound world ∧ (filing.view world).Agree (filing.view before.world))
    ⟨sound, .refl _⟩ ?_
  rintro deed mem first next change ⟨firstSound, agrees⟩
  cases change with
  | none => exact ⟨firstSound, agrees⟩
  | enter entry =>
    obtain ⟨soundAfter, agreesAfter⟩ := filing.enter entry first firstSound
    exact ⟨soundAfter, agreesAfter.trans agrees⟩
  | makePipe serial =>
    obtain ⟨soundAfter, same⟩ := filing.makePipe serial first firstSound
    exact ⟨soundAfter, same.symm ▸ agrees⟩
  | write => exact absurd mem silent
  | openFile => exact absurd mem closed
  | changeDirectory => exact absurd mem stays

/-- Redirections that are opened one after the other touch the places to which they lead. -/
theorem openEach_ok {mode : OutputMode} {redirections : List Redirection} {ends reached : Ends}
    {shell after : Interpreter σ} (sound : filing.Sound shell.world)
    (opened : openEach system mode redirections ends shell = (.ok reached, after)) :
    filing.Sound after.world ∧
      (∀ redirection ∈ redirections, ∃ site,
        (filing.view shell.world).site? (Text.encode redirection.target) = some site) ∧
      filing.view after.world = (filing.view shell.world).touchEach mode redirections := by
  induction redirections generalizing ends shell with
  | nil =>
    cases opened
    exact ⟨sound, List.forall_mem_nil _, rfl⟩
  | cons redirection rest inductionHypothesis =>
    rw [openEach] at opened
    split at opened
    · cases opened
    · rename_i descriptor next found
      obtain ⟨soundNext, leads, touches⟩ := filing.openFile_ok sound found
      have sameWorld := world_closeAll next (ends redirection.direction).owned?.toList
      obtain ⟨soundAfter, leadLater, touchLater⟩ :=
        inductionHypothesis (sameWorld.symm ▸ soundNext) opened
      rw [sameWorld, touches] at leadLater touchLater
      rw [FileView.site?_touch] at leadLater
      exact ⟨soundAfter, List.forall_mem_cons.mpr ⟨leads, leadLater⟩, touchLater⟩

end Filing

end PipelineShell
