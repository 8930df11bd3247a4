/-
Where paths lead on the machine.

The machine opens files as systems do. Following a path goes from directory to directory and over
links, so nothing that happens to ordinary files makes a difference to where it leads: a file that
is created where a path led to nothing, emptied or written to leaves all paths as they were. What a
path leads to is then the only thing that opening it may change. The streams that the shell was
started with are files, too, which can be reached by the paths of its slots; no names lead to where
they are.
-/

import PipelineShell.Machine
import PipelineShell.Proofs.Filing

namespace PipelineShell

open FileTree

/-! ### Following names -/

/-- The place of the file that a slot of the shell refers to. -/
def slotLocation? (number : Nat) : Option Location :=
  match Table.standard.get? number with
  | some (.inherited stream) => some (Kernel.streamLocation stream)
  | _ => none

/-- The place where a path ends, if it leads anywhere. -/
def endOf : Except Errno FileTree.Place → Option Location
  | .ok (.absent parent name) => some (parent ++ [name])
  | .ok (.found _ (.slot number)) => slotLocation? number
  | .ok (.found location _) => some location
  | .error _ => none

/-- What following a name of its own does. -/
theorem follow_name (tree : FileTree) {creating slashed : Bool} {name : Name} {rest : List Name}
    (notSelf : name ≠ selfName) (notParent : name ≠ parentName)
    (allowed : ¬ (creating ∧ slashed ∧ rest = [])) (short : ¬ nameLimit < name.length)
    (links : Nat) (here : Location) :
    tree.follow creating links here slashed (name :: rest) =
      match tree.get? (here ++ [name]) with
      | none => if rest = [] ∧ ¬slashed then .ok (.absent here name) else .error .noEntry
      | some .directory => tree.follow creating links (here ++ [name]) slashed rest
      | some (.link target) =>
        match links with
        | 0 => .error .tooManyLinks
        | links + 1 =>
          tree.follow creating links (if (Path.ofBytes target).absolute then [] else here)
            (slashed || (rest = [] && (Path.ofBytes target).slashed))
            ((Path.ofBytes target).names ++ rest)
      | some node =>
        if rest = [] ∧ ¬slashed then .ok (.found (here ++ [name]) node)
        else .error .notDirectory := by
  rw [follow]
  exact (if_neg notSelf).trans ((if_neg notParent).trans ((if_neg allowed).trans (if_neg short)))

/-- A file can only be where names end. -/
theorem endOf_follow_file {tree : FileTree} {creating slashed : Bool} {name : Name}
    {rest : List Name} (notSelf : name ≠ selfName) (notParent : name ≠ parentName)
    (allowed : ¬ (creating ∧ slashed ∧ rest = [])) (short : ¬ nameLimit < name.length)
    {links : Nat} {here : Location} {contents : Bytes} {mode : Nat}
    (found : tree.get? (here ++ [name]) = some (.file contents mode)) :
    endOf (tree.follow creating links here slashed (name :: rest)) =
      if rest = [] ∧ ¬slashed then some (here ++ [name]) else none := by
  rw [follow_name tree notSelf notParent allowed short, found]
  exact apply_ite endOf _ _ _

/-- Whether a tree differs from another one in files only: what was missing may be a file now, files
are files, and everything else is as it was. -/
structure FileTree.KeepsPaths (tree changed : FileTree) : Prop where
  missing : ∀ location, tree.get? location = none →
    changed.get? location = none ∨
      ∃ contents mode, changed.get? location = some (.file contents mode)
  files : ∀ location old oldMode, tree.get? location = some (.file old oldMode) →
    ∃ contents mode, changed.get? location = some (.file contents mode)
  others : ∀ location node, tree.get? location = some node →
    (∀ contents mode, node ≠ .file contents mode) → changed.get? location = some node

/-- Files make no difference to where names lead. -/
theorem FileTree.KeepsPaths.endOf_follow {tree changed : FileTree} (keeps : tree.KeepsPaths changed)
    (creating : Bool) (links : Nat) (here : Location) (slashed : Bool) (names : List Name) :
    endOf (changed.follow creating links here slashed names) =
      endOf (tree.follow creating links here slashed names) := by
  fun_induction tree.follow creating links here slashed names with
  | case1 => rw [follow]
  | case2 links here slashed rest inductionHypothesis =>
    rw [follow, if_pos rfl]
    exact inductionHypothesis
  | case3 links here slashed rest notSelf inductionHypothesis =>
    rw [follow, if_neg notSelf, if_pos rfl]
    exact inductionHypothesis
  | case4 links here slashed name rest notSelf notParent refused =>
    rw [follow, if_neg notSelf, if_neg notParent, if_pos refused]
  | case5 links here slashed name rest notSelf notParent allowed long =>
    rw [follow, if_neg notSelf, if_neg notParent, if_neg allowed, if_pos long]
  | case6 links here slashed name rest notSelf notParent allowed short absent last =>
    rcases keeps.missing _ absent with still | ⟨contents, mode, now⟩
    · rw [follow_name _ notSelf notParent allowed short, still]
      exact congrArg endOf (if_pos last)
    · rw [endOf_follow_file notSelf notParent allowed short now, if_pos last]
      rfl
  | case7 links here slashed name rest notSelf notParent allowed short absent more =>
    rcases keeps.missing _ absent with still | ⟨contents, mode, now⟩
    · rw [follow_name _ notSelf notParent allowed short, still]
      exact congrArg endOf (if_neg more)
    · rw [endOf_follow_file notSelf notParent allowed short now, if_neg more]
      rfl
  | case8 links here slashed name rest notSelf notParent allowed short found inductionHypothesis =>
    rw [follow_name _ notSelf notParent allowed short, keeps.others _ _ found (by simp)]
    exact inductionHypothesis
  | case9 here slashed name rest notSelf notParent allowed short target found =>
    rw [follow_name _ notSelf notParent allowed short, keeps.others _ _ found (by simp)]
  | case10 here slashed name rest notSelf notParent allowed short target found links path
      inductionHypothesis =>
    rw [follow_name _ notSelf notParent allowed short, keeps.others _ _ found (by simp)]
    exact inductionHypothesis
  | case11 links here slashed name rest notSelf notParent allowed short node notDirectory notLink
      found last =>
    cases node with
    | directory => exact absurd rfl notDirectory
    | link target => exact absurd rfl (notLink target)
    | file old oldMode =>
      obtain ⟨contents, mode, now⟩ := keeps.files _ _ _ found
      rw [endOf_follow_file notSelf notParent allowed short now, if_pos last]
      rfl
    | device | program | slot =>
      rw [follow_name _ notSelf notParent allowed short, keeps.others _ _ found (by simp)]
      exact congrArg endOf (if_pos last)
  | case12 links here slashed name rest notSelf notParent allowed short node notDirectory notLink
      found more =>
    cases node with
    | directory => exact absurd rfl notDirectory
    | link target => exact absurd rfl (notLink target)
    | file old oldMode =>
      obtain ⟨contents, mode, now⟩ := keeps.files _ _ _ found
      rw [endOf_follow_file notSelf notParent allowed short now, if_neg more]
      rfl
    | device | program | slot =>
      rw [follow_name _ notSelf notParent allowed short, keeps.others _ _ found (by simp)]
      exact congrArg endOf (if_neg more)

/-- Whether a place is named by proper names, and holds what is said to be there. Names may go back
to a directory without looking whether it is one. -/
def FileTree.Place.IsProper (tree : FileTree) : FileTree.Place → Prop
  | .found location node => [] ∉ location ∧ (node = .directory ∨ tree.get? location = some node)
  | .absent parent name => [] ∉ parent ++ [name] ∧ tree.get? (parent ++ [name]) = none

theorem nil_notMem_names (bytes : Bytes) : [] ∉ (Path.ofBytes bytes).names := by
  simp [Path.ofBytes]

/-- Proper names lead to proper places. -/
theorem isProper_of_follow {tree : FileTree} {creating slashed : Bool} {links : Nat}
    {here : Location} {names : List Name} {place : FileTree.Place} (start : [] ∉ here)
    (proper : [] ∉ names)
    (leads : tree.follow creating links here slashed names = .ok place) :
    place.IsProper tree := by
  fun_induction tree.follow creating links here slashed names with
  | case1 =>
    cases leads
    exact ⟨start, .inl rfl⟩
  | case2 links here slashed rest inductionHypothesis =>
    exact inductionHypothesis start (mt (List.mem_cons_of_mem _) proper) leads
  | case3 links here slashed rest notSelf inductionHypothesis =>
    exact inductionHypothesis (fun mem => start (List.dropLast_subset _ mem))
      (mt (List.mem_cons_of_mem _) proper) leads
  | case4 | case5 | case7 | case9 | case12 => cases leads
  | case6 links here slashed name rest notSelf notParent allowed short absent last =>
    cases leads
    rw [List.mem_cons, not_or] at proper
    exact ⟨by simp [start, proper.1], absent⟩
  | case8 links here slashed name rest notSelf notParent allowed short found inductionHypothesis =>
    rw [List.mem_cons, not_or] at proper
    exact inductionHypothesis (by simp [start, proper.1]) proper.2 leads
  | case10 here slashed name rest notSelf notParent allowed short target found links path
      inductionHypothesis =>
    rw [List.mem_cons, not_or] at proper
    refine inductionHypothesis ?_ ?_ leads
    · split
      · exact List.not_mem_nil
      · exact start
    · rw [List.mem_append, not_or]
      exact ⟨nil_notMem_names target, proper.2⟩
  | case11 links here slashed name rest notSelf notParent allowed short node notDirectory notLink
      found last =>
    cases leads
    rw [List.mem_cons, not_or] at proper
    exact ⟨by simp [start, proper.1], .inr found⟩

/-- Paths lead from a proper directory to proper places. -/
theorem isProper_of_resolve {tree : FileTree} {creating : Bool} {here : Location} {path : Bytes}
    {place : FileTree.Place} (start : [] ∉ here)
    (leads : tree.resolve creating here path = .ok place) : place.IsProper tree := by
  unfold resolve at leads
  split at leads
  · cases leads
  · split at leads
    · cases leads
    · refine isProper_of_follow ?_ (nil_notMem_names path) leads
      split
      · exact List.not_mem_nil
      · exact start

/-! ### Changing files -/

section

variable {tree : FileTree} {location : Location}

/-- A file that is put where there was nothing or a file keeps all paths. -/
theorem keepsPaths_put (below : location ≠ [])
    (free : tree.get? location = none ∨
      ∃ old oldMode, tree.get? location = some (.file old oldMode)) (contents : Bytes)
    (mode : Nat) : tree.KeepsPaths (tree.put location (.file contents mode)) := by
  have there := get?_put_self tree below (.file contents mode)
  constructor
  · intro asked absent
    by_cases same : asked = location
    · exact .inr ⟨contents, mode, same ▸ there⟩
    · exact .inl ((get?_put_of_ne tree same _).trans absent)
  · intro asked old oldMode found
    by_cases same : asked = location
    · exact ⟨contents, mode, same ▸ there⟩
    · exact ⟨old, oldMode, (get?_put_of_ne tree same _).trans found⟩
  · intro asked node found other
    refine (get?_put_of_ne tree ?_ _).trans found
    rintro rfl
    rcases free with absent | ⟨old, oldMode, isFile⟩
    · rw [absent] at found
      cases found
    · rw [isFile] at found
      exact other old oldMode (Option.some.inj found).symm

theorem keepsPaths_refl (tree : FileTree) : tree.KeepsPaths tree :=
  ⟨fun _ absent => .inl absent, fun _ old oldMode found => ⟨old, oldMode, found⟩,
    fun _ _ found _ => found⟩

/-- No file is at the root. -/
theorem below_of_file {contents : Bytes} {mode : Nat}
    (found : tree.get? location = some (.file contents mode)) : location ≠ [] := by
  rintro rfl
  cases found

theorem keepsPaths_clear (tree : FileTree) (location : Location) :
    tree.KeepsPaths (tree.clear location) := by
  unfold clear
  split
  · rename_i contents mode found
    exact keepsPaths_put (below_of_file found) (.inr ⟨contents, mode, found⟩) _ _
  · exact keepsPaths_refl tree

theorem keepsPaths_writeAt (tree : FileTree) (location : Location) (offset : Nat)
    (bytes : Bytes) : tree.KeepsPaths (tree.writeAt location offset bytes) := by
  unfold writeAt
  split
  · rename_i contents mode found
    exact keepsPaths_put (below_of_file found) (.inr ⟨contents, mode, found⟩) _ _
  · exact keepsPaths_refl tree

theorem get?_clear (tree : FileTree) (location : Location) (mask : Nat) :
    (tree.clear location).get? =
      Function.update tree.get? location
        ((tree.get? location).map fun node => touched true mask (some node)) := by
  funext asked
  unfold clear
  by_cases same : asked = location
  · subst same
    rw [Function.update_self]
    split
    · rename_i contents mode found
      rw [get?_put_self tree (below_of_file found), found]
      rfl
    · rename_i other
      cases found : tree.get? asked with
      | none => rfl
      | some node =>
        cases node with
        | file contents mode => exact absurd found (other contents mode)
        | directory | link | device | program | slot => rfl
  · rw [Function.update_of_ne same]
    split
    · exact get?_put_of_ne tree same _
    · rfl

theorem get?_writeAt_of_ne (tree : FileTree) {asked : Location} (different : asked ≠ location)
    (offset : Nat) (bytes : Bytes) :
    (tree.writeAt location offset bytes).get? asked = tree.get? asked := by
  unfold writeAt
  split
  · exact get?_put_of_ne tree different _
  · rfl

end

theorem FileTree.KeepsPaths.endOf_resolve {tree changed : FileTree}
    (keeps : tree.KeepsPaths changed) (creating : Bool) (here : Location) (path : Bytes) :
    endOf (changed.resolve creating here path) = endOf (tree.resolve creating here path) := by
  unfold resolve
  split
  · rfl
  · split
    · rfl
    · exact keeps.endOf_follow _ _ _ _ _

namespace Kernel

/-! ### What is at a place -/

theorem streamAt?_eq_some_iff {location : Location} {stream : Stream} :
    streamAt? location = some stream ↔ streamLocation stream = location := by
  constructor
  · intro found
    simpa using List.find?_some found
  · rintro rfl
    cases stream <;> rfl

/-- No stream is at a place with a proper name. -/
theorem streamAt?_of_proper {location : Location} (proper : [] ∉ location) :
    streamAt? location = none := by
  rw [Option.eq_none_iff_forall_ne_some]
  intro stream found
  rw [streamAt?_eq_some_iff] at found
  exact proper (found ▸ List.mem_cons_self)

/-- Only what is at the place of a stream changes with it. -/
theorem node?_of_stream (kernel changed : Kernel) {stream : Stream}
    (tree : changed.tree = kernel.tree)
    (others : ∀ other, other ≠ stream →
      changed.streamContents other = kernel.streamContents other) :
    changed.node? = Function.update kernel.node? (streamLocation stream)
      (some (.file (changed.streamContents stream) streamMode)) := by
  funext location
  by_cases same : location = streamLocation stream
  · rw [same, Function.update_self, node?, streamAt?_eq_some_iff.mpr rfl]
  · rw [Function.update_of_ne same, node?, node?, tree]
    cases found : streamAt? location with
    | none => rfl
    | some other =>
      dsimp only
      rw [others other ?_]
      rintro rfl
      exact same (streamAt?_eq_some_iff.mp found).symm

/-- Only what is at the place of a file changes with it. -/
theorem node?_of_tree (kernel changed : Kernel) {location : Location}
    (apart : streamAt? location = none)
    (streams : changed.streamContents = kernel.streamContents)
    (others : ∀ asked, asked ≠ location → changed.tree.get? asked = kernel.tree.get? asked) :
    changed.node? = Function.update kernel.node? location (changed.tree.get? location) := by
  funext asked
  by_cases same : asked = location
  · rw [same, Function.update_self, node?, apart]
  · rw [Function.update_of_ne same, node?, node?, streams]
    cases streamAt? asked with
    | none => exact others asked same
    | some stream => rfl

theorem node?_clearFile (kernel : Kernel) (location : Location) :
    (kernel.clearFile location).node? = Function.update kernel.node? location
      ((kernel.node? location).map fun node => touched true kernel.mask (some node)) := by
  cases found : streamAt? location with
  | some stream =>
    obtain rfl := streamAt?_eq_some_iff.mp found
    have node : kernel.node? (streamLocation stream) =
        some (.file (kernel.streamContents stream) streamMode) := by rw [node?, found]
    rw [node, clearFile, found]
    cases stream <;>
      refine node?_of_stream kernel _ rfl fun other different => ?_ <;> cases other <;>
      first | rfl | exact absurd rfl different
  | none =>
    have node : kernel.node? location = kernel.tree.get? location := by rw [node?, found]
    have cleared := get?_clear kernel.tree location kernel.mask
    have others : ∀ asked, asked ≠ location →
        (kernel.tree.clear location).get? asked = kernel.tree.get? asked :=
      fun asked different => (congrFun cleared asked).trans (Function.update_of_ne different _ _)
    have nodes := node?_of_tree kernel { kernel with tree := kernel.tree.clear location } found
      rfl others
    rw [node, clearFile, found]
    refine nodes.trans (congrArg (Function.update kernel.node? location) ?_)
    exact (congrFun cleared location).trans (Function.update_self _ _ _)

/-- Writing into a file leaves what is at other places alone. -/
theorem node?_writeFile_of_ne (kernel : Kernel) {location asked : Location}
    (different : asked ≠ location) (offset : Nat) (bytes : Bytes) :
    (kernel.writeFile location offset bytes).node? asked = kernel.node? asked := by
  unfold writeFile
  cases found : streamAt? location with
  | some stream =>
    obtain rfl := streamAt?_eq_some_iff.mp found
    have elsewhere : ∀ changed : Kernel, changed.tree = kernel.tree →
        (∀ other, other ≠ stream →
          changed.streamContents other = kernel.streamContents other) →
        changed.node? asked = kernel.node? asked :=
      fun changed tree others => (congrFun (node?_of_stream kernel changed tree others) asked).trans
        (Function.update_of_ne different _ _)
    cases stream <;>
      refine elsewhere _ rfl fun other apart => ?_ <;> cases other <;>
      first | rfl | exact absurd rfl apart
  | none =>
    have nodes := node?_of_tree kernel
      { kernel with tree := kernel.tree.writeAt location offset bytes } found rfl
      fun other apart => get?_writeAt_of_ne kernel.tree apart offset bytes
    exact (congrFun nodes asked).trans (Function.update_of_ne different _ _)

/-! ### The view -/

/-- The place to which the journal goes. -/
def journalLocation? (kernel : Kernel) : Option Location :=
  match kernel.sink with
  | .nowhere => none
  | .errorStream => some (streamLocation .errors)
  | .file location => some location

/-- What is seen of the files of the machine. -/
def view (kernel : Kernel) : FileView Location where
  site? path := endOf (kernel.tree.resolve true kernel.directory path)
  node? := kernel.node?
  mask := kernel.mask
  journal? := kernel.journalLocation?

/-- What the places of paths depend on stays when a file is emptied. -/
theorem clearFile_keeps (kernel : Kernel) (location : Location) :
    kernel.tree.KeepsPaths (kernel.clearFile location).tree ∧
      (kernel.clearFile location).directory = kernel.directory ∧
      (kernel.clearFile location).mask = kernel.mask ∧
      (kernel.clearFile location).sink = kernel.sink := by
  unfold clearFile
  split
  · exact ⟨keepsPaths_refl _, rfl, rfl, rfl⟩
  · exact ⟨keepsPaths_refl _, rfl, rfl, rfl⟩
  · exact ⟨keepsPaths_refl _, rfl, rfl, rfl⟩
  · exact ⟨keepsPaths_clear _ _, rfl, rfl, rfl⟩

theorem writeFile_keeps (kernel : Kernel) (location : Location) (offset : Nat) (bytes : Bytes) :
    kernel.tree.KeepsPaths (kernel.writeFile location offset bytes).tree ∧
      (kernel.writeFile location offset bytes).directory = kernel.directory ∧
      (kernel.writeFile location offset bytes).mask = kernel.mask ∧
      (kernel.writeFile location offset bytes).sink = kernel.sink := by
  unfold writeFile
  split
  · exact ⟨keepsPaths_refl _, rfl, rfl, rfl⟩
  · exact ⟨keepsPaths_refl _, rfl, rfl, rfl⟩
  · exact ⟨keepsPaths_refl _, rfl, rfl, rfl⟩
  · exact ⟨keepsPaths_writeAt _ _ _ _, rfl, rfl, rfl⟩

/-- The view after a change that leaves all paths as they were. -/
theorem view_of_keeps (kernel changed : Kernel) (tree : kernel.tree.KeepsPaths changed.tree)
    (directory : changed.directory = kernel.directory) (mask : changed.mask = kernel.mask)
    (sink : changed.sink = kernel.sink) :
    changed.view = { kernel.view with node? := changed.node? } := by
  ext1
  · funext path
    simp only [view, directory]
    exact tree.endOf_resolve true kernel.directory path
  · rfl
  · exact mask
  · simp only [view, journalLocation?, sink]

/-- What is at a place cannot be opened, and is left alone, or is opened and emptied if that was
asked for. -/
theorem openAt_cases (kernel : Kernel) (serial : Nat) (location : Location) (access : Access) :
    (∃ errno, kernel.openAt serial location access = (.error errno, kernel)) ∨
      ∃ node openings, kernel.node? location = some node ∧
        kernel.openAt serial location access = (.ok (.file serial),
          { (if access.truncates then kernel.clearFile location else kernel) with openings }) := by
  unfold openAt
  split
  · exact .inl ⟨_, rfl⟩
  · rename_i node found
    split
    · exact .inl ⟨_, rfl⟩
    · split
      · exact .inl ⟨_, rfl⟩
      · split
        · exact .inl ⟨_, rfl⟩
        · exact .inr ⟨node, _, found, rfl⟩

/-- Opening what is at a place touches it. -/
theorem openAt_ok {kernel after : Kernel} {serial : Nat} {location : Location} {access : Access}
    {handle : Handle} (opened : kernel.openAt serial location access = (.ok handle, after)) :
    after.directory = kernel.directory ∧
      after.view = { kernel.view with
        node? := Function.update kernel.node? location
          (some (touched access.truncates kernel.mask (kernel.node? location))) } := by
  rcases kernel.openAt_cases serial location access with
    ⟨errno, refused⟩ | ⟨node, openings, found, opens⟩
  · rw [refused] at opened
    cases opened
  · rw [opens] at opened
    cases opened
    rw [found]
    by_cases truncating : access.truncates
    · obtain ⟨tree, directory, mask, sink⟩ := clearFile_keeps kernel location
      simp only [truncating, if_true]
      refine ⟨directory, (view_of_keeps kernel _ tree directory mask sink).trans ?_⟩
      have cleared := node?_clearFile kernel location
      rw [found] at cleared
      exact congrArg (fun nodes => { kernel.view with node? := nodes }) cleared
    · have same : some (touched false kernel.mask (some node)) = kernel.node? location := by
        rw [found]
        cases node <;> rfl
      rw [Bool.not_eq_true] at truncating
      simp only [truncating, Bool.false_eq_true, if_false]
      rw [same, Function.update_eq_self]
      exact ⟨trivial, rfl⟩

/-- What cannot be opened at a place is left alone. -/
theorem openAt_error {kernel after : Kernel} {serial : Nat} {location : Location} {access : Access}
    {errno : Errno} (refused : kernel.openAt serial location access = (.error errno, after)) :
    after = kernel := by
  rcases kernel.openAt_cases serial location access with ⟨_, same⟩ | ⟨_, _, _, opens⟩
  · rw [same] at refused
    cases refused
    rfl
  · rw [opens] at refused
    cases refused

/-- The slots of the shell refer to its streams. -/
theorem get?_standard {number : Descriptor} {handle : Handle}
    (found : Table.standard.get? number = some handle) :
    ∃ stream : Stream, number = stream.slot ∧ handle = .inherited stream := by
  have mem := Association.mem_of_get? found
  rw [Table.standard, List.mem_map] at mem
  obtain ⟨stream, _, same⟩ := mem
  cases same
  exact ⟨stream, rfl, rfl⟩

theorem slot_of_slotLocation? {number : Descriptor} {stream : Stream}
    (leads : slotLocation? number = some (streamLocation stream)) : number = stream.slot := by
  unfold slotLocation? at leads
  split at leads
  · rename_i found
    obtain ⟨other, rfl, same⟩ := get?_standard found
    cases same
    have streams := streamAt?_eq_some_iff.mpr (Option.some.inj leads)
    rw [streamAt?_eq_some_iff.mpr rfl] at streams
    cases streams
    rfl
  · cases leads

/-- A slot of the shell is opened at the place of its stream. -/
theorem reopen_standard (kernel : Kernel) (serial number : Nat) (access : Access) :
    kernel.reopen serial .standard number access =
      match slotLocation? number with
      | some location => kernel.openAt serial location access
      | none => (.error .noEntry, kernel) := by
  unfold reopen slotLocation?
  cases found : Table.standard.get? number with
  | none => rfl
  | some handle =>
    obtain ⟨stream, _, rfl⟩ := get?_standard found
    rfl

/-- How a file is opened for a redirection. -/
def redirecting (kernel : Kernel) (truncate : Bool) : Access :=
  ⟨true, true, false, truncate, some (masked 0o700 kernel.mask)⟩

/-- Touching a path touches the place to which it leads. -/
theorem touch_eq {kernel : Kernel} {path : Bytes} {location : Location}
    (leads : kernel.view.site? path = some location) (truncate : Bool) :
    kernel.view.touch path truncate =
      { kernel.view with
        node? := Function.update kernel.node? location
          (some (touched truncate kernel.mask (kernel.node? location))) } := by
  rw [FileView.touch, leads]
  rfl

/-- The view after a file was put where there was nothing. -/
theorem view_put (kernel : Kernel) {location : Location} (proper : [] ∉ location)
    (below : location ≠ []) (missing : kernel.tree.get? location = none) (mode : Nat) :
    ({ kernel with tree := kernel.tree.put location (.file [] mode) } : Kernel).view =
      { kernel.view with
        node? := Function.update kernel.node? location (some (.file [] mode)) } := by
  have nodes := node?_of_tree kernel
    { kernel with tree := kernel.tree.put location (.file [] mode) } (streamAt?_of_proper proper)
    rfl fun asked different => get?_put_of_ne kernel.tree different _
  rw [get?_put_self kernel.tree below] at nodes
  refine (view_of_keeps kernel { kernel with tree := kernel.tree.put location (.file [] mode) }
    (keepsPaths_put below (.inl missing) [] mode) rfl rfl rfl).trans ?_
  exact congrArg (fun nodes => { kernel.view with node? := nodes }) nodes

/-- A path that is opened for a redirection is touched. -/
theorem openPath_ok {kernel after : Kernel} {serial : Nat} {path : Bytes} {truncate : Bool}
    {handle : Handle} (proper : [] ∉ kernel.directory)
    (opened : kernel.openPath serial .standard kernel.directory path (kernel.redirecting truncate) =
      (.ok handle, after)) :
    [] ∉ after.directory ∧ (∃ site, kernel.view.site? path = some site) ∧
      after.view = kernel.view.touch path truncate := by
  have ends : kernel.view.site? path =
      endOf (kernel.tree.resolve true kernel.directory path) := rfl
  have atPlace : ∀ {location}, kernel.view.site? path = some location →
      kernel.openAt serial location (kernel.redirecting truncate) = (.ok handle, after) →
      [] ∉ after.directory ∧ (∃ site, kernel.view.site? path = some site) ∧
        after.view = kernel.view.touch path truncate := by
    intro location leads openedAt
    obtain ⟨directory, touches⟩ := openAt_ok openedAt
    exact ⟨directory.symm ▸ proper, ⟨location, leads⟩, touches.trans (touch_eq leads truncate).symm⟩
  unfold openPath at opened
  rw [show (kernel.redirecting truncate).creates.isSome = true from rfl] at opened
  cases resolved : kernel.tree.resolve true kernel.directory path with
  | error errno =>
    rw [resolved] at opened
    cases opened
  | ok place =>
    rw [resolved] at opened ends
    have isProper := isProper_of_resolve proper resolved
    cases place with
    | absent parent name =>
      cases opened
      obtain ⟨properPlace, missing⟩ := isProper
      have absent : kernel.node? (parent ++ [name]) = none := by
        rw [node?, streamAt?_of_proper properPlace, missing]
      refine ⟨proper, ⟨_, ends⟩, ?_⟩
      rw [touch_eq ends, absent]
      exact view_put kernel properPlace (by simp) missing _
    | found location node =>
      cases node with
      | slot number =>
        dsimp only at opened
        rw [reopen_standard] at opened
        cases slot : slotLocation? number with
        | none =>
          rw [slot] at opened
          cases opened
        | some place =>
          rw [slot] at opened
          exact atPlace (ends.trans slot) opened
      | directory | file | link | device | program => exact atPlace ends opened

/-- What cannot be opened is left alone. -/
theorem openPath_error {kernel after : Kernel} {serial : Nat} {path : Bytes} {truncate : Bool}
    {errno : Errno}
    (refused : kernel.openPath serial .standard kernel.directory path
      (kernel.redirecting truncate) = (.error errno, after)) : after = kernel := by
  unfold openPath at refused
  split at refused
  · cases refused
    rfl
  · cases refused
    rfl
  · cases refused
  · rw [reopen_standard] at refused
    split at refused
    · exact openAt_error refused
    · cases refused
      rfl
  · exact openAt_error refused

/-- The journal is kept in one place, and writing it leaves all others alone. -/
theorem enter_agree (kernel : Kernel) (entry : Entry) :
    (kernel.enter entry).directory = kernel.directory ∧
      (kernel.enter entry).view.Agree kernel.view := by
  have agrees : ∀ changed : Kernel, kernel.tree.KeepsPaths changed.tree →
      changed.directory = kernel.directory → changed.mask = kernel.mask →
      changed.sink = kernel.sink →
      (∀ location, kernel.journalLocation? ≠ some location →
        changed.node? location = kernel.node? location) →
      changed.directory = kernel.directory ∧ changed.view.Agree kernel.view := by
    intro changed tree directory mask sink nodes
    refine ⟨directory, ?_⟩
    rw [view_of_keeps kernel changed tree directory mask sink]
    exact ⟨rfl, rfl, rfl, nodes⟩
  unfold enter
  split
  · dsimp only
    split
    · exact ⟨rfl, .refl _⟩
    · rename_i sink
      refine agrees _ (keepsPaths_refl _) rfl rfl rfl fun asked elsewhere => ?_
      have different : asked ≠ streamLocation .errors := by
        rintro rfl
        simp [journalLocation?, sink] at elsewhere
      have nodes := node?_of_stream kernel
        (kernel.deliver (.inherited .errors) (Text.encode (entryLine entry))) rfl
        fun other (apart : other ≠ .errors) => by
          cases other <;> first | rfl | exact absurd rfl apart
      exact (congrFun nodes asked).trans (Function.update_of_ne different _ _)
    · rename_i location sink
      obtain ⟨tree, directory, mask, same⟩ := writeFile_keeps kernel location
        (kernel.sizeAt location) (Text.encode (entryLine entry))
      refine agrees _ tree directory mask same fun asked elsewhere => ?_
      refine node?_writeFile_of_ne kernel ?_ _ _
      rintro rfl
      simp [journalLocation?, sink] at elsewhere
  · exact ⟨rfl, .refl _⟩

theorem directory_openAt (kernel : Kernel) (serial : Nat) (location : Location) (access : Access) :
    (kernel.openAt serial location access).2.directory = kernel.directory := by
  rcases opened : kernel.openAt serial location access with ⟨errno | handle, after⟩
  · rw [openAt_error opened]
  · exact (openAt_ok opened).1

theorem directory_openPath (kernel : Kernel) (serial : Nat) (path : Bytes) (truncate : Bool) :
    (kernel.openPath serial .standard kernel.directory path
      (kernel.redirecting truncate)).2.directory = kernel.directory := by
  unfold openPath
  split
  · rfl
  · rfl
  · rfl
  · rw [reopen_standard]
    split
    · exact directory_openAt kernel serial _ _
    · rfl
  · exact directory_openAt kernel serial _ _

end Kernel

theorem Machine.openFile_eq (path : Bytes) (truncate : Bool) (serial : Nat) (machine : Machine) :
    Machine.system.openFile path truncate serial machine =
      (((machine.openPath serial .standard machine.directory path
          (machine.redirecting truncate)).1.map fun _ => ()),
        { machine with toKernel := (machine.openPath serial .standard machine.directory path
          (machine.redirecting truncate)).2 }) := rfl

/-- The machine opens files as systems do, while the shell is in a directory with a proper name. -/
def Machine.filing : Filing Machine.system Location where
  view machine := machine.toKernel.view
  Sound machine := [] ∉ machine.directory
  opens := by
    intro path truncate serial machine after proper opened
    rw [Machine.openFile_eq] at opened
    rcases ran : machine.openPath serial .standard machine.directory path
      (machine.redirecting truncate) with ⟨errno | handle, kernel⟩
    · rw [ran] at opened
      cases opened
    · rw [ran] at opened
      cases opened
      exact Kernel.openPath_ok proper ran
  refuses := by
    intro path truncate serial machine errno after proper refused
    rw [Machine.openFile_eq] at refused
    rcases ran : machine.openPath serial .standard machine.directory path
      (machine.redirecting truncate) with ⟨error | handle, kernel⟩
    · rw [ran] at refused
      cases refused
      rw [Kernel.openPath_error ran]
      exact ⟨proper, rfl⟩
    · rw [ran] at refused
      cases refused
  makePipe serial machine proper := ⟨proper, rfl⟩
  enter entry machine proper := by
    obtain ⟨directory, agrees⟩ := machine.toKernel.enter_agree entry
    exact ⟨directory.symm ▸ proper, agrees⟩

/-- A machine with one file, in the directory of the shell, and nothing else. -/
def Machine.holding (name : String) (contents : Bytes) : Machine where
  tree := ⟨[([Text.encode name], .file contents 0o644)]⟩
  directory := []
  mask := 0o022
  openings := []
  pipes := []
  nextSerial := Kernel.firstSerial
  input := []
  inputOffset := 0
  outputTape := .empty
  errorsTape := .empty
  nextPid := 100
  processes := []
  mail := []
  endings := []
  forgetful := false
  threshold := .off
  sink := .nowhere
  queue := []

end PipelineShell
