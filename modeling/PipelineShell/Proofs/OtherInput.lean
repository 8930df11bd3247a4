/-
Machines that are the same but for their input.

None of the questions that the shell asks the machine is about its input, except for reading it, as
long as no name leads there and the journal is kept elsewhere. So the machine answers alike whatever
its input is. Its programs may read it, so this does not extend to them.
-/

import PipelineShell.Proofs.Lockstep

namespace PipelineShell

/-! ### The same kernel with another input -/

namespace Kernel

/-- The same kernel with another input, of which some was read. -/
def withInput (kernel : Kernel) (input : Bytes) (offset : Nat) : Kernel :=
  { kernel with input, inputOffset := offset }

variable {kernel : Kernel} {location : Location} (input : Bytes) (offset : Nat)

theorem node?_withInput (different : location ≠ streamLocation .input) :
    (kernel.withInput input offset).node? location = kernel.node? location := by
  unfold node?
  cases found : streamAt? location with
  | none => rfl
  | some stream =>
    cases stream with
    | input => exact absurd (streamAt?_eq_some_iff.mp found).symm different
    | output | errors => rfl

theorem clearFile_withInput (different : location ≠ streamLocation .input) :
    (kernel.withInput input offset).clearFile location =
      (kernel.clearFile location).withInput input offset := by
  unfold clearFile
  cases found : streamAt? location with
  | none => rfl
  | some stream =>
    cases stream with
    | input => exact absurd (streamAt?_eq_some_iff.mp found).symm different
    | output | errors => rfl

theorem writeFile_withInput (different : location ≠ streamLocation .input) (start : Nat)
    (bytes : Bytes) :
    (kernel.withInput input offset).writeFile location start bytes =
      (kernel.writeFile location start bytes).withInput input offset := by
  unfold writeFile
  cases found : streamAt? location with
  | none => rfl
  | some stream =>
    cases stream with
    | input => exact absurd (streamAt?_eq_some_iff.mp found).symm different
    | output | errors => rfl

theorem openAt_withInput (different : location ≠ streamLocation .input) (serial : Nat)
    (access : Access) :
    (kernel.withInput input offset).openAt serial location access =
      ((kernel.openAt serial location access).1,
        (kernel.openAt serial location access).2.withInput input offset) := by
  unfold openAt
  rw [node?_withInput input offset different]
  cases kernel.node? location with
  | none => rfl
  | some node =>
    dsimp only
    split
    · rfl
    · split
      · rfl
      · split
        · rfl
        · split
          · rw [clearFile_withInput input offset different]
            rfl
          · rfl

theorem reopen_withInput (apart : kernel.InputApart) {number : Descriptor}
    (named : kernel.tree.get? location = some (.slot number)) (serial : Nat) (access : Access) :
    (kernel.withInput input offset).reopen serial .standard number access =
      ((kernel.reopen serial .standard number access).1,
        (kernel.reopen serial .standard number access).2.withInput input offset) := by
  rw [reopen_standard, reopen_standard]
  cases leads : slotLocation? number with
  | none => rfl
  | some place =>
    refine openAt_withInput input offset ?_ serial access
    rintro rfl
    exact apart.unnamed location (by rw [named, slot_of_slotLocation? leads])

theorem openPath_withInput (apart : kernel.InputApart) (serial : Nat) (path : Bytes)
    (truncate : Bool) :
    (kernel.withInput input offset).openPath serial .standard kernel.directory path
        (kernel.redirecting truncate) =
      ((kernel.openPath serial .standard kernel.directory path (kernel.redirecting truncate)).1,
        (kernel.openPath serial .standard kernel.directory path
          (kernel.redirecting truncate)).2.withInput input offset) := by
  have sameTree : (kernel.withInput input offset).tree = kernel.tree := rfl
  unfold openPath
  rw [sameTree]
  cases leads : kernel.tree.resolve (kernel.redirecting truncate).creates.isSome kernel.directory
    path with
  | error errno => rfl
  | ok place =>
    have isProper := isProper_of_resolve apart.proper leads
    cases place with
    | absent parent name => rfl
    | found location node =>
      have different := ne_streamLocation_of_proper isProper.1 .input
      cases node with
      | slot number =>
        obtain ⟨_, impossible | named⟩ := isProper
        · cases impossible
        · exact reopen_withInput input offset apart named serial _
      | directory | file | link | device | program =>
        exact openAt_withInput input offset different serial _

theorem changeDirectory_withInput (path : Bytes) :
    (kernel.withInput input offset).changeDirectory path =
      ((kernel.changeDirectory path).1,
        (kernel.changeDirectory path).2.withInput input offset) := by
  have sameTree : (kernel.withInput input offset).tree = kernel.tree := rfl
  have sameDirectory : (kernel.withInput input offset).directory = kernel.directory := rfl
  unfold changeDirectory
  rw [sameTree, sameDirectory]
  cases kernel.tree.directoryAt kernel.directory path <;> rfl

theorem deliver_withInput (stream : Stream) (bytes : Bytes) :
    (kernel.withInput input offset).deliver (.inherited stream) bytes =
      (kernel.deliver (.inherited stream) bytes).withInput input offset := by
  cases stream <;> rfl

theorem enter_withInput (apart : kernel.InputApart) (entry : Entry) :
    (kernel.withInput input offset).enter entry =
      (kernel.enter entry).withInput input offset := by
  have sameSink : (kernel.withInput input offset).sink = kernel.sink := rfl
  have sameThreshold : (kernel.withInput input offset).threshold = kernel.threshold := rfl
  unfold enter
  by_cases keeps : kernel.threshold.keeps entry.level = true
  · rw [sameThreshold, if_pos keeps, if_pos keeps, sameSink]
    cases sink : kernel.sink with
    | nowhere => rfl
    | errorStream => exact deliver_withInput input offset .errors _
    | file location =>
      have different : location ≠ streamLocation .input := by
        rintro rfl
        exact apart.journal sink
      have sameSize : (kernel.withInput input offset).sizeAt location = kernel.sizeAt location := by
        rw [sizeAt, node?_withInput input offset different, sizeAt]
      dsimp only
      rw [sameSize]
      exact writeFile_withInput input offset different _ _
  · rw [sameThreshold, if_neg keeps, if_neg keeps]

end Kernel

/-! ### The same machine with another input -/

namespace Machine

/-- Whether machines are the same but for their input, which stands apart. -/
def SameButInput (first second : Machine) : Prop :=
  first.InputApart ∧ ∃ input offset, second = first.update (·.withInput input offset)

/-- The machine answers alike whatever its input is, and reading some of it changes nothing else. -/
theorem ignoresInput : system.IgnoresInput SameButInput where
  openFile := by
    rintro path truncate serial first _ ⟨apart, input, offset, rfl⟩
    have opens := Kernel.openPath_withInput input offset apart serial path truncate
    rw [openFile_eq, openFile_eq]
    refine ⟨?_, (apart.openPath serial path truncate).1, input, offset, ?_⟩
    · exact congrArg (Except.map (fun _ => ()) ·.1) opens.symm
    · exact congrArg (fun result => Machine.mk result.2 first.queue) opens
  makePipe := fun serial first _ ⟨apart, input, offset, same⟩ =>
    ⟨rfl, apart.of_keeps (keepsPaths_refl _) rfl rfl, input, offset, same ▸ rfl⟩
  changeDirectory := by
    rintro path first _ ⟨apart, input, offset, rfl⟩
    have changes := first.changeDirectory_withInput input offset path
    refine ⟨?_, (apart.changeDirectory path).1, input, offset, ?_⟩
    · exact congrArg (·.1) changes.symm
    · exact congrArg (fun result => Machine.mk result.2 first.queue) changes
  write := by
    rintro stream text first _ ⟨apart, input, offset, rfl⟩
    refine ⟨(apart.deliver stream _).1, input, offset, ?_⟩
    exact congrArg (Machine.mk · first.queue) (first.deliver_withInput input offset stream _)
  enter := by
    rintro entry first _ ⟨apart, input, offset, rfl⟩
    refine ⟨(apart.enter entry).1, input, offset, ?_⟩
    exact congrArg (Machine.mk · first.queue) (Kernel.enter_withInput input offset apart entry)
  skipInput := by
    rintro count first _ ⟨apart, input, offset, rfl⟩
    exact ⟨⟨apart.of_keeps (keepsPaths_refl _) rfl rfl, input, offset, rfl⟩,
      apart, input, offset + count, rfl⟩

end Machine

end PipelineShell
