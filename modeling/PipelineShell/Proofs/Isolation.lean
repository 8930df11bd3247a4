/-
What the children of a pipeline hold.

A pipe is only useful if nobody but its two stages holds an end of it: a reader that holds the
writing end of its own pipe waits for ever. The children start with copies of everything that the
shell has open at that time, so what each of them closes has to match what is still open. This file
proves that it does, for any number of stages: a child executes its program with its own two ends in
the first two slots and, besides them, with nothing but what was open before the pipeline was built.

The argument rests on one equation. What is open when the child of a stage starts is what was open
before the build and what this and the later stages own, and the child closes exactly the latter.
-/

import PipelineShell.Proofs.Launching
import PipelineShell.Proofs.Wiring

namespace PipelineShell

open Construction Grammar Interpreter Supervision

variable {σ : Type}

/-! ### Tables without some descriptors -/

theorem slots_closeIn (table : Table) (closed : List Descriptor) :
    (closeIn table closed).slots = table.slots.filter fun slot => slot.1 ∉ closed := by
  induction closed generalizing table with
  | nil => simp [closeIn]
  | cons first rest inductionHypothesis =>
    show (closeIn (table.erase first) rest).slots = _
    rw [inductionHypothesis]
    show List.filter _ (table.slots.filter _) = _
    rw [List.filter_filter]
    refine List.filter_congr fun slot _ => ?_
    rw [Bool.eq_iff_iff]
    simp [and_comm]

theorem mem_descriptors_closeIn {table : Table} {closed : List Descriptor}
    {descriptor : Descriptor} :
    descriptor ∈ (closeIn table closed).descriptors ↔
      descriptor ∈ table.descriptors ∧ descriptor ∉ closed := by
  unfold Table.descriptors Association.keys
  rw [slots_closeIn]
  constructor
  · intro mem
    obtain ⟨slot, kept, rfl⟩ := List.mem_map.mp mem
    obtain ⟨there, unclosed⟩ := List.mem_filter.mp kept
    exact ⟨List.mem_map_of_mem there, of_decide_eq_true unclosed⟩
  · rintro ⟨mem, kept⟩
    obtain ⟨slot, there, rfl⟩ := List.mem_map.mp mem
    exact List.mem_map_of_mem (List.mem_filter.mpr ⟨there, decide_eq_true kept⟩)

/-! ### Filling the first two slots -/

/-- A slot that is filled with what an endpoint leads to. -/
theorem duplicate_leads {table : Table} {endpoint : Endpoint} {handle? : Option Handle}
    (leads : endpoint.LeadsTo table handle?) (slot : Descriptor)
    (elsewhere : endpoint ≠ .owned slot) :
    ∃ filled, duplicate table endpoint slot = .ok filled ∧
      filled.get? slot = handle?.or (table.get? slot) ∧
      (∀ other, other ≠ slot → filled.get? other = table.get? other) ∧
      ∀ pair ∈ filled.slots, pair.1 = slot ∧ handle? = some pair.2 ∨ pair ∈ table.slots := by
  cases handle? with
  | none =>
    obtain rfl : endpoint = .inherit := leads
    exact ⟨table, rfl, rfl, fun _ _ => rfl, fun _ mem => .inr mem⟩
  | some handle =>
    obtain ⟨descriptor, rfl, found⟩ := leads
    have different : descriptor ≠ slot := fun same => elsewhere (congrArg Endpoint.owned same)
    refine ⟨table.put slot handle, ?_, Association.get?_put_self _ _ _,
      fun other apart => Association.get?_put_of_ne apart _ _, fun pair mem => ?_⟩
    · simp only [duplicate, different, if_false, found]
    · rcases Association.eq_or_mem_of_mem_put mem with rfl | old
      · exact .inl ⟨rfl, rfl⟩
      · exact .inr old

/-- The first two slots of a child are filled with what its stage leads to, and the other ones stay.
No slot is overwritten before it is read, because the descriptors of a stage are above both. -/
theorem wire_leads {table : Table} {stage : Stage} {input output : Option Handle}
    (inputLeads : stage.input.LeadsTo table input)
    (outputLeads : stage.output.LeadsTo table output)
    (high : ∀ descriptor ∈ stage.owned, Stream.errors.slot < descriptor) :
    ∃ wired, wire table stage = .ok wired ∧
      wired.get? Stream.input.slot = input.or (table.get? Stream.input.slot) ∧
      wired.get? Stream.output.slot = output.or (table.get? Stream.output.slot) ∧
      ∀ pair ∈ wired.slots, pair.1 = Stream.input.slot ∧ input = some pair.2 ∨
        pair.1 = Stream.output.slot ∧ output = some pair.2 ∨ pair ∈ table.slots := by
  have inputHigh : ∀ descriptor, stage.input = .owned descriptor →
      Stream.errors.slot < descriptor :=
    fun descriptor owned => high descriptor (stage.mem_owned .input owned)
  have outputHigh : ∀ descriptor, stage.output = .owned descriptor →
      Stream.errors.slot < descriptor :=
    fun descriptor owned => high descriptor (stage.mem_owned .output owned)
  obtain ⟨filled, fills, first, others, pairs⟩ := duplicate_leads inputLeads
    Stream.input.slot fun owned => absurd (inputHigh _ owned) (by decide)
  have outputStays : stage.output.LeadsTo filled output := by
    refine outputLeads.of_get? fun descriptor _ owned => others descriptor ?_
    rintro rfl
    exact absurd (outputHigh _ owned) (by decide)
  obtain ⟨wired, wires, second, othersToo, pairsToo⟩ := duplicate_leads outputStays
    Stream.output.slot fun owned => absurd (outputHigh _ owned) (by decide)
  refine ⟨wired, ?_, ?_, ?_, fun pair mem => ?_⟩
  · show (duplicate table stage.input _ >>= fun filled => duplicate filled stage.output _) = _
    rw [fills]
    exact wires
  · rw [othersToo _ (by decide), first]
  · rw [second, others _ (by decide)]
  · rcases pairsToo pair mem with isOutput | old
    · exact .inr (.inl isOutput)
    · exact (pairs pair old).imp_right .inr

/-! ### One child -/

/-- What the stages before an index own. -/
def Pipeline.ownedBefore (pipeline : Pipeline) (index : Nat) : List Descriptor :=
  (pipeline.stages.take index).flatMap Stage.owned

/-- What the stages from an index on own. -/
def Pipeline.ownedFrom (pipeline : Pipeline) (index : Nat) : List Descriptor :=
  (pipeline.stages.drop index).flatMap Stage.owned

theorem Pipeline.owned_eq (pipeline : Pipeline) (index : Nat) :
    pipeline.owned = pipeline.ownedBefore index ++ pipeline.ownedFrom index := by
  rw [ownedBefore, ownedFrom, ← List.flatMap_append, List.take_append_drop, Pipeline.owned]

theorem Pipeline.mem_owned_of_before {pipeline : Pipeline} {index : Nat} {descriptor : Descriptor}
    (mem : descriptor ∈ pipeline.ownedBefore index) : descriptor ∈ pipeline.owned :=
  pipeline.owned_eq index ▸ List.mem_append_left _ mem

theorem Pipeline.mem_owned_of_from {pipeline : Pipeline} {index : Nat} {descriptor : Descriptor}
    (mem : descriptor ∈ pipeline.ownedFrom index) : descriptor ∈ pipeline.owned :=
  pipeline.owned_eq index ▸ List.mem_append_right _ mem

theorem Pipeline.ownedFrom_eq {pipeline : Pipeline} {index : Nat} {stage : Stage}
    (found : pipeline.stages[index]? = some stage) :
    pipeline.ownedFrom index =
      stage.owned ++ (pipeline.stages.drop (index + 1)).flatMap Stage.owned := by
  obtain ⟨bound, rfl⟩ := List.getElem?_eq_some_iff.mp found
  rw [ownedFrom, List.drop_eq_getElem_cons bound, List.flatMap_cons]

/-- What a pipeline finds in the table that it is given: its own descriptors, above the standard
ones, lead where they should, and without them the table is the one from before. -/
structure Provided (base table : Table) (pipeline : Pipeline) (reads writes : Nat → Option Handle) :
    Prop where
  rest : closeIn table pipeline.owned = base
  distinct : pipeline.owned.Nodup
  isOpen : ∀ descriptor ∈ pipeline.owned, descriptor ∈ table.descriptors
  high : ∀ descriptor ∈ pipeline.owned, Stream.errors.slot < descriptor
  inputs : ∀ (index : Nat) (stage : Stage), pipeline.stages[index]? = some stage →
    stage.input.LeadsTo table (reads index)
  outputs : ∀ (index : Nat) (stage : Stage), pipeline.stages[index]? = some stage →
    stage.output.LeadsTo table (writes index)

/-- What the child of the stage at an index is: it gets its own ends and nothing else of its
pipeline. -/
structure Isolated (base : Table) (pipeline : Pipeline) (reads writes : Option Handle)
    (index : Nat) (start : Start) : Prop where
  stage : pipeline.stages[index]? = some start.stage
  /-- Of the pipeline's descriptors, those of this and the later stages are still open. -/
  inherits : ∀ descriptor ∈ pipeline.owned, descriptor ∈ start.inherited.descriptors ↔
    descriptor ∈ pipeline.ownedFrom index
  /-- The child closes each of them, and none twice. -/
  closes : ∀ descriptor, descriptor ∈ start.closed ↔
    descriptor ∈ pipeline.owned ∧ descriptor ∈ start.inherited.descriptors
  once : start.closed.Nodup
  /-- Filling its slots does not fail, so it goes on to execute its program. -/
  ready : childTable start.inherited start.stage (pipeline.stages.drop (index + 1)) =
    (none, start.slots)
  input : start.slots.get? Stream.input.slot = reads.or (base.get? Stream.input.slot)
  output : start.slots.get? Stream.output.slot = writes.or (base.get? Stream.output.slot)
  /-- Everything else was open before the pipeline was built. -/
  others : ∀ pair ∈ start.slots.slots, pair.1 = Stream.input.slot ∧ reads = some pair.2 ∨
    pair.1 = Stream.output.slot ∧ writes = some pair.2 ∨ pair ∈ base.slots

namespace Provided

variable {base table : Table} {pipeline : Pipeline} {reads writes : Nat → Option Handle}

/-- What the child of a stage closes is what its stage and the later ones own: none of that is a
standard slot. -/
theorem closing_eq (provided : Provided base table pipeline reads writes) {index : Nat}
    {stage : Stage} (found : pipeline.stages[index]? = some stage) :
    closing stage (pipeline.stages.drop (index + 1)) = pipeline.ownedFrom index := by
  rw [closing, ← Pipeline.ownedFrom_eq found, List.filter_eq_self]
  exact fun descriptor mem =>
    decide_eq_true (provided.high descriptor (Pipeline.mem_owned_of_from mem))

/-- A standard slot is not touched when descriptors of the pipeline are closed. -/
theorem standard_notMem (provided : Provided base table pipeline reads writes) (stream : Stream)
    {closed : List Descriptor} (owned : ∀ descriptor ∈ closed, descriptor ∈ pipeline.owned) :
    stream.slot ∉ closed := by
  intro mem
  have above := provided.high _ (owned _ mem)
  cases stream <;> exact absurd above (by decide)

/-- No descriptor is owned twice, before an index and from it on. -/
theorem notMem_ownedBefore (provided : Provided base table pipeline reads writes) {index : Nat}
    {descriptor : Descriptor} (later : descriptor ∈ pipeline.ownedFrom index) :
    descriptor ∉ pipeline.ownedBefore index := by
  have distinct := provided.distinct
  rw [pipeline.owned_eq index, List.nodup_append] at distinct
  exact fun earlier => distinct.2.2 descriptor earlier descriptor later rfl

/-- When the stages before an index are done, what the others own is still open. -/
theorem mem_descriptors_iff (provided : Provided base table pipeline reads writes) (index : Nat)
    {descriptor : Descriptor} (owned : descriptor ∈ pipeline.owned) :
    descriptor ∈ (closeIn table (pipeline.ownedBefore index)).descriptors ↔
      descriptor ∈ pipeline.ownedFrom index := by
  rw [mem_descriptors_closeIn]
  constructor
  · rintro ⟨_, notEarlier⟩
    rw [pipeline.owned_eq index] at owned
    exact (List.mem_append.mp owned).resolve_left notEarlier
  · exact fun later => ⟨provided.isOpen _ owned, provided.notMem_ownedBefore later⟩

/-- What is left when the others are done, too, was there before. -/
theorem mem_base (provided : Provided base table pipeline reads writes) {index : Nat}
    {pair : Descriptor × Handle}
    (mem : pair ∈ (closeIn table (pipeline.ownedBefore index)).slots)
    (notLater : pair.1 ∉ pipeline.ownedFrom index) : pair ∈ base.slots := by
  rw [slots_closeIn] at mem
  obtain ⟨there, notEarlier⟩ := List.mem_filter.mp mem
  rw [← provided.rest, slots_closeIn, pipeline.owned_eq index]
  refine List.mem_filter.mpr ⟨there, decide_eq_true fun owned => ?_⟩
  rcases List.mem_append.mp owned with isEarlier | isLater
  · exact of_decide_eq_true notEarlier isEarlier
  · exact notLater isLater

/-- The child of any stage is isolated. -/
theorem isolated (provided : Provided base table pipeline reads writes) {starts : List Start}
    (launched : Launched table pipeline.stages starts) {index : Nat} {start : Start}
    (found : starts[index]? = some start) :
    Isolated base pipeline (reads index) (writes index) index start := by
  obtain ⟨stage, there, started⟩ := launched.eq_startOf found
  have own : ∀ descriptor ∈ stage.owned, descriptor ∈ pipeline.ownedFrom index := by
    intro descriptor mem
    rw [Pipeline.ownedFrom_eq there]
    exact List.mem_append_left _ mem
  -- The ends of the stage still lead where they should, so the slots can be filled.
  have inputLeads : stage.input.LeadsTo (closeIn table (pipeline.ownedBefore index))
      (reads index) :=
    (provided.inputs index stage there).eraseAll fun descriptor owned =>
      provided.notMem_ownedBefore (own _ (stage.mem_owned .input owned))
  have outputLeads : stage.output.LeadsTo (closeIn table (pipeline.ownedBefore index))
      (writes index) :=
    (provided.outputs index stage there).eraseAll fun descriptor owned =>
      provided.notMem_ownedBefore (own _ (stage.mem_owned .output owned))
  obtain ⟨wired, wires, first, second, pairs⟩ := wire_leads inputLeads outputLeads
    fun descriptor mem => provided.high descriptor (Pipeline.mem_owned_of_from (own _ mem))
  have child : childTable (closeIn table (pipeline.ownedBefore index)) stage
      (pipeline.stages.drop (index + 1)) = (none, closeIn wired (pipeline.ownedFrom index)) := by
    rw [childTable, wires, provided.closing_eq there]
  have standard (stream : Stream) :
      (closeIn table (pipeline.ownedBefore index)).get? stream.slot = base.get? stream.slot := by
    rw [← provided.rest]
    refine (Table.get?_eraseAll (provided.standard_notMem stream fun _ =>
      Pipeline.mem_owned_of_before) table).trans ?_
    exact (Table.get?_eraseAll (provided.standard_notMem stream fun _ mem => mem) table).symm
  have filled (stream : Stream) :
      (closeIn wired (pipeline.ownedFrom index)).get? stream.slot = wired.get? stream.slot :=
    Table.get?_eraseAll (provided.standard_notMem stream fun _ => Pipeline.mem_owned_of_from) wired
  have distinct := provided.distinct
  rw [pipeline.owned_eq index, List.nodup_append] at distinct
  rw [← Pipeline.ownedBefore, startOf, child, provided.closing_eq there] at started
  rw [started]
  refine ⟨there, fun descriptor => provided.mem_descriptors_iff index, fun descriptor => ?_,
    distinct.2.1, child, ?_, ?_, fun pair mem => ?_⟩
  · constructor
    · intro mem
      have owned := Pipeline.mem_owned_of_from mem
      exact ⟨owned, (provided.mem_descriptors_iff index owned).mpr mem⟩
    · exact fun both => (provided.mem_descriptors_iff index both.1).mp both.2
  · rw [filled, first, standard]
  · rw [filled, second, standard]
  · rw [slots_closeIn] at mem
    obtain ⟨held, notLater⟩ := List.mem_filter.mp mem
    exact (pairs pair held).imp_right (Or.imp_right fun old =>
      provided.mem_base old (of_decide_eq_true notLater))

end Provided

/-! ### All children of a line -/

/-- A build provides what its pipeline needs. Words that are missing altogether need nothing. -/
theorem build_provides {system : System σ} {mode : OutputMode} {words : List String}
    {shell after : Interpreter σ} {pipeline : Pipeline}
    (built : build system mode words shell = (.ok pipeline, after)) :
    Provided shell.table after.table pipeline (inputOf shell.minted words)
      (outputOf shell.minted words) := by
  have custody := build_custody system mode words (Custody.start shell)
  rw [built, ownedBy, List.nil_append] at custody
  have rest : closeIn after.table pipeline.owned = shell.table :=
    congrArg Table.mk ((slots_closeIn after.table pipeline.owned).trans custody.rest)
  by_cases empty : words = []
  · subst empty
    rw [build, if_pos rfl] at built
    cases built
    have only : ∀ (index : Nat) (stage : Stage), [Stage.named ""][index]? = some stage →
        index = 0 ∧ stage = .named "" := by
      intro index stage found
      cases index with
      | zero => exact ⟨rfl, (Option.some.inj found).symm⟩
      | succ index => cases found
    refine ⟨rest, custody.distinct, custody.isOpen, custody.high, ?_, ?_⟩
    · intro index stage found
      obtain ⟨rfl, rfl⟩ := only index stage found
      rfl
    · intro index stage found
      obtain ⟨rfl, rfl⟩ := only index stage found
      rfl
  · have leads := build_leads empty built
    exact ⟨rest, custody.distinct, custody.isOpen, custody.high,
      fun index stage found => (leads index stage found).1,
      fun index stage found => (leads index stage found).2⟩

/-- What the children of a line are, and what the shell still has when it begins to wait for them.
The serial numbers of the line's files and pipes are those from `shell.minted` on. -/
structure Topology (words : List String) (shell : Interpreter σ) (pipeline : Pipeline)
    (waiting : Interpreter σ) (starts : List Start) : Prop where
  isolated : ∀ (index : Nat) (start : Start), starts[index]? = some start →
    Isolated shell.table pipeline (inputOf shell.minted words index)
      (outputOf shell.minted words index) index start
  /-- When the shell waits, its table is the one from before the line. -/
  released : waiting.table = shell.table
  freed : ∀ descriptor ∈ pipeline.owned, descriptor ∉ waiting.table.descriptors
  /-- Nothing that was opened for the line is open in the shell. -/
  old : waiting.table.IsBelow shell.minted
  /-- The end of a pipe that is written to is held by the child before it only, in its second
  slot. -/
  writers : ∀ index < words.count Operator.pipe.text, ∀ (holder : Nat) (start : Start),
    starts[holder]? = some start → ∀ slot,
      (slot, Handle.writeEnd (shell.minted + (redirectionsOf words).length + index)) ∈
        start.slots.slots ↔ holder = index ∧ slot = Stream.output.slot
  /-- The end that is read from is held by the child after it only, in its first slot. -/
  readers : ∀ index < words.count Operator.pipe.text, ∀ (holder : Nat) (start : Start),
    starts[holder]? = some start → ∀ slot,
      (slot, Handle.readEnd (shell.minted + (redirectionsOf words).length + index)) ∈
        start.slots.slots ↔ holder = index + 1 ∧ slot = Stream.input.slot

/-- The last file of a direction is a file. -/
theorem lastFile_eq_file {direction : Direction} {first : Nat} {redirections : List Redirection}
    {handle : Handle} (found : lastFile direction first redirections = some handle) :
    ∃ serial, handle = .file serial := by
  obtain ⟨numbered, _, rfl⟩ := Option.map_eq_some_iff.mp found
  exact ⟨numbered.2, rfl⟩

theorem inputOf_eq_readEnd {first : Nat} {words : List String} {holder index : Nat} :
    inputOf first words holder =
        some (.readEnd (first + (redirectionsOf words).length + index)) ↔ holder = index + 1 := by
  constructor
  · intro found
    cases holder with
    | zero =>
      obtain ⟨serial, other⟩ := lastFile_eq_file found
      cases other
    | succ holder =>
      have same := Handle.readEnd.inj (Option.some.inj found)
      omega
  · rintro rfl
    rfl

theorem outputOf_eq_writeEnd {first : Nat} {words : List String} {holder index : Nat}
    (bound : index < words.count Operator.pipe.text) :
    outputOf first words holder =
        some (.writeEnd (first + (redirectionsOf words).length + index)) ↔ holder = index := by
  rw [outputOf]
  constructor
  · intro found
    split at found
    · obtain ⟨serial, other⟩ := lastFile_eq_file found
      cases other
    · have same := Handle.writeEnd.inj (Option.some.inj found)
      omega
  · rintro rfl
    rw [if_neg (Nat.ne_of_lt bound)]

theorem inputOf_ne_writeEnd (first : Nat) (words : List String) (holder serial : Nat) :
    inputOf first words holder ≠ some (.writeEnd serial) := by
  intro found
  cases holder with
  | zero =>
    obtain ⟨serial, other⟩ := lastFile_eq_file found
    cases other
  | succ holder => cases found

theorem outputOf_ne_readEnd (first : Nat) (words : List String) (holder serial : Nat) :
    outputOf first words holder ≠ some (.readEnd serial) := by
  intro found
  rw [outputOf] at found
  split at found
  · obtain ⟨serial, other⟩ := lastFile_eq_file found
    cases other
  · cases found

/-- Whoever holds something of the line holds it in one of the first two slots. -/
theorem Isolated.mem_iff {base : Table} {pipeline : Pipeline} {reads writes : Option Handle}
    {index : Nat} {start : Start} (isolated : Isolated base pipeline reads writes index start)
    {handle : Handle} (isNew : ∀ slot, (slot, handle) ∉ base.slots) (slot : Descriptor) :
    (slot, handle) ∈ start.slots.slots ↔
      slot = Stream.input.slot ∧ reads = some handle ∨
        slot = Stream.output.slot ∧ writes = some handle := by
  constructor
  · intro mem
    rcases isolated.others _ mem with isInput | isOutput | old
    · exact .inl isInput
    · exact .inr isOutput
    · exact absurd old (isNew slot)
  · rintro (⟨rfl, found⟩ | ⟨rfl, found⟩)
    · have held := isolated.input
      rw [found, Option.some_or] at held
      exact Association.mem_of_get? held
    · have held := isolated.output
      rw [found, Option.some_or] at held
      exact Association.mem_of_get? held

/-- Running what was built isolates every child, and leaves the shell with nothing of the line by
the time it waits. The run may begin in any interpreter that still has the table of the build. -/
theorem run_isolates (system : System σ) (mode : OutputMode) (store : Variables)
    {words : List String} {shell after handed : Interpreter σ} {pipeline : Pipeline}
    (built : build system mode words shell = (.ok pipeline, after))
    (kept : handed.table = after.table) :
    ∃ waiting starts children, Course system pipeline store handed waiting starts children ∧
      Topology words shell pipeline waiting starts := by
  have provided := build_provides built
  obtain ⟨waiting, starts, children, course⟩ := run_course system pipeline store handed
  have released : waiting.table = shell.table := by
    rw [course.table, kept, provided.rest]
  have launched := course.launched
  rw [kept] at launched
  have isolated := fun (index : Nat) (start : Start) (found : starts[index]? = some start) =>
    provided.isolated launched found
  have isNew (handle : Handle) (serial : Nat) (has : handle.serial? = some serial)
      (above : shell.minted ≤ serial) (slot : Descriptor) : (slot, handle) ∉ shell.table.slots := by
    intro old
    have below := shell.known handle (List.mem_map_of_mem old) serial has
    omega
  refine ⟨waiting, starts, children, course, isolated, released, ?_, released ▸ shell.known, ?_, ?_⟩
  · intro descriptor owned still
    rw [released, ← provided.rest, mem_descriptors_closeIn] at still
    exact still.2 owned
  · intro index bound holder start found slot
    rw [(isolated holder start found).mem_iff (isNew _ _ rfl (by omega)),
      outputOf_eq_writeEnd bound]
    constructor
    · rintro (⟨_, impossible⟩ | ⟨isSecond, isWriter⟩)
      · exact absurd impossible (inputOf_ne_writeEnd _ _ _ _)
      · exact ⟨isWriter, isSecond⟩
    · exact fun both => .inr ⟨both.2, both.1⟩
  · intro index bound holder start found slot
    rw [(isolated holder start found).mem_iff (isNew _ _ rfl (by omega)), inputOf_eq_readEnd]
    constructor
    · rintro (⟨isFirst, isReader⟩ | ⟨_, impossible⟩)
      · exact ⟨isReader, isFirst⟩
      · exact absurd impossible (outputOf_ne_readEnd _ _ _ _)
    · exact fun both => .inl ⟨both.2, both.1⟩

/-- The line with three stages starts three children. -/
theorem isolated_threeStages :
    ∃ after, build System.granting .truncate threeStages (Interpreter.start 100) =
        (.ok threeStagesBuilt, after) ∧ after.table = after.table ∧
      ∃ waiting starts children,
        Course System.granting threeStagesBuilt .empty after waiting starts children ∧
        Topology threeStages (Interpreter.start (100 : ProcessId)) threeStagesBuilt waiting
          starts ∧
        starts.length = 3 := by
  obtain ⟨waiting, starts, children, course, topology⟩ :=
    run_isolates System.granting .truncate .empty build_threeStages rfl
  refine ⟨_, build_threeStages, rfl, waiting, starts, children, course, topology, ?_⟩
  rcases course.complete with all | ⟨error, failed, _⟩
  · exact all
  · have succeeded : (run System.granting threeStagesBuilt .empty
        (build System.granting .truncate threeStages (Interpreter.start 100)).2).1 = .ok 0 := by
      decide +kernel
    rw [succeeded] at failed
    cases failed

end PipelineShell
