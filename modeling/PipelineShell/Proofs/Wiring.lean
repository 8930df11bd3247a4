/-
A build wires exactly the right ends.

What a build hands over is said here in terms of the words alone: how many stages there are, which
words each of them gets, which file is at either end of the line and which pipe is between two
neighbours. Files and pipes are told apart by their serial numbers, which are given out in order, so
the files get the first numbers from the interpreter's next one on, in the order of the
redirections, and the pipes get the ones after them, from left to right.

The proof follows the redirections and the pipes one by one. At each step the table grows by what
was just opened and loses at most what it replaces, so whatever an endpoint led to before, it leads
to afterwards.
-/

import PipelineShell.Proofs.Recognition
import PipelineShell.Proofs.Release
import PipelineShell.Proofs.Spelling

namespace PipelineShell

open Construction Grammar Interpreter

variable {σ : Type}

/-! ### What an endpoint leads to -/

/-- Whether an endpoint leads to this or, if there is nothing, to the shell's own stream. -/
def Endpoint.LeadsTo (table : Table) (endpoint : Endpoint) : Option Handle → Prop
  | none => endpoint = .inherit
  | some handle => ∃ descriptor, endpoint = .owned descriptor ∧ table.get? descriptor = some handle

theorem Table.mem_descriptors_of_get? {table : Table} {descriptor : Descriptor} {handle : Handle}
    (found : table.get? descriptor = some handle) : descriptor ∈ table.descriptors := by
  by_contra absent
  rw [Table.get?, Association.get?_eq_none_iff.mpr absent] at found
  cases found

theorem Table.exists_get? {table : Table} {descriptor : Descriptor}
    (mem : descriptor ∈ table.descriptors) : ∃ handle, table.get? descriptor = some handle := by
  rw [← Option.isSome_iff_exists, Option.isSome_iff_ne_none]
  exact fun none => Association.get?_eq_none_iff.mp none mem

/-- Erasing other descriptors does not matter to one. -/
theorem Table.get?_eraseAll {descriptor : Descriptor} {erased : List Descriptor}
    (kept : descriptor ∉ erased) (table : Table) :
    (erased.foldl Table.erase table).get? descriptor = table.get? descriptor := by
  induction erased generalizing table with
  | nil => rfl
  | cons first rest inductionHypothesis =>
    rw [List.mem_cons, not_or] at kept
    exact (inductionHypothesis kept.2 _).trans (Association.get?_erase_of_ne kept.1 _)

namespace Endpoint.LeadsTo

variable {table other : Table} {endpoint : Endpoint} {handle? : Option Handle}

/-- What an endpoint leads to stays when its descriptor does. -/
theorem of_get? (leads : endpoint.LeadsTo table handle?)
    (same : ∀ descriptor ∈ table.descriptors, endpoint = .owned descriptor →
      other.get? descriptor = table.get? descriptor) : endpoint.LeadsTo other handle? := by
  cases handle? with
  | none => exact leads
  | some handle =>
    obtain ⟨descriptor, owned, found⟩ := leads
    exact ⟨descriptor, owned,
      (same descriptor (Table.mem_descriptors_of_get? found) owned).trans found⟩

/-- What an endpoint leads to stays when other descriptors are erased. -/
theorem eraseAll (leads : endpoint.LeadsTo table handle?) {erased : List Descriptor}
    (kept : ∀ descriptor, endpoint = .owned descriptor → descriptor ∉ erased) :
    endpoint.LeadsTo (erased.foldl Table.erase table) handle? :=
  leads.of_get? fun descriptor _ owned => Table.get?_eraseAll (kept descriptor owned) table

theorem mem_descriptors (leads : endpoint.LeadsTo table handle?) {descriptor : Descriptor}
    (owned : endpoint = .owned descriptor) : descriptor ∈ table.descriptors := by
  subst owned
  cases handle? with
  | none => cases leads
  | some handle =>
    obtain ⟨_, ⟨rfl⟩, found⟩ := leads
    exact Table.mem_descriptors_of_get? found

theorem length_owned (leads : endpoint.LeadsTo table handle?) :
    endpoint.owned?.toList.length = handle?.toList.length := by
  cases handle? with
  | none =>
    obtain rfl : endpoint = .inherit := leads
    rfl
  | some handle =>
    obtain ⟨descriptor, rfl, _⟩ := leads
    rfl

end Endpoint.LeadsTo

theorem Stage.mem_owned (stage : Stage) (direction : Direction) {descriptor : Descriptor}
    (leads : stage.endpoint direction = .owned descriptor) : descriptor ∈ stage.owned := by
  obtain ⟨program, arguments, input, output⟩ := stage
  cases direction with
  | input =>
    obtain rfl : input = .owned descriptor := leads
    exact List.mem_append_left _ (List.mem_singleton_self _)
  | output =>
    obtain rfl : output = .owned descriptor := leads
    exact List.mem_append_right _ (List.mem_singleton_self _)

/-! ### What opening and making a pipe do -/

theorem openFile_ok {system : System σ} {path : String} {truncate : Bool}
    {shell after : Interpreter σ} {descriptor : Descriptor}
    (opened : shell.openFile system path truncate = (.ok descriptor, after)) :
    descriptor = shell.table.fresh ∧
      after.table = shell.table.put descriptor (.file shell.minted) ∧
      after.minted = shell.minted + 1 ∧
      after.requests = shell.requests ++ [⟨path, truncate, shell.minted⟩] := by
  unfold Interpreter.openFile at opened
  split at opened
  · cases opened
  · split at opened
    · dsimp only at opened
      split at opened
      · cases opened
      · cases opened
        exact ⟨rfl, rfl, rfl, (recorded_record_of_none rfl _).trans (recorded_record _ shell _)⟩
    · cases opened

theorem makePipe_ok {system : System σ} {shell after : Interpreter σ} {ends : PipeEnds}
    (made : shell.makePipe system = (.ok ends, after)) :
    ends.readEnd = shell.table.fresh ∧
      ends.writeEnd = (shell.table.put ends.readEnd (.readEnd shell.minted)).fresh ∧
      after.table = (shell.table.put ends.readEnd (.readEnd shell.minted)).put ends.writeEnd
        (.writeEnd shell.minted) ∧
      after.minted = shell.minted + 1 ∧ after.requests = shell.requests := by
  unfold Interpreter.makePipe at made
  split at made
  · split at made
    · cases made
    · cases made
      exact ⟨rfl, rfl, rfl, rfl, (recorded_record_of_none rfl _).trans (recorded_record_of_none rfl _)⟩
  · cases made

/-! ### The files of a line -/

/-- The file that the last redirection in a direction opens, when the first redirection gets this
serial number. -/
def lastFile (direction : Direction) (first : Nat) (redirections : List Redirection) :
    Option Handle :=
  ((redirections.zipIdx first).filter fun numbered => numbered.1.direction = direction).getLast?.map
    fun numbered => .file numbered.2

/-- What the system is asked for at redirections, when the first one gets this serial number. -/
def requestsOf (mode : OutputMode) (first : Nat) (redirections : List Redirection) :
    List Request :=
  (redirections.zipIdx first).map fun numbered =>
    ⟨numbered.1.target, truncates mode numbered.1.direction, numbered.2⟩

theorem lastFile_cons (direction : Direction) (first : Nat) (redirection : Redirection)
    (rest : List Redirection) (given : Direction → Option Handle) :
    (lastFile direction first (redirection :: rest)).or (given direction) =
      (lastFile direction (first + 1) rest).or
        (Function.update given redirection.direction (some (.file first)) direction) := by
  unfold lastFile
  rw [List.zipIdx_cons, List.filter_cons]
  split
  · rename_i same
    obtain rfl : redirection.direction = direction := of_decide_eq_true same
    rw [Function.update_self, List.getLast?_cons]
    cases ((rest.zipIdx (first + 1)).filter _).getLast? <;> rfl
  · rename_i different
    rw [Function.update_of_ne fun same => different (decide_eq_true same.symm)]

/-- There is a last file exactly if something is redirected. -/
theorem length_lastFile (direction : Direction) (first : Nat) (redirections : List Redirection) :
    (lastFile direction first redirections).toList.length =
      if ∃ redirection ∈ redirections, redirection.direction = direction then 1 else 0 := by
  rw [lastFile]
  split
  · rename_i present
    obtain ⟨redirection, mem, same⟩ := present
    obtain ⟨index, bound, found⟩ := List.getElem_of_mem mem
    have numbered : (redirection, first + index) ∈ redirections.zipIdx first :=
      List.mk_add_mem_zipIdx_iff_getElem?.mpr (List.getElem?_eq_some_iff.mpr ⟨bound, found⟩)
    have kept : (redirection, first + index) ∈ (redirections.zipIdx first).filter
        (fun numbered => numbered.1.direction = direction) :=
      List.mem_filter.mpr ⟨numbered, decide_eq_true same⟩
    rw [List.getLast?_eq_some_getLast (List.ne_nil_of_mem kept)]
    rfl
  · rename_i absent
    have none : (redirections.zipIdx first).filter
        (fun numbered => numbered.1.direction = direction) = [] := by
      rw [List.filter_eq_nil_iff]
      intro numbered mem same
      exact absent ⟨numbered.1, List.fst_mem_of_mem_zipIdx mem, of_decide_eq_true same⟩
    rw [none]
    rfl

theorem eq_owned_of_mem {endpoint : Endpoint} {descriptor : Descriptor}
    (mem : descriptor ∈ endpoint.owned?.toList) : endpoint = .owned descriptor := by
  cases endpoint with
  | inherit => cases mem
  | owned other => rw [List.mem_singleton.mp mem]

/-- The ends of a line lead to what is given, and not both through one descriptor. -/
structure Leading (ends : Ends) (table : Table) (given : Direction → Option Handle) : Prop where
  leads : ∀ direction, (ends direction).LeadsTo table (given direction)
  apart : ∀ first second descriptor, ends first = .owned descriptor →
    ends second = .owned descriptor → first = second

theorem Leading.inherited (table : Table) : Leading Ends.inherited table fun _ => none :=
  ⟨fun _ => rfl, fun _ _ _ owned => by cases owned⟩

/-- An end that is redirected leads to the file that was opened, and the other one stays. -/
theorem Leading.redirect {ends : Ends} {given : Direction → Option Handle} {system : System σ}
    {path : String} {truncate : Bool} {shell next : Interpreter σ} {descriptor : Descriptor}
    (leading : Leading ends shell.table given)
    (opened : shell.openFile system path truncate = (.ok descriptor, next))
    (redirected : Direction) :
    Leading (Function.update ends redirected (.owned descriptor))
      (next.closeAll (ends redirected).owned?.toList).table
      (Function.update given redirected (some (.file shell.minted))) := by
  obtain ⟨isFresh, table, minted, requests⟩ := openFile_ok opened
  have unused : ∀ direction, ends direction ≠ .owned descriptor := by
    intro direction owned
    have mem := (leading.leads direction).mem_descriptors owned
    exact shell.table.fresh_notMem (isFresh ▸ mem)
  constructor
  · intro direction
    rw [table_closeAll, table]
    by_cases same : direction = redirected
    · -- The file that was just opened is not the one that it replaces.
      rw [same, Function.update_self, Function.update_self]
      refine ⟨descriptor, rfl, ?_⟩
      rw [Table.get?_eraseAll fun mem => unused redirected (eq_owned_of_mem mem)]
      exact Association.get?_put_self _ _ _
    · rw [Function.update_of_ne same, Function.update_of_ne same]
      refine Endpoint.LeadsTo.eraseAll ?_ fun other owned replaced =>
        same (leading.apart _ _ _ owned (eq_owned_of_mem replaced))
      refine (leading.leads direction).of_get? fun other _ owned => ?_
      have different : other ≠ descriptor := by
        rintro rfl
        exact unused direction owned
      exact Association.get?_put_of_ne different _ _
  · intro first second other ownedFirst ownedSecond
    by_cases isFirst : first = redirected
    · by_cases isSecond : second = redirected
      · rw [isFirst, isSecond]
      · rw [isFirst, Function.update_self] at ownedFirst
        rw [Function.update_of_ne isSecond, ← ownedFirst] at ownedSecond
        exact absurd ownedSecond (unused second)
    · by_cases isSecond : second = redirected
      · rw [isSecond, Function.update_self] at ownedSecond
        rw [Function.update_of_ne isFirst, ← ownedSecond] at ownedFirst
        exact absurd ownedFirst (unused first)
      · rw [Function.update_of_ne isFirst] at ownedFirst
        rw [Function.update_of_ne isSecond] at ownedSecond
        exact leading.apart first second other ownedFirst ownedSecond

/-- Opening redirections makes the ends of a line lead to the last files. -/
theorem openEach_leading {system : System σ} {mode : OutputMode} {redirections : List Redirection}
    {ends reached : Ends} {shell after : Interpreter σ}
    (opened : openEach system mode redirections ends shell = (.ok reached, after))
    {given : Direction → Option Handle} (leading : Leading ends shell.table given) :
    Leading reached after.table
        (fun direction => (lastFile direction shell.minted redirections).or (given direction)) ∧
      after.minted = shell.minted + redirections.length ∧
      after.requests = shell.requests ++ requestsOf mode shell.minted redirections := by
  induction redirections generalizing ends shell given with
  | nil =>
    cases opened
    exact ⟨leading, rfl, (List.append_nil _).symm⟩
  | cons redirection rest inductionHypothesis =>
    rw [openEach] at opened
    split at opened
    · cases opened
    · rename_i descriptor next found
      obtain ⟨isFresh, table, minted, requests⟩ := openFile_ok found
      obtain ⟨leadingLast, mintedLast, requestsLast⟩ :=
        inductionHypothesis opened (leading.redirect found redirection.direction)
      rw [minted_closeAll, minted] at leadingLast mintedLast requestsLast
      have requestsClosed :
          (next.closeAll (ends redirection.direction).owned?.toList).requests = next.requests :=
        recorded_closeAll (fun _ => rfl) next _
      rw [requestsClosed, requests] at requestsLast
      refine ⟨?_, ?_, ?_⟩
      · simp only [lastFile_cons]
        exact leadingLast
      · rw [mintedLast, List.length_cons, Nat.add_assoc, Nat.add_comm 1]
      · rw [requestsLast, List.append_assoc]
        rfl

/-! ### The pipes of a line -/

/-- A pipe leaves what is there, and its descriptors lead to its two ends. -/
theorem makePipe_leading {system : System σ} {shell after : Interpreter σ} {ends : PipeEnds}
    (made : shell.makePipe system = (.ok ends, after)) :
    (∀ descriptor ∈ shell.table.descriptors,
      after.table.get? descriptor = shell.table.get? descriptor) ∧
    after.table.get? ends.readEnd = some (.readEnd shell.minted) ∧
    after.table.get? ends.writeEnd = some (.writeEnd shell.minted) := by
  obtain ⟨isFresh, isFreshToo, table, _, _⟩ := makePipe_ok made
  generalize grows : shell.table.put ends.readEnd (.readEnd shell.minted) = grown
    at isFreshToo table
  have reads : grown.get? ends.readEnd = some (.readEnd shell.minted) := by
    rw [← grows]
    exact Association.get?_put_self _ _ _
  -- Both numbers are above those in use when they are given out.
  have stays : ∀ descriptor ∈ grown.descriptors,
      after.table.get? descriptor = grown.get? descriptor := by
    intro descriptor mem
    have different : descriptor ≠ ends.writeEnd := by
      rintro rfl
      exact grown.fresh_notMem (isFreshToo ▸ mem)
    rw [table]
    exact Association.get?_put_of_ne different _ _
  refine ⟨fun descriptor mem => ?_, ?_, ?_⟩
  · have different : descriptor ≠ ends.readEnd := by
      rintro rfl
      exact shell.table.fresh_notMem (isFresh ▸ mem)
    have same : grown.get? descriptor = shell.table.get? descriptor := by
      rw [← grows]
      exact Association.get?_put_of_ne different _ _
    obtain ⟨handle, found⟩ := Table.exists_get? mem
    rw [stays descriptor (Table.mem_descriptors_of_get? (same.trans found)), same]
  · rw [stays ends.readEnd (Table.mem_descriptors_of_get? reads), reads]
  · rw [table]
    exact Association.get?_put_self _ _ _

/-- Pipes leave what is there, and the descriptors of each lead to its two ends. -/
theorem makePipes_leading {system : System σ} {count : Nat} {shell after : Interpreter σ}
    {pipes : List PipeEnds} (made : makePipes system count shell = (.ok pipes, after)) :
    (∀ descriptor ∈ shell.table.descriptors,
      after.table.get? descriptor = shell.table.get? descriptor) ∧
    (∀ index ends, pipes[index]? = some ends →
      after.table.get? ends.readEnd = some (.readEnd (shell.minted + index)) ∧
      after.table.get? ends.writeEnd = some (.writeEnd (shell.minted + index))) ∧
    after.requests = shell.requests := by
  induction count generalizing shell pipes with
  | zero =>
    cases made
    refine ⟨fun _ _ => rfl, fun index ends found => ?_, rfl⟩
    simp at found
  | succ count inductionHypothesis =>
    rw [makePipes] at made
    split at made
    · cases made
    · rename_i first next found
      split at made
      · cases made
      · rename_i rest last more
        cases made
        obtain ⟨_, _, _, minted, requests⟩ := makePipe_ok found
        obtain ⟨staysFirst, reads, writes⟩ := makePipe_leading found
        obtain ⟨stays, leads, requestsLast⟩ := inductionHypothesis more
        rw [minted] at leads
        refine ⟨fun descriptor mem => ?_, fun index ends there => ?_, requestsLast.trans requests⟩
        · obtain ⟨handle, there⟩ := Table.exists_get? mem
          have here := (staysFirst descriptor mem).trans there
          rw [stays descriptor (Table.mem_descriptors_of_get? here), staysFirst descriptor mem]
        · cases index with
          | zero =>
            obtain rfl : first = ends := Option.some.inj there
            rw [stays _ (Table.mem_descriptors_of_get? reads),
              stays _ (Table.mem_descriptors_of_get? writes)]
            exact ⟨reads, writes⟩
          | succ index =>
            rw [Nat.add_comm index 1, ← Nat.add_assoc]
            exact leads index ends there

/-! ### How many descriptors a line owns -/

/-- An endpoint that was not redirected gains a descriptor. -/
theorem length_owned_connect {stage : Stage} {direction : Direction}
    (free : stage.endpoint direction = .inherit) (descriptor : Descriptor) :
    (stage.connect direction (.owned descriptor)).owned.length = stage.owned.length + 1 := by
  obtain ⟨program, arguments, input, output⟩ := stage
  cases direction with
  | input =>
    obtain rfl : input = .inherit := free
    rfl
  | output =>
    obtain rfl : output = .inherit := free
    show (input.owned?.toList ++ [descriptor]).length = (input.owned?.toList ++ []).length + 1
    rw [List.length_append, List.append_nil]
    rfl

/-- Each pipe is owned by two stages. -/
theorem length_owned_joinedBy {stages : List Stage} {pipes : List PipeEnds}
    (enough : stages.length = pipes.length + 1) (meet : stages.IsChain Meet) :
    ((joinedBy stages pipes).flatMap Stage.owned).length =
      (stages.flatMap Stage.owned).length + 2 * pipes.length := by
  induction pipes generalizing stages with
  | nil =>
    obtain ⟨stage, rfl⟩ := List.length_eq_one_iff.mp enough
    rfl
  | cons ends pipes inductionHypothesis =>
    obtain _ | ⟨left, _ | ⟨right, rest⟩⟩ := stages
    · cases enough
    · cases enough
    · obtain ⟨⟨outputFree, inputFree⟩, meetLater⟩ := List.isChain_cons_cons.mp meet
      have enoughLater : (right.connect .input (.owned ends.readEnd) :: rest).length =
          pipes.length + 1 := Nat.succ.inj enough
      have later := inductionHypothesis enoughLater (isChain_connect_input meetLater _)
      have leftFree : left.endpoint .output = .inherit := outputFree
      have rightFree : right.endpoint .input = .inherit := inputFree
      rw [joinedBy, List.flatMap_cons, List.length_append, later, List.flatMap_cons,
        List.flatMap_cons, List.flatMap_cons, List.length_append, List.length_append,
        List.length_append, length_owned_connect leftFree, length_owned_connect rightFree,
        List.length_cons]
      omega

/-- Before they are joined, the stages of a line own its ends. -/
theorem length_owned_seated {last first : Nat} (ends : Ends) {commands : List Command}
    (nonempty : commands ≠ []) (whole : first + commands.length = last + 1) :
    ((seated last ends first commands).flatMap Stage.owned).length =
      (if first = 0 then (ends .input).owned?.toList.length else 0) +
        (ends .output).owned?.toList.length := by
  induction commands generalizing first with
  | nil => exact absurd rfl nonempty
  | cons command rest inductionHypothesis =>
    rw [List.length_cons] at whole
    have inputs : (seat ⟨first, last⟩ ends .input).owned?.toList.length =
        if first = 0 then (ends .input).owned?.toList.length else 0 := by
      by_cases isFirst : first = 0 <;> simp [seat, Place.allows, isFirst, Endpoint.owned?]
    rw [seated, List.flatMap_cons, List.length_append, Stage.owned, List.length_append]
    cases rest with
    | nil =>
      obtain rfl : first = last := Nat.succ.inj whole
      have outputs : seat ⟨first, first⟩ ends .output = ends .output := by
        simp [seat, Place.allows]
      simp only [Command.stage, inputs, outputs]
      rfl
    | cons next rest =>
      have notLast : first ≠ last := by
        rw [List.length_cons] at whole
        omega
      have outputs : (seat ⟨first, last⟩ ends .output).owned?.toList.length = 0 := by
        simp [seat, Place.allows, notLast, Endpoint.owned?]
      have later := inductionHypothesis (List.cons_ne_nil _ _) (Nat.add_right_comm first _ 1 ▸ whole)
      rw [later, if_neg (Nat.succ_ne_zero first)]
      simp only [Command.stage, inputs, outputs]
      omega

/-! ### Everything that a build hands over -/

/-- What the stage at an index reads from, when the files and pipes of its line are numbered from
here on. -/
def inputOf (first : Nat) (words : List String) : Nat → Option Handle
  | 0 => lastFile .input first (redirectionsOf words)
  | index + 1 => some (.readEnd (first + (redirectionsOf words).length + index))

/-- What the stage at an index writes to. -/
def outputOf (first : Nat) (words : List String) (index : Nat) : Option Handle :=
  if index = words.count Operator.pipe.text then lastFile .output first (redirectionsOf words)
  else some (.writeEnd (first + (redirectionsOf words).length + index))

/-- Whether a pipeline is what its words ask for, when it is built in this interpreter and leaves
that one. -/
structure Wired (mode : OutputMode) (words : List String) (shell : Interpreter σ)
    (pipeline : Pipeline) (after : Interpreter σ) : Prop where
  /-- There is one stage more than there are pipes. -/
  length : pipeline.stages.length = words.count Operator.pipe.text + 1
  /-- A stage gets the plain words of its segment, and the first of them is its program. -/
  arguments : ∀ (index : Nat) (stage : Stage), pipeline.stages[index]? = some stage →
    ∃ segment, (segments words)[index]? = some segment ∧ stage.arguments = plainWords segment ∧
      stage.arguments.head? = some stage.program
  background : pipeline.background ↔ Operator.background.text ∈ words
  /-- The files were asked for in the order of the redirections, and nothing else was. -/
  requests : after.requests = shell.requests ++ requestsOf mode shell.minted (redirectionsOf words)
  input : ∀ (index : Nat) (stage : Stage), pipeline.stages[index]? = some stage →
    stage.input.LeadsTo after.table (inputOf shell.minted words index)
  output : ∀ (index : Nat) (stage : Stage), pipeline.stages[index]? = some stage →
    stage.output.LeadsTo after.table (outputOf shell.minted words index)
  owned : pipeline.owned.length = 2 * words.count Operator.pipe.text +
    (if (Operator.redirect .input).text ∈ words then 1 else 0) +
    (if (Operator.redirect .output).text ∈ words then 1 else 0)
  distinct : pipeline.owned.Nodup
  /-- The descriptors and the serial numbers are new. -/
  fresh : ∀ descriptor ∈ pipeline.owned, descriptor ∉ shell.table.descriptors
  unused : shell.table.IsBelow shell.minted

/-- The stages that commands ask for, one by one. -/
theorem getElem?_pipelineOf {commands : List Command} {pipes : List PipeEnds}
    (enough : commands.length = pipes.length + 1) (ends : Ends) (index : Nat) :
    (pipelineOf commands ends pipes).stages[index]? = commands[index]?.map fun command =>
      ⟨command.program.1, command.arguments,
        inputAt pipes (command.stage (seat ⟨index, commands.length - 1⟩ ends)) index,
        outputAt pipes (command.stage (seat ⟨index, commands.length - 1⟩ ends)) index⟩ := by
  rw [pipelineOf, getElem?_joinedBy (by rw [length_seated, enough]), getElem?_seated,
    Option.map_map, Nat.zero_add]
  rfl

section

variable {table : Table} {ends : Ends} {pipes : List PipeEnds} {words : List String} {first : Nat}

/-- Where the ends of a line and its pipes lead, its stages read from the right places. -/
theorem inputAt_leads
    (leads : (ends .input).LeadsTo table (lastFile .input first (redirectionsOf words)))
    (reads : ∀ index pipe, pipes[index]? = some pipe → table.get? pipe.readEnd =
      some (.readEnd (first + (redirectionsOf words).length + index)))
    (command : Command) {index last : Nat} (bound : index ≤ pipes.length) :
    (inputAt pipes (command.stage (seat ⟨index, last⟩ ends)) index).LeadsTo table
      (inputOf first words index) := by
  cases index with
  | zero => exact leads
  | succ index =>
    have found := List.getElem?_eq_getElem (Nat.lt_of_succ_le bound)
    refine ⟨pipes[index].readEnd, ?_, reads index _ found⟩
    rw [inputAt, found]
    rfl

/-- And its stages write to the right places. -/
theorem outputAt_leads
    (leads : (ends .output).LeadsTo table (lastFile .output first (redirectionsOf words)))
    (writes : ∀ index pipe, pipes[index]? = some pipe → table.get? pipe.writeEnd =
      some (.writeEnd (first + (redirectionsOf words).length + index)))
    (command : Command) {index : Nat} (bound : index ≤ pipes.length)
    (count : pipes.length = words.count Operator.pipe.text) :
    (outputAt pipes (command.stage (seat ⟨index, pipes.length⟩ ends)) index).LeadsTo table
      (outputOf first words index) := by
  rw [outputOf, ← count]
  by_cases isLast : index = pipes.length
  · subst isLast
    have none : pipes[pipes.length]? = none := List.getElem?_eq_none (Nat.le_refl _)
    rw [if_pos rfl, outputAt, none]
    have same : (command.stage (seat ⟨pipes.length, pipes.length⟩ ends)).output = ends .output := by
      simp [Command.stage, seat, Place.allows]
    rw [same]
    exact leads
  · have found := List.getElem?_eq_getElem (Nat.lt_of_le_of_ne bound isLast)
    rw [if_neg isLast]
    refine ⟨pipes[index].writeEnd, ?_, writes index _ found⟩
    rw [outputAt, found]
    rfl

end

/-- The number of pipes in a line that follows the grammar. -/
theorem length_pipes {system : System σ} {words : List String} {commands : List Command}
    {opened done : Interpreter σ} {pipes : List PipeEnds}
    (grammatical : Grammatical words commands)
    (made : makePipes system (commands.length - 1) opened = (.ok pipes, done)) :
    pipes.length = words.count Operator.pipe.text ∧ commands.length = pipes.length + 1 := by
  have counted := length_of_grammatical grammatical
  have made := length_of_makePipes made
  omega

/-- The redirections of a line come first, then its pipes; neither disturbs what was there before.
So in the end everything leads where it should. -/
theorem pipelineOf_leads {system : System σ} {mode : OutputMode} {words : List String}
    {commands : List Command} {ends : Ends} {shell opened done : Interpreter σ}
    {pipes : List PipeEnds} (grammatical : Grammatical words commands)
    (opens : openEach system mode (commands.flatMap Command.redirections) Ends.inherited shell =
      (.ok ends, opened))
    (made : makePipes system (commands.length - 1) opened = (.ok pipes, done)) :
    (∀ direction, (ends direction).LeadsTo done.table
      (lastFile direction shell.minted (redirectionsOf words))) ∧
    done.requests = shell.requests ++ requestsOf mode shell.minted (redirectionsOf words) ∧
    ∀ (index : Nat) (stage : Stage), (pipelineOf commands ends pipes).stages[index]? = some stage →
      stage.input.LeadsTo done.table (inputOf shell.minted words index) ∧
      stage.output.LeadsTo done.table (outputOf shell.minted words index) := by
  obtain ⟨count, enough⟩ := length_pipes grammatical made
  obtain ⟨leading, minted, requestsOpened⟩ := openEach_leading opens (.inherited shell.table)
  obtain ⟨stays, leadsPipes, requestsMade⟩ := makePipes_leading made
  rw [← redirectionsOf_grammatical grammatical] at leading minted requestsOpened
  have leadsEnds : ∀ direction, (ends direction).LeadsTo done.table
      (lastFile direction shell.minted (redirectionsOf words)) := by
    intro direction
    have leads := leading.leads direction
    rw [Option.or_none] at leads
    exact leads.of_get? fun descriptor mem _ => stays descriptor mem
  rw [minted] at leadsPipes
  refine ⟨leadsEnds, by rw [requestsMade, requestsOpened], fun index stage found => ?_⟩
  have last : commands.length - 1 = pipes.length := by rw [enough, Nat.add_sub_cancel]
  rw [getElem?_pipelineOf enough, Option.map_eq_some_iff, last] at found
  obtain ⟨command, there, rfl⟩ := found
  have bound : index ≤ pipes.length := by
    have inside := (List.getElem?_eq_some_iff.mp there).1
    omega
  exact ⟨inputAt_leads (leadsEnds .input) (fun index pipe there => (leadsPipes index pipe there).1)
      command bound,
    outputAt_leads (leadsEnds .output) (fun index pipe there => (leadsPipes index pipe there).2)
      command bound count⟩

/-- The stages that are built lead where they should. -/
theorem build_leads {system : System σ} {mode : OutputMode} {words : List String}
    {shell after : Interpreter σ} {pipeline : Pipeline} (nonempty : words ≠ [])
    (built : build system mode words shell = (.ok pipeline, after)) (index : Nat) (stage : Stage)
    (found : pipeline.stages[index]? = some stage) :
    stage.input.LeadsTo after.table (inputOf shell.minted words index) ∧
      stage.output.LeadsTo after.table (outputOf shell.minted words index) := by
  obtain ⟨commands, ends, opened, pipes, done, grammatical, opens, made, rfl, table, _⟩ :=
    exists_commands_of_build nonempty built
  rw [table]
  exact (pipelineOf_leads grammatical opens made).2.2 index stage found

/-- A build that succeeds loses, duplicates and reorders nothing, and wires exactly the right
ends. -/
theorem build_wires (system : System σ) (mode : OutputMode) {words : List String}
    {shell after : Interpreter σ} {pipeline : Pipeline} (nonempty : words ≠ [])
    (built : build system mode words shell = (.ok pipeline, after)) :
    Wired mode words shell pipeline after := by
  have custody := build_custody system mode words (Custody.start shell)
  rw [built, ownedBy, List.nil_append] at custody
  have leads := build_leads nonempty built
  obtain ⟨commands, ends, opened, pipes, done, grammatical, opens, made, rfl, _, requests⟩ :=
    exists_commands_of_build nonempty built
  obtain ⟨count, enough⟩ := length_pipes grammatical made
  obtain ⟨leadsEnds, asked, _⟩ := pipelineOf_leads grammatical opens made
  have lastOf (direction : Direction) : (ends direction).owned?.toList.length =
      if (Operator.redirect direction).text ∈ words then 1 else 0 := by
    rw [(leadsEnds direction).length_owned, length_lastFile]
    simp only [sign_mem_grammatical grammatical]
  constructor
  case length =>
    rw [pipelineOf, length_joinedBy, length_seated, enough, count]
  case arguments =>
    intro index stage found
    rw [getElem?_pipelineOf enough, Option.map_eq_some_iff] at found
    obtain ⟨command, there, rfl⟩ := found
    refine ⟨command.words, ?_, (plainWords_command command).symm, rfl⟩
    rw [grammatical.1, List.getElem?_map, there]
    rfl
  case background => exact (background_mem_grammatical grammatical).symm
  case requests => rw [requests, asked]
  case input => exact fun index stage found => (leads index stage found).1
  case output => exact fun index stage found => (leads index stage found).2
  case owned =>
    have commandsNonempty : commands ≠ [] := List.ne_nil_of_length_eq_add_one enough
    rw [Pipeline.owned, pipelineOf, length_owned_joinedBy (by rw [length_seated, enough])
      (isChain_seated ends commands (by omega)), length_owned_seated ends commandsNonempty
      (by omega), if_pos rfl, lastOf, lastOf, count]
    omega
  case distinct => exact custody.distinct
  case fresh => exact fun descriptor mem => custody.notMem mem
  case unused => exact shell.known

/-! ### A line on a system that grants everything -/

/-- A system that grants everything. Its world is the number of the next process. -/
def System.granting : System ProcessId where
  openFile _ _ _ world := (.ok (), world)
  makePipe _ world := (.ok (), world)
  fork next := (.ok next, next + 1)
  refusal _ _ _ _ := none
  execute _ _ _ world := world
  quit _ _ _ _ world := world
  wait _ world := (⟨[], .exited 0, by decide⟩, world)
  changeDirectory _ world := (.ok (), world)
  input _ := []
  skipInput _ world := world
  write _ _ world := world
  enter _ world := world

/-- A line with three stages, which redirects its input twice. -/
def threeStages : List String :=
  ["tr", "<", "first", "x", "<", "second", "|", "sort", "&", "|", "wc", ">", "counts", "-l"]

/-- What the line with three stages becomes. The descriptor 3 of the first file is closed again. -/
def threeStagesBuilt : Pipeline where
  stages :=
    [⟨"tr", ["tr", "x"], .owned 4, .owned 7⟩, ⟨"sort", ["sort"], .owned 6, .owned 9⟩,
      ⟨"wc", ["wc", "-l"], .owned 8, .owned 5⟩]
  background := true

theorem build_threeStages :
    build System.granting .truncate threeStages (Interpreter.start 100) =
      (.ok threeStagesBuilt,
        (build System.granting .truncate threeStages (Interpreter.start 100)).2) :=
  Prod.ext (by decide +kernel) rfl

theorem wired_threeStages : threeStages ≠ [] ∧
    ∃ after, build System.granting .truncate threeStages (Interpreter.start 100) =
        (.ok threeStagesBuilt, after) ∧
      Wired .truncate threeStages (Interpreter.start (100 : ProcessId)) threeStagesBuilt after := by
  have nonempty : threeStages ≠ [] := by decide
  exact ⟨nonempty, _, build_threeStages,
    build_wires System.granting .truncate nonempty build_threeStages⟩

end PipelineShell
