/-
Custody of descriptors.

Between two moments the shell opens descriptors and closes them again. This file says what it means
that some of them are still held: the table is the old one but for these, and the history opens and
closes every other descriptor in turns. Each operation of the interpreter moves descriptors into
custody or out of it, and nothing else changes what is held. Custody of nothing is the conclusion
that a leak-free activity ends with: the table is as it was, and each opening was followed by
exactly one closing.
-/

import Mathlib.Data.List.Basic
import PipelineShell.Interpreter

namespace PipelineShell

/-! ### What a history says about one descriptor -/

/-- Whether an event opens or closes a descriptor. -/
def Event.concerns (descriptor : Descriptor) : Event → Bool
  | .opened other _ => other = descriptor
  | .closed other => other = descriptor
  | _ => false

/-- The openings and closings of a descriptor, in order. -/
def trail (descriptor : Descriptor) (events : List Event) : List Event :=
  events.filter (Event.concerns descriptor)

/-- A descriptor is opened for each of the handles in turn, and closed once after each opening. -/
def rounds (descriptor : Descriptor) (handles : List Handle) : List Event :=
  handles.flatMap fun handle => [.opened descriptor handle, .closed descriptor]

/-- Every opening of a descriptor is followed by one closing, and there are no other closings. -/
def Settled (descriptor : Descriptor) (events : List Event) : Prop :=
  ∃ handles, trail descriptor events = rounds descriptor handles

/-- The latest opening of a descriptor is not yet followed by a closing; the ones before are. -/
def Pending (descriptor : Descriptor) (events : List Event) : Prop :=
  ∃ handles handle,
    trail descriptor events = rounds descriptor handles ++ [.opened descriptor handle]

@[simp] theorem trail_append (descriptor : Descriptor) (earlier later : List Event) :
    trail descriptor (earlier ++ later) = trail descriptor earlier ++ trail descriptor later :=
  List.filter_append ..

theorem trail_append_of_not_concerns {descriptor : Descriptor} {event : Event}
    (elsewhere : event.concerns descriptor = false) (events : List Event) :
    trail descriptor (events ++ [event]) = trail descriptor events := by
  simp [trail, elsewhere]

theorem rounds_append_singleton (descriptor : Descriptor) (handles : List Handle)
    (handle : Handle) :
    rounds descriptor (handles ++ [handle]) =
      rounds descriptor handles ++ [.opened descriptor handle, .closed descriptor] := by
  simp [rounds]

theorem Settled.opened {descriptor : Descriptor} {events : List Event}
    (settled : Settled descriptor events) (handle : Handle) :
    Pending descriptor (events ++ [.opened descriptor handle]) := by
  obtain ⟨handles, trailed⟩ := settled
  exact ⟨handles, handle, by rw [trail_append, trailed]; simp [trail, Event.concerns]⟩

theorem Pending.closed {descriptor : Descriptor} {events : List Event}
    (pending : Pending descriptor events) :
    Settled descriptor (events ++ [.closed descriptor]) := by
  obtain ⟨handles, handle, trailed⟩ := pending
  refine ⟨handles ++ [handle], ?_⟩
  rw [trail_append, trailed, rounds_append_singleton]
  simp [trail, Event.concerns]

/-! ### Custody -/

/-- What a result owns. A failure owns nothing. -/
def ownedBy {ε α : Type} (owned : α → List Descriptor) : Except ε α → List Descriptor
  | .ok value => owned value
  | .error _ => []

variable {σ : Type}

/-- Since an earlier moment, exactly the descriptors `held` were opened and not closed again. -/
structure Custody (held : List Descriptor) (before after : Interpreter σ) : Prop where
  /-- Without what is held, the table is the earlier one. -/
  rest : after.table.slots.filter (fun slot => slot.1 ∉ held) = before.table.slots
  distinct : held.Nodup
  once : ∀ descriptor ∈ held, after.table.descriptors.count descriptor = 1
  /-- No standard stream is ever held. -/
  high : ∀ descriptor ∈ held, Stream.errors.slot < descriptor
  /-- The history since then. -/
  history : ∃ past, after.events = before.events ++ past ∧
    ∀ descriptor,
      (descriptor ∈ held → Pending descriptor past) ∧
      (descriptor ∉ held → Settled descriptor past)

namespace Custody

variable {held : List Descriptor} {before after : Interpreter σ}

/-- At the moment itself nothing is held. -/
theorem start (shell : Interpreter σ) : Custody [] shell shell where
  rest := by simp
  distinct := List.nodup_nil
  once := by simp
  high := by simp
  history := ⟨[], by simp, fun descriptor => ⟨by simp, fun _ => ⟨[], rfl⟩⟩⟩

theorem isOpen (custody : Custody held before after) :
    ∀ descriptor ∈ held, descriptor ∈ after.table.descriptors := by
  intro descriptor mem
  exact List.one_le_count_iff.mp (Nat.le_of_eq (custody.once descriptor mem).symm)

/-- When nothing is held any more, the table is the earlier one. -/
theorem table_eq (custody : Custody [] before after) : after.table = before.table := by
  have slots := custody.rest
  simp only [List.not_mem_nil, not_false_eq_true, decide_true, List.filter_true] at slots
  exact congrArg Table.mk slots

/-- The order in which descriptors are listed does not matter. -/
theorem perm {listed : List Descriptor} (custody : Custody held before after)
    (same : held.Perm listed) : Custody listed before after where
  rest := by simpa only [same.mem_iff] using custody.rest
  distinct := same.nodup_iff.mp custody.distinct
  once descriptor mem := custody.once descriptor (same.mem_iff.mpr mem)
  high descriptor mem := custody.high descriptor (same.mem_iff.mpr mem)
  history := by simpa only [same.mem_iff] using custody.history

/-- Only the table and the history matter. -/
theorem of_eq {later : Interpreter σ} (custody : Custody held before after)
    (table : later.table = after.table) (events : later.events = after.events) :
    Custody held before later where
  rest := by rw [table]; exact custody.rest
  distinct := custody.distinct
  once := by rw [table]; exact custody.once
  high := custody.high
  history := by rw [events]; exact custody.history

/-- A failure leaves what is held. -/
theorem refused {ε α : Type} {owned : α → List Descriptor} {error : ε}
    (custody : Custody held before after) :
    Custody (held ++ ownedBy owned (.error error)) before after := by
  rw [ownedBy, List.append_nil]
  exact custody

/-- What is held was not open before. -/
theorem notMem (custody : Custody held before after) {descriptor : Descriptor}
    (mem : descriptor ∈ held) : descriptor ∉ before.table.descriptors := by
  intro old
  obtain ⟨slot, slotMem, rfl⟩ := List.mem_map.mp old
  rw [← custody.rest] at slotMem
  simpa [mem] using (List.mem_filter.mp slotMem).2

/-- What is held counts: so many descriptors more are open than before. -/
theorem length_slots (custody : Custody held before after) :
    after.table.slots.length = before.table.slots.length + held.length := by
  have listed : (after.table.descriptors.filter fun descriptor => descriptor ∈ held).Perm held := by
    refine List.perm_iff_count.mpr fun descriptor => ?_
    by_cases mem : descriptor ∈ held
    · rw [List.count_filter (by simpa using mem), custody.once descriptor mem,
        custody.distinct.count, if_pos mem]
    · rw [List.count_eq_zero_of_not_mem mem, List.count_eq_zero_of_not_mem]
      exact fun inside => mem (by simpa using (List.mem_filter.mp inside).2)
  have opened : (after.table.slots.filter fun slot => slot.1 ∈ held).length = held.length := by
    rw [← listed.length_eq, Table.descriptors, Association.keys, List.filter_map, List.length_map]
    rfl
  rw [List.length_eq_length_filter_add fun slot : Descriptor × Handle => slot.1 ∈ held, opened,
    Nat.add_comm, ← custody.rest]
  simp

/-! ### What each operation does to custody -/

/-- An event that opens and closes nothing. -/
theorem record (custody : Custody held before after) (event : Event)
    (elsewhere : ∀ descriptor, event.concerns descriptor = false) :
    Custody held before (after.record event) where
  rest := custody.rest
  distinct := custody.distinct
  once := custody.once
  high := custody.high
  history := by
    obtain ⟨past, events, trails⟩ := custody.history
    refine ⟨past ++ [event], by simp [events], fun descriptor => ?_⟩
    have same := trail_append_of_not_concerns (elsewhere descriptor) past
    simpa only [Pending, Settled, same] using trails descriptor

theorem world (custody : Custody held before after) (changed : σ) :
    Custody held before { after with world := changed } := custody.of_eq rfl rfl

theorem mint (custody : Custody held before after) : Custody held before after.mint :=
  custody.of_eq rfl rfl

theorem enter (custody : Custody held before after) (system : System σ) (level : Level)
    (message : String) : Custody held before (after.enter system level message) :=
  (custody.record _ fun _ => rfl).world _

theorem write (custody : Custody held before after) (system : System σ) (stream : Stream)
    (text : String) : Custody held before (after.write system stream text) :=
  (custody.record _ fun _ => rfl).world _

/-- The history goes on with an event about one descriptor. What it does to that descriptor is up to
the event, and every other one is held or not as before. -/
theorem history_append {listed : List Descriptor} (custody : Custody held before after)
    (descriptor : Descriptor) {event : Event}
    (elsewhere : ∀ other, other ≠ descriptor → event.concerns other = false)
    (others : ∀ other, other ≠ descriptor → (other ∈ listed ↔ other ∈ held))
    (own : ∀ past, (descriptor ∈ held → Pending descriptor past) ∧
        (descriptor ∉ held → Settled descriptor past) →
      (descriptor ∈ listed → Pending descriptor (past ++ [event])) ∧
        (descriptor ∉ listed → Settled descriptor (past ++ [event]))) :
    ∃ past, after.events ++ [event] = before.events ++ past ∧
      ∀ other, (other ∈ listed → Pending other past) ∧ (other ∉ listed → Settled other past) := by
  obtain ⟨past, events, trails⟩ := custody.history
  refine ⟨past ++ [event], by rw [events, List.append_assoc], fun other => ?_⟩
  by_cases same : other = descriptor
  · subst same
    exact own past (trails other)
  · have kept := trail_append_of_not_concerns (elsewhere other same) past
    simpa only [Pending, Settled, kept, others other same] using trails other

/-- What is installed is held from then on. -/
theorem install (custody : Custody held before after) (handle : Handle)
    (isMinted : ∀ serial ∈ handle.serial?, serial < after.minted) :
    Custody (held ++ [(after.install handle isMinted).1]) before
      (after.install handle isMinted).2 := by
  have unused := after.table.fresh_notMem
  have unheld : after.table.fresh ∉ held := fun mem => unused (custody.isOpen _ mem)
  rw [Interpreter.fst_install]
  refine ⟨?_, ?_, ?_, ?_, ?_⟩
  · have earlier : ∀ slot ∈ after.table.slots, slot.1 ≠ after.table.fresh :=
      fun slot mem same => unused (same ▸ List.mem_map_of_mem mem)
    have same : ∀ slot ∈ after.table.slots,
        decide (slot.1 ∉ held ++ [after.table.fresh]) = decide (slot.1 ∉ held) := by
      intro slot mem
      simp [earlier slot mem]
    rw [Interpreter.slots_install, List.filter_append, List.filter_congr same, ← custody.rest]
    simp
  · exact List.nodup_append.mpr ⟨custody.distinct, by simp, by
      rintro first mem last isLast rfl
      exact unheld (List.mem_singleton.mp isLast ▸ mem)⟩
  · intro descriptor mem
    have grown : (after.install handle isMinted).2.table.descriptors =
        after.table.descriptors ++ [after.table.fresh] := by
      rw [Table.descriptors, Interpreter.slots_install, Association.keys, List.map_append]
      rfl
    rw [grown, List.count_append]
    rcases List.mem_append.mp mem with old | last
    · have different : after.table.fresh ≠ descriptor := fun same => unheld (same ▸ old)
      rw [custody.once descriptor old, List.count_singleton, beq_false_of_ne different]
      rfl
    · rw [List.mem_singleton.mp last, List.count_eq_zero_of_not_mem unused,
        List.count_singleton_self]
  · intro descriptor mem
    rcases List.mem_append.mp mem with old | last
    · exact custody.high descriptor old
    · exact List.mem_singleton.mp last ▸ after.table.slot_lt_fresh .errors
  · rw [Interpreter.events_install]
    refine custody.history_append after.table.fresh ?_ ?_ ?_
    · intro other different
      simpa [Event.concerns] using Ne.symm different
    · intro other different
      simp [different]
    · intro past trails
      exact ⟨fun _ => (trails.2 unheld).opened handle, by simp⟩

theorem install_install (custody : Custody held before after) (first second : Handle)
    (firstMinted : ∀ serial ∈ first.serial?, serial < after.minted)
    (secondMinted : ∀ serial ∈ second.serial?, serial < (after.install first firstMinted).2.minted) :
    Custody (held ++ [(after.install first firstMinted).1,
        ((after.install first firstMinted).2.install second secondMinted).1]) before
      ((after.install first firstMinted).2.install second secondMinted).2 := by
  have both := (custody.install first firstMinted).install second secondMinted
  rw [List.append_assoc] at both
  exact both

/-- What is closed is not held any more. -/
theorem close {descriptor : Descriptor} (custody : Custody (descriptor :: held) before after) :
    Custody held before (after.close descriptor) := by
  have unheld : descriptor ∉ held := (List.nodup_cons.mp custody.distinct).1
  refine ⟨?_, (List.nodup_cons.mp custody.distinct).2, ?_, ?_, ?_⟩
  · rw [Interpreter.table_close, ← custody.rest]
    show List.filter _ (after.table.slots.filter _) = _
    rw [List.filter_filter]
    refine List.filter_congr fun slot _ => ?_
    rw [Bool.eq_iff_iff]
    simp [and_comm]
  · intro other mem
    have different : other ≠ descriptor := fun same => unheld (same ▸ mem)
    rw [← custody.once other (List.mem_cons_of_mem _ mem), Interpreter.table_close]
    exact Association.count_keys_erase_of_ne different after.table.slots
  · exact fun other mem => custody.high other (List.mem_cons_of_mem _ mem)
  · rw [Interpreter.events_close]
    refine custody.history_append descriptor ?_ ?_ ?_
    · intro other different
      simpa [Event.concerns] using Ne.symm different
    · intro other different
      simp [different]
    · intro past trails
      exact ⟨fun mem => absurd mem unheld, fun _ => (trails.1 List.mem_cons_self).closed⟩

theorem closeAll {descriptors : List Descriptor}
    (custody : Custody (held ++ descriptors) before after) :
    Custody held before (after.closeAll descriptors) := by
  induction descriptors generalizing after with
  | nil => exact List.append_nil held ▸ custody
  | cons first rest inductionHypothesis =>
    exact inductionHypothesis (custody.perm List.perm_middle).close

theorem release {stage : Stage} (custody : Custody (held ++ stage.owned) before after) :
    Custody held before (after.release stage) :=
  custody.closeAll

theorem releaseAll {stages : List Stage}
    (custody : Custody (held ++ stages.flatMap Stage.owned) before after) :
    Custody held before (after.releaseAll stages) :=
  custody.closeAll

/-- A file that is opened is held; one that is not opened leaves things as they are. -/
theorem openFile (custody : Custody held before after) (system : System σ) (path : String)
    (truncate : Bool) :
    Custody (held ++ ownedBy (fun descriptor => [descriptor])
      (after.openFile system path truncate).1) before
      (after.openFile system path truncate).2 := by
  unfold Interpreter.openFile
  split
  · exact custody.refused
  · split
    · have requested := custody.record (.requested path truncate after.minted) fun _ => rfl
      dsimp only
      split
      · rename_i errno world _
        exact (requested.world world).refused
      · rename_i world _
        exact (requested.world world).mint.install _ _
    · exact custody.refused

/-- Both ends of a pipe that is made are held. -/
theorem makePipe (custody : Custody held before after) (system : System σ) :
    Custody (held ++ ownedBy (fun ends => [ends.readEnd, ends.writeEnd])
      (after.makePipe system).1) before (after.makePipe system).2 := by
  unfold Interpreter.makePipe
  split
  · split
    · rename_i errno world _
      exact (custody.world world).refused
    · rename_i world _
      exact (custody.world world).mint.install_install (.readEnd after.minted)
        (.writeEnd after.minted) (by rintro serial ⟨⟩; exact Nat.lt_succ_self _)
        (by rintro serial ⟨⟩; exact Nat.lt_succ_self _)
  · exact custody.refused

/-- A stage takes over a descriptor, and the one in its place is closed. -/
theorem attach {stage : Stage} {descriptor : Descriptor}
    (custody : Custody (held ++ stage.owned ++ [descriptor]) before after)
    (direction : Direction) :
    Custody (held ++ (after.attach stage direction descriptor).1.owned) before
      (after.attach stage direction descriptor).2 := by
  refine closeAll (custody.perm ?_)
  rw [List.append_assoc, List.append_assoc]
  refine List.Perm.append_left held ?_
  obtain ⟨program, arguments, input, output⟩ := stage
  cases direction with
  | input =>
    show List.Perm (input.owned?.toList ++ output.owned?.toList ++ [descriptor])
      ([descriptor] ++ output.owned?.toList ++ input.owned?.toList)
    rw [List.append_assoc [descriptor]]
    exact List.perm_append_comm.trans (List.Perm.append_left _ List.perm_append_comm)
  | output =>
    show List.Perm (input.owned?.toList ++ output.owned?.toList ++ [descriptor])
      (input.owned?.toList ++ [descriptor] ++ output.owned?.toList)
    rw [List.append_assoc, List.append_assoc]
    exact List.Perm.append_left _ List.perm_append_comm

/-- Two neighbouring stages take over the ends of the pipe between them. -/
theorem attach_both {left right : Stage} {reading writing : Descriptor}
    (custody : Custody (held ++ left.owned ++ right.owned ++ [reading, writing]) before after) :
    Custody (held ++ (after.attach left .output writing).1.owned ++
        ((after.attach left .output writing).2.attach right .input reading).1.owned) before
      ((after.attach left .output writing).2.attach right .input reading).2 := by
  have outputFirst :
      Custody (held ++ right.owned ++ [reading] ++ left.owned ++ [writing]) before after :=
    custody.perm (List.perm_iff_count.mpr fun descriptor => by
      simp only [List.count_append, List.count_cons, List.count_nil]
      omega)
  have inputNext : Custody (held ++ (after.attach left .output writing).1.owned ++ right.owned ++
      [reading]) before (after.attach left .output writing).2 :=
    (outputFirst.attach .output).perm (List.perm_iff_count.mpr fun descriptor => by
      simp only [List.count_append]
      omega)
  exact inputNext.attach .input

end Custody

end PipelineShell
