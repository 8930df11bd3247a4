/-
What can be handed to a program.

The system ends a string at its first zero byte, so a text that holds the zero character can be
handed over neither as a program, nor as an argument, nor in the environment. Texts are encoded
before they are looked at, but no other character has a zero byte in its encoding. So a store is
refused exactly if one of its exported variables holds a zero character, and with a store that is
not refused, a stage is refused exactly if its own words hold one: the search path adds none.
-/

import Mathlib.Data.List.Forall2
import PipelineShell.Supervision

namespace PipelineShell

/-! ### Going through a list until something fails -/

section

variable {ε α β : Type} {step : α → Except ε β}

theorem mapM_cons_eq {item : α} {rest : List α} :
    (item :: rest).mapM step =
      match step item with
      | .error error => .error error
      | .ok value =>
        match rest.mapM step with
        | .error error => .error error
        | .ok values => .ok (value :: values) := by
  rw [List.mapM_cons]
  cases step item with
  | error error => rfl
  | ok value => cases rest.mapM step <;> rfl

theorem mapM_eq_ok_iff {items : List α} {values : List β} :
    items.mapM step = .ok values ↔
      List.Forall₂ (fun item value => step item = .ok value) items values := by
  induction items generalizing values with
  | nil =>
    rw [List.forall₂_nil_left_iff]
    exact ⟨fun same => (Except.ok.inj same).symm, fun same => same ▸ rfl⟩
  | cons item rest inductionHypothesis =>
    rw [mapM_cons_eq, List.forall₂_cons_left_iff]
    simp only [← inductionHypothesis]
    constructor
    · intro reached
      split at reached
      · cases reached
      · rename_i value found
        split at reached
        · cases reached
        · rename_i others foundOthers
          exact ⟨value, others, found, foundOthers, (Except.ok.inj reached).symm⟩
    · rintro ⟨value, others, found, foundOthers, rfl⟩
      rw [found, foundOthers]

/-- The first item that fails decides the error. -/
theorem mapM_eq_error_iff {items : List α} {error : ε} :
    items.mapM step = .error error ↔
      ∃ before item after, items = before ++ item :: after ∧ step item = .error error ∧
        ∀ earlier ∈ before, ∃ value, step earlier = .ok value := by
  constructor
  · intro failed
    induction items with
    | nil => cases failed
    | cons item rest inductionHypothesis =>
      rw [mapM_cons_eq] at failed
      split at failed
      · rename_i reason found
        cases failed
        exact ⟨[], item, rest, rfl, found, by simp⟩
      · rename_i value found
        split at failed
        · rename_i reason failedLater
          cases failed
          obtain ⟨before, other, after, rfl, foundLater, fine⟩ := inductionHypothesis failedLater
          exact ⟨item :: before, other, after, rfl, foundLater,
            List.forall_mem_cons.mpr ⟨⟨value, found⟩, fine⟩⟩
        · cases failed
  · rintro ⟨before, item, after, rfl, found, fine⟩
    induction before with
    | nil => rw [List.nil_append, mapM_cons_eq, found]
    | cons earlier before inductionHypothesis =>
      rw [List.forall_mem_cons] at fine
      obtain ⟨value, foundEarlier⟩ := fine.1
      rw [List.cons_append, mapM_cons_eq, foundEarlier, inductionHypothesis fine.2]

end

/-! ### Zero bytes and zero characters -/

namespace Text

/-- Whether a text holds the zero character. -/
def HasNul (text : String) : Prop := '\x00' ∈ text.toList

instance (text : String) : Decidable (HasNul text) := inferInstanceAs (Decidable (_ ∈ _))

theorem encode_eq_flatMap (text : String) :
    encode text = text.toList.flatMap String.utf8EncodeChar := by
  rw [encode, ← String.utf8Encode_toList, List.utf8Encode, List.data_toByteArray]

theorem ne_ofNat_of_ascii {byte : UInt8} (ascii : byte.toNat < 128) {value : Nat}
    (high : 128 ≤ value) (small : value < 256) : byte ≠ UInt8.ofNat value := by
  intro same
  have values := congrArg UInt8.toNat same
  rw [UInt8.toNat_ofNat_of_lt' small] at values
  omega

/-- A byte below 128 stands for its character only: the bytes of a longer encoding all have their
highest bit set. -/
theorem ascii_mem_utf8EncodeChar_iff {byte : UInt8} (ascii : byte.toNat < 128)
    {character : Char} :
    byte ∈ String.utf8EncodeChar character ↔ character.toNat = byte.toNat := by
  rw [String.utf8EncodeChar]
  split
  · rename_i small
    have bound : character.val.toNat < 256 := Nat.lt_of_le_of_lt small (by decide)
    rw [List.mem_singleton, ← UInt8.toNat_inj, UInt8.toNat_ofNat_of_lt' bound]
    exact eq_comm
  · rename_i large
    have different : character.val.toNat ≠ byte.toNat := by
      have above : 127 < character.val.toNat := Nat.lt_of_not_le large
      omega
    refine iff_of_false (fun mem => ?_) different
    split at mem
    · simp only [List.mem_cons, List.not_mem_nil, or_false] at mem
      rcases mem with same | same <;>
        exact absurd same (ne_ofNat_of_ascii ascii (by omega) (by omega))
    · split at mem
      · simp only [List.mem_cons, List.not_mem_nil, or_false] at mem
        rcases mem with same | same | same <;>
          exact absurd same (ne_ofNat_of_ascii ascii (by omega) (by omega))
      · simp only [List.mem_cons, List.not_mem_nil, or_false] at mem
        rcases mem with same | same | same | same <;>
          exact absurd same (ne_ofNat_of_ascii ascii (by omega) (by omega))

/-- A byte below 128 is in the encoding of a text exactly if its character is in the text. -/
theorem ascii_mem_encode_iff {character : Char} {byte : UInt8} (same : character.toNat = byte.toNat)
    (ascii : byte.toNat < 128) {text : String} :
    byte ∈ encode text ↔ character ∈ text.toList := by
  rw [encode_eq_flatMap, List.mem_flatMap]
  simp only [ascii_mem_utf8EncodeChar_iff ascii, ← same, Char.toNat_inj, exists_eq_right]

theorem zero_mem_encode_iff {text : String} : (0 : UInt8) ∈ encode text ↔ HasNul text :=
  ascii_mem_encode_iff (by decide) (by decide)

/-- Different texts have different encodings. -/
theorem encode_inj {first second : String} : encode first = encode second ↔ first = second := by
  refine ⟨fun same => ?_, congrArg encode⟩
  have decoded := decode?_encode first
  rw [same, decode?_encode] at decoded
  exact (Option.some.inj decoded).symm

theorem hasNul_append_iff {first second : String} :
    HasNul (first ++ second) ↔ HasNul first ∨ HasNul second := by
  rw [HasNul, String.toList_append, List.mem_append]
  rfl

end Text

/-- Bytes are handed over as they are, unless one of them is zero. -/
theorem nulFree_eq_ok_iff {bytes kept : Bytes} :
    nulFree bytes = .ok kept ↔ (0 : UInt8) ∉ bytes ∧ bytes = kept := by
  rw [← Text.nulOffset?_eq_none_iff, nulFree]
  cases Text.nulOffset? bytes with
  | none =>
    rw [Except.ok.injEq]
    exact (and_iff_right rfl).symm
  | some offset =>
    constructor
    · intro refused
      cases refused
    · rintro ⟨impossible, _⟩
      cases impossible

/-- Going through encoded items until one cannot be handed over. -/
theorem mapM_nulFree_eq_ok_iff {α : Type} {encoded : α → Bytes} {items : List α}
    {kept : List Bytes} :
    (items.mapM fun item => nulFree (encoded item)) = .ok kept ↔
      (∀ item ∈ items, (0 : UInt8) ∉ encoded item) ∧ items.map encoded = kept := by
  rw [mapM_eq_ok_iff]
  simp only [nulFree_eq_ok_iff]
  rw [List.forall₂_and_left, ← List.forall₂_map_left_iff (f := encoded), List.forall₂_eq_eq_eq]

/-! ### The environment -/

theorem Association.get?_eq_some_iff {α β : Type} [DecidableEq α] {key : α} {value : β}
    {pairs : List (α × β)} (distinct : (keys pairs).Nodup) :
    get? key pairs = some value ↔ (key, value) ∈ pairs := by
  refine ⟨mem_of_get?, fun mem => ?_⟩
  induction pairs with
  | nil => cases mem
  | cons pair rest inductionHypothesis =>
    rw [keys_cons, List.nodup_cons] at distinct
    rcases List.mem_cons.mp mem with rfl | later
    · exact if_pos rfl
    · have different : pair.1 ≠ key := by
        rintro rfl
        exact distinct.1 (List.mem_map.mpr ⟨_, later, rfl⟩)
      exact (if_neg different).trans (inductionHypothesis distinct.2 later)

namespace Variables

/-- Whether an exported variable holds a zero character, in its name or in its value. -/
def HasNul (store : Variables) : Prop :=
  ∃ name value, store.find? name = some ⟨value, true⟩ ∧ (Text.HasNul name ∨ Text.HasNul value)

theorem mem_exported_iff {store : Variables} {name value : String} {exported : Bool} :
    (name, ⟨value, exported⟩) ∈ store.entries.filter (·.2.exported) ↔
      store.find? name = some ⟨value, exported⟩ ∧ exported = true := by
  rw [find?, Association.get?_eq_some_iff store.distinct, List.mem_filter]

theorem zero_mem_encodeEntry_iff {name value : String} :
    (0 : UInt8) ∈ encodeEntry name value ↔ Text.HasNul name ∨ Text.HasNul value := by
  have equals : ¬ Text.HasNul "=" := by decide
  rw [encodeEntry, Text.zero_mem_encode_iff, Text.hasNul_append_iff, Text.hasNul_append_iff]
  simp only [equals, or_false]

/-- The environment that is handed over has exactly one entry for each exported variable. -/
theorem environment_eq_ok_iff {store : Variables} {entries : List Bytes} :
    store.environment = .ok entries ↔ ¬ store.HasNul ∧
      (store.entries.filter (·.2.exported)).map (fun pair => encodeEntry pair.1 pair.2.value) =
        entries := by
  rw [environment, mapM_nulFree_eq_ok_iff]
  refine and_congr_left fun _ => ?_
  simp only [zero_mem_encodeEntry_iff, HasNul, not_exists, not_and]
  constructor
  · exact fun clean name value found =>
      clean (name, ⟨value, true⟩) (mem_exported_iff.mpr ⟨found, rfl⟩)
  · rintro clean ⟨name, value, exported⟩ mem
    obtain ⟨found, rfl⟩ := mem_exported_iff.mp mem
    exact clean name value found

theorem mem_environment_iff {store : Variables} {entries : List Bytes}
    (handed : store.environment = .ok entries) {entry : Bytes} :
    entry ∈ entries ↔
      ∃ name value, store.find? name = some ⟨value, true⟩ ∧ entry = encodeEntry name value := by
  rw [← (environment_eq_ok_iff.mp handed).2, List.mem_map]
  constructor
  · rintro ⟨⟨name, value, exported⟩, mem, rfl⟩
    obtain ⟨found, rfl⟩ := mem_exported_iff.mp mem
    exact ⟨name, value, found, rfl⟩
  · rintro ⟨name, value, found, rfl⟩
    exact ⟨(name, ⟨value, true⟩), mem_exported_iff.mpr ⟨found, rfl⟩, rfl⟩

theorem exists_environment_ok_iff {store : Variables} :
    (∃ entries, store.environment = .ok entries) ↔ ¬ store.HasNul := by
  simp only [environment_eq_ok_iff, exists_and_left, exists_eq', and_true]

/-- An environment is refused exactly if it holds a zero character. -/
theorem exists_environment_error_iff {store : Variables} :
    (∃ fault, store.environment = .error fault) ↔ store.HasNul := by
  constructor
  · rintro ⟨fault, refused⟩
    by_contra clean
    rw [environment_eq_ok_iff.mpr ⟨clean, rfl⟩] at refused
    cases refused
  · intro nul
    cases handed : store.environment with
    | error fault => exact ⟨fault, rfl⟩
    | ok entries => exact absurd nul (environment_eq_ok_iff.mp handed).1

theorem zero_notMem_of_environment {store : Variables} {entries : List Bytes}
    (handed : store.environment = .ok entries) : ∀ entry ∈ entries, (0 : UInt8) ∉ entry := by
  intro entry mem zero
  obtain ⟨name, value, found, rfl⟩ := (mem_environment_iff handed).mp mem
  exact (environment_eq_ok_iff.mp handed).1 ⟨name, value, found, zero_mem_encodeEntry_iff.mp zero⟩

end Variables

/-! ### Programs and arguments -/

/-- The pieces of a list hold nothing but its items. -/
theorem Text.mem_of_mem_pieces {α : Type} {isMark : α → Bool} {items piece : List α}
    (mem : piece ∈ pieces isMark items) {item : α} (inside : item ∈ piece) : item ∈ items :=
  (mem_iff_exists_mem_pieces (not_isMark_of_mem_pieces mem item inside)).mpr ⟨piece, mem, inside⟩

theorem mem_within_iff {directory name : Bytes} {byte : UInt8} (different : byte ≠ slash) :
    byte ∈ within directory name ↔ byte ∈ directory ∨ byte ∈ name := by
  unfold within
  split
  · exact List.mem_append
  · rw [List.mem_append, List.mem_cons, or_iff_right different]

namespace Lookup

theorem zero_notMem_searchPath {environment : List Bytes}
    (clean : ∀ entry ∈ environment, (0 : UInt8) ∉ entry) :
    (0 : UInt8) ∉ searchPath environment := by
  unfold searchPath
  cases found : environment.findSome? searchPathMark.isPrefixOf? with
  | none =>
    show (0 : UInt8) ∉ defaultSearchPath
    rw [defaultSearchPath, Text.zero_mem_encode_iff]
    decide
  | some path =>
    obtain ⟨entry, mem, cut⟩ := List.exists_of_findSome?_eq_some found
    rw [List.isPrefixOf?_eq_some_iff_append_eq] at cut
    exact fun zero => clean entry mem (cut ▸ List.mem_append_right _ zero)

theorem zero_notMem_directories {path : Bytes} (clean : (0 : UInt8) ∉ path) :
    ∀ directory ∈ directories path, (0 : UInt8) ∉ directory := by
  intro directory mem
  obtain ⟨piece, pieceMem, rfl⟩ := List.mem_map.mp mem
  split
  · rw [Text.zero_mem_encode_iff]
    decide
  · exact fun zero => clean (Text.mem_of_mem_pieces pieceMem zero)

/-- The files that are tried for a program hold a zero byte exactly if its name does: there is
always one to be tried. -/
theorem exists_zero_mem_candidates_iff {program : String} {path : Bytes}
    (clean : (0 : UInt8) ∉ path) :
    (∃ file ∈ candidates program path, (0 : UInt8) ∈ file) ↔ Text.HasNul program := by
  rw [← Text.zero_mem_encode_iff, candidates]
  split
  · simp only [List.mem_singleton, exists_eq_left]
  · have different : (0 : UInt8) ≠ slash := by decide
    simp only [List.mem_map, exists_exists_and_eq_and, mem_within_iff different]
    constructor
    · rintro ⟨directory, mem, inDirectory | inProgram⟩
      · exact absurd inDirectory (zero_notMem_directories clean directory mem)
      · exact inProgram
    · intro inProgram
      have nonempty : directories path ≠ [] :=
        fun empty => Text.pieces_ne_nil _ _ (List.map_eq_nil_iff.mp empty)
      obtain ⟨directory, mem⟩ := List.exists_mem_of_ne_nil _ nonempty
      exact ⟨directory, mem, .inr inProgram⟩

end Lookup

/-- Whether a zero character keeps a stage from being run. -/
def Stage.HasNul (stage : Stage) : Prop :=
  Text.HasNul stage.program ∨ ∃ argument ∈ stage.arguments, Text.HasNul argument

instance (stage : Stage) : Decidable stage.HasNul := inferInstanceAs (Decidable (_ ∨ _))

/-- How a stage with a zero character is reported: by its program, if that holds one, and otherwise
by all its arguments. -/
def Stage.rejection (stage : Stage) : ExecError :=
  .invalidArgument
    (if Text.HasNul stage.program then stage.program else String.intercalate " " stage.arguments)

theorem Stage.argv_eq_ok_iff {stage : Stage} {arguments : List Bytes} :
    stage.argv = .ok arguments ↔
      (∀ argument ∈ stage.arguments, ¬ Text.HasNul argument) ∧
        stage.arguments.map Text.encode = arguments := by
  rw [argv, mapM_nulFree_eq_ok_iff]
  simp only [Text.zero_mem_encode_iff]

namespace Supervision

section

variable {environment : List Bytes} {stage : Stage}

theorem files_eq_true_iff (clean : ∀ entry ∈ environment, (0 : UInt8) ∉ entry) :
    ((Lookup.candidates stage.program (Lookup.searchPath environment)).all fun file =>
      Text.nulOffset? file = none) = true ↔ ¬ Text.HasNul stage.program := by
  rw [← Lookup.exists_zero_mem_candidates_iff (Lookup.zero_notMem_searchPath clean)]
  simp only [List.all_eq_true, decide_eq_true_eq, Text.nulOffset?_eq_none_iff, not_exists, not_and]

/-- A stage with a zero character is not prepared, and its program is looked at first. -/
theorem prepare_of_hasNul (clean : ∀ entry ∈ environment, (0 : UInt8) ∉ entry)
    (nul : stage.HasNul) : prepare stage environment = .error stage.rejection := by
  unfold prepare Stage.rejection
  by_cases inProgram : Text.HasNul stage.program
  · rw [if_neg fun fine => (files_eq_true_iff clean).mp fine inProgram, if_pos inProgram]
  · rw [if_pos ((files_eq_true_iff clean).mpr inProgram), if_neg inProgram]
    obtain ⟨argument, mem, inArgument⟩ := nul.resolve_left inProgram
    cases taken : stage.argv with
    | error fault => rfl
    | ok arguments => exact absurd inArgument ((Stage.argv_eq_ok_iff.mp taken).1 argument mem)

theorem prepare_of_not_hasNul (clean : ∀ entry ∈ environment, (0 : UInt8) ∉ entry)
    (free : ¬ stage.HasNul) : ∃ command, prepare stage environment = .ok command := by
  obtain ⟨programFree, argumentsFree⟩ := not_or.mp free
  have taken : stage.argv = .ok (stage.arguments.map Text.encode) :=
    Stage.argv_eq_ok_iff.mpr ⟨by simpa using argumentsFree, rfl⟩
  unfold prepare
  rw [if_pos ((files_eq_true_iff clean).mpr programFree), taken]
  exact ⟨_, rfl⟩

end

end Supervision

end PipelineShell
