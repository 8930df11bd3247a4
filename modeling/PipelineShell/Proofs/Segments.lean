/-
The segments of an input and the lines that they hold.

Each line feed ends a segment, and what comes after the last one is a segment if it is not empty.
Reading until nothing is left gives one item for each segment, in order, however the input is read
in blocks. A segment that is not valid UTF-8 gives an item without a line; any other gives its text
without the line feeds and carriage returns at its end, which makes no difference to the words of
the line. So nothing depends on whether a line feed has a carriage return before it, or whether the
last line has one at all.
-/

import PipelineShell.Proofs.Reading
import PipelineShell.Proofs.Separation

namespace PipelineShell

namespace Text

/-! ### Segments -/

/-- The segments of some bytes. -/
inductive Segments : Bytes → List Bytes → Prop where
  | nil : Segments [] []
  | tail {bytes : Bytes} (nonempty : bytes ≠ []) (unended : lineFeed ∉ bytes) :
      Segments bytes [bytes]
  | ended {body rest : Bytes} {segments : List Bytes} (unended : lineFeed ∉ body)
      (later : Segments rest segments) :
      Segments (body ++ lineFeed :: rest) ((body ++ [lineFeed]) :: segments)

/-- Cutting finds the segments. -/
theorem Segments.eq_cutAfter {bytes : Bytes} {segments : List Bytes}
    (cut : Segments bytes segments) : segments = cutAfter lineFeed bytes := by
  induction cut with
  | nil => rfl
  | tail nonempty unended => exact (cutAfter_of_notMem unended nonempty).symm
  | ended unended later inductionHypothesis =>
    rw [cutAfter_append_mark unended, ← inductionHypothesis]

theorem segments_cutAfter (bytes : Bytes) : Segments bytes (cutAfter lineFeed bytes) := by
  -- What is left after the first line feed is shorter, but no tail of the list by its shape.
  induction length : bytes.length using Nat.strong_induction_on generalizing bytes with
  | _ size inductionHypothesis =>
    by_cases ends : lineFeed ∈ bytes
    · obtain ⟨body, rest, rfl, unended⟩ := List.eq_append_cons_of_mem ends
      rw [cutAfter_append_mark unended]
      refine .ended unended (inductionHypothesis rest.length ?_ rest rfl)
      rw [← length, List.length_append, List.length_cons]
      omega
    · by_cases nothing : bytes = []
      · subst nothing
        exact .nil
      · rw [cutAfter_of_notMem ends nothing]
        exact .tail nothing ends

/-- A line takes at least one byte of what is read. -/
theorem length_inputLines_le (bytes : Bytes) : (inputLines bytes).length ≤ bytes.length := by
  rw [inputLines, List.length_map]
  obtain ⟨segments, cut⟩ : ∃ segments, Segments bytes segments := ⟨_, segments_cutAfter bytes⟩
  rw [← cut.eq_cutAfter]
  induction cut with
  | nil => exact Nat.le_refl _
  | tail nonempty unended => exact List.length_pos_iff.mpr nonempty
  | ended unended later inductionHypothesis =>
    rw [List.length_cons, List.length_append, List.length_cons]
    omega

/-! ### Ends of lines -/

/-- The carriage return byte. -/
def carriageReturn : UInt8 := 13

/-- Whether a byte may end a line. -/
def EndsLine (byte : UInt8) : Prop := byte = lineFeed ∨ byte = carriageReturn

/-- The end of a line as a byte and as a character. -/
theorem EndsLine.exists_character {byte : UInt8} (ends : EndsLine byte) :
    ∃ character, isLineEnd character = true ∧ character.toNat = byte.toNat ∧
      encode (String.singleton character) = [byte] := by
  rcases ends with rfl | rfl
  · exact ⟨'\n', by decide, by decide, by decide +kernel⟩
  · exact ⟨'\r', by decide, by decide, by decide +kernel⟩

theorem EndsLine.toNat_lt {byte : UInt8} (ends : EndsLine byte) : byte.toNat < 128 := by
  rcases ends with rfl | rfl <;> decide

theorem decode?_eq_some_iff {bytes : Bytes} {text : String} :
    decode? bytes = some text ↔ bytes = encode text :=
  ⟨fun valid => (encode_of_decode? valid).symm, fun whole => whole ▸ decode?_encode text⟩

/-- A text whose encoding ends in a byte below 128 ends in the character of this byte. -/
theorem exists_of_encode_append {bytes : Bytes} {byte : UInt8} {character : Char}
    (ascii : byte.toNat < 128) (same : character.toNat = byte.toNat) {text : String}
    (whole : encode text = bytes ++ [byte]) :
    ∃ start : String, text = start ++ String.singleton character := by
  rw [encode_eq_flatMap] at whole
  obtain nothing | ⟨start, last, characters⟩ := List.eq_nil_or_concat text.toList
  · rw [nothing] at whole
    simp at whole
  · rw [List.concat_eq_append] at characters
    rw [characters, List.flatMap_append, List.flatMap_singleton] at whole
    obtain ⟨front, final, encoded⟩ :=
      (List.eq_nil_or_concat (String.utf8EncodeChar last)).resolve_left (by simp)
    rw [List.concat_eq_append] at encoded
    rw [encoded, ← List.append_assoc] at whole
    obtain rfl : final = byte := List.singleton_inj.mp (List.append_inj' whole rfl).2
    have isLast : character = last := by
      rw [← Char.toNat_inj, same]
      exact ((ascii_mem_utf8EncodeChar_iff ascii).mp (by simp [encoded])).symm
    refine ⟨String.ofList start, ?_⟩
    rw [← String.toList_inj, characters, isLast]
    simp

/-- The end of a line does not decide whether a segment is valid. -/
theorem decode?_append_lineEnd {byte : UInt8} {character : Char} (ascii : byte.toNat < 128)
    (same : character.toNat = byte.toNat) (encoded : encode (String.singleton character) = [byte])
    (segment : Bytes) :
    decode? (segment ++ [byte]) = (decode? segment).map (· ++ String.singleton character) := by
  cases valid : decode? segment with
  | some text =>
    rw [Option.map_some, decode?_eq_some_iff, decode?_eq_some_iff.mp valid, encode_append, encoded]
  | none =>
    refine Option.eq_none_iff_forall_ne_some.mpr fun text validToo => ?_
    have whole := (decode?_eq_some_iff.mp validToo).symm
    obtain ⟨start, rfl⟩ := exists_of_encode_append ascii same whole
    rw [encode_append, encoded] at whole
    rw [decode?_eq_some_iff.mpr (List.append_cancel_right whole).symm] at valid
    cases valid

/-- One more end of a line makes no difference to the line. -/
theorem dropLineEnds_append {character : Char} (ends : isLineEnd character = true) (text : String) :
    dropLineEnds (text ++ String.singleton character) = dropLineEnds text := by
  simp [dropLineEnds, ends]

theorem inputLine_append {byte : UInt8} (ends : EndsLine byte) (segment : Bytes) :
    inputLine (segment ++ [byte]) = inputLine segment := by
  obtain ⟨character, isEnd, same, encoded⟩ := ends.exists_character
  rw [inputLine, decode?_append_lineEnd ends.toNat_lt same encoded, Option.map_map, inputLine]
  exact congrArg (Option.map · (decode? segment)) (funext (dropLineEnds_append isEnd))

/-! ### Items -/

/-- What reading a segment gives: nothing if it is not valid UTF-8, and otherwise its text without
the whole run of line feeds and carriage returns at its end, which has the same words. -/
inductive Item (segment : Bytes) : Option String → Prop where
  | notText (invalid : ∀ text, segment ≠ encode text) : Item segment none
  | line {line ends : String} (whole : segment = encode (line ++ ends))
      (areEnds : ∀ character ∈ ends.toList, character = '\n' ∨ character = '\r')
      (maximal : ∀ last ∈ line.toList.getLast?, last ≠ '\n' ∧ last ≠ '\r')
      (words : Words.ofLine line = Words.ofLine (line ++ ends)) : Item segment (some line)

theorem isLineEnd_iff {character : Char} :
    isLineEnd character = true ↔ character = '\n' ∨ character = '\r' := by
  rw [isLineEnd, Bool.or_eq_true, decide_eq_true_iff, decide_eq_true_iff]

/-- A text is what is left without its line ends, and then these. -/
theorem exists_lineEnds (text : String) :
    ∃ ends : String, text = dropLineEnds text ++ ends ∧
      (∀ character ∈ ends.toList, isLineEnd character = true) ∧
      ∀ last ∈ (dropLineEnds text).toList.getLast?, isLineEnd last = false := by
  refine ⟨String.ofList (text.toList.reverse.takeWhile isLineEnd).reverse, ?_, ?_, ?_⟩
  · rw [← String.toList_inj, String.toList_append, dropLineEnds, String.toList_ofList,
      String.toList_ofList, ← List.reverse_append, List.takeWhile_append_dropWhile,
      List.reverse_reverse]
  · intro character mem
    rw [String.toList_ofList, List.mem_reverse] at mem
    exact List.mem_takeWhile_imp mem
  · intro last mem
    rw [dropLineEnds, String.toList_ofList, List.getLast?_reverse] at mem
    exact eq_false_of_ne_true fun isEnd => by
      have first := List.head?_dropWhile_not isLineEnd text.toList.reverse
      rw [Option.mem_def.mp mem] at first
      simp [isEnd] at first

theorem item_inputLine (segment : Bytes) : Item segment (inputLine segment) := by
  rw [inputLine]
  cases valid : decode? segment with
  | none =>
    refine .notText fun text whole => ?_
    rw [decode?_eq_some_iff.mpr whole] at valid
    cases valid
  | some text =>
    obtain ⟨ends, cut, areEnds, maximal⟩ := exists_lineEnds text
    have blank : Text.Blank ends := by
      intro character mem
      rcases isLineEnd_iff.mp (areEnds character mem) with rfl | rfl <;> decide
    refine @Item.line _ _ ends ?_ (fun character mem => isLineEnd_iff.mp (areEnds character mem)) ?_
      (Words.ofLine_append_blanks blank _).symm
    · rw [← cut, decode?_eq_some_iff.mp valid]
    · intro last mem
      have other := maximal last mem
      exact not_or.mp (mt isLineEnd_iff.mpr (by rw [other]; exact Bool.false_ne_true))

/-- A text is read as a line with the same words. -/
theorem exists_inputLine (text : String) :
    ∃ line, inputLine (encode text) = some line ∧ Words.ofLine line = Words.ofLine text := by
  have item := item_inputLine (encode text)
  generalize inputLine (encode text) = read at item
  cases item with
  | notText invalid => exact absurd rfl (invalid text)
  | line whole areEnds maximal words =>
    obtain rfl := encode_inj.mp whole
    exact ⟨_, rfl, words⟩

/-! ### Other ends of lines -/

/-- A script in which each line feed has a carriage return before it. -/
def withReturns (script : Bytes) : Bytes :=
  script.flatMap fun byte => if byte = lineFeed then [carriageReturn, lineFeed] else [byte]

theorem withReturns_of_notMem {bytes : Bytes} (unended : lineFeed ∉ bytes) :
    withReturns bytes = bytes := by
  induction bytes with
  | nil => rfl
  | cons byte rest inductionHypothesis =>
    rw [List.mem_cons, not_or] at unended
    have kept := inductionHypothesis unended.2
    rw [withReturns] at kept
    rw [withReturns, List.flatMap_cons, if_neg (Ne.symm unended.1), kept, List.singleton_append]

theorem inputLines_ended {body : Bytes} (unended : lineFeed ∉ body) (rest : Bytes) :
    inputLines (body ++ lineFeed :: rest) = inputLine body :: inputLines rest := by
  rw [inputLines, cutAfter_append_mark unended, List.map_cons, inputLine_append (.inl rfl),
    inputLines]

/-- Carriage returns before line feeds make no difference to the lines. -/
theorem inputLines_withReturns (script : Bytes) :
    inputLines (withReturns script) = inputLines script := by
  obtain ⟨segments, cut⟩ : ∃ segments, Segments script segments := ⟨_, segments_cutAfter script⟩
  induction cut with
  | nil => rfl
  | tail nonempty unended => rw [withReturns_of_notMem unended]
  | @ended body rest segments unended later inductionHypothesis =>
    have returned : withReturns (body ++ lineFeed :: rest) =
        body ++ [carriageReturn] ++ lineFeed :: withReturns rest := by
      rw [withReturns, List.flatMap_append, ← withReturns, withReturns_of_notMem unended,
        List.append_assoc]
      rfl
    have unendedToo : lineFeed ∉ body ++ [carriageReturn] := by
      rw [List.mem_append, not_or]
      exact ⟨unended, by decide⟩
    rw [returned, inputLines_ended unendedToo, inputLines_ended unended,
      inputLine_append (.inr rfl), inductionHypothesis]

/-- A line feed at the end makes no difference if a last line has none. -/
theorem inputLines_append_lineFeed {script : Bytes} (nonempty : script ≠ [])
    (unended : script.getLast? ≠ some lineFeed) :
    inputLines (script ++ [lineFeed]) = inputLines script := by
  obtain ⟨segments, cut⟩ : ∃ segments, Segments script segments := ⟨_, segments_cutAfter script⟩
  induction cut with
  | nil => exact absurd rfl nonempty
  | @tail bytes nonempty absent =>
    rw [inputLines_ended absent, inputLines, inputLines, cutAfter_of_notMem absent nonempty]
    rfl
  | @ended body rest segments absent later inductionHypothesis =>
    have further : rest ≠ [] := by
      rintro rfl
      simp at unended
    have unendedToo : rest.getLast? ≠ some lineFeed := by
      rwa [List.getLast?_append_of_ne_nil _ (List.cons_ne_nil _ _), List.getLast?_cons_of_ne_nil
        further] at unended
    rw [List.append_assoc, List.cons_append, inputLines_ended absent, inputLines_ended absent,
      inductionHypothesis further unendedToo]

/-- Whether a script is another one in which line feeds were given carriage returns, or the last
line was given a line feed. -/
inductive Rewritten (script : Bytes) : Bytes → Prop where
  | returns : Rewritten script (withReturns script)
  | lastFeed (nonempty : script ≠ []) (unended : script.getLast? ≠ some lineFeed) :
      Rewritten script (script ++ [lineFeed])

theorem Rewritten.inputLines_eq {script other : Bytes} (rewritten : Rewritten script other) :
    inputLines other = inputLines script := by
  cases rewritten with
  | returns => exact inputLines_withReturns script
  | lastFeed nonempty unended => exact inputLines_append_lineFeed nonempty unended

end Text

/-! ### Reading until nothing is left -/

namespace Session

variable {σ : Type} {system : System σ} {Sound : σ → Prop}

/-- Reading line after line, until there is none, gives these items. `unread` was read before. -/
inductive Yields (system : System σ) : (unread : Bytes) → σ → List (Option String) → Prop where
  | done {unread left : Bytes} {world next : σ}
      (takes : takeLine system ((system.input world).length + 1) unread world =
        (none, left, next)) : Yields system unread world []
  | item {unread segment left : Bytes} {world next : σ} {items : List (Option String)}
      (takes : takeLine system ((system.input world).length + 1) unread world =
        (some segment, left, next)) (later : Yields system left next items) :
      Yields system unread world (Text.inputLine segment :: items)

theorem yields_inputLines
    (skips : ∀ count world, Sound world → Sound (system.skipInput count world) ∧
      system.input (system.skipInput count world) = (system.input world).drop count)
    (unread : Bytes) {world : σ} (sound : Sound world) :
    Yields system unread world (Text.inputLines (unread ++ system.input world)) := by
  induction length : (unread ++ system.input world).length using Nat.strong_induction_on
    generalizing unread world with
  | _ size inductionHypothesis =>
    obtain ⟨line, left, blocks, takes, soundAfter, reads⟩ :=
      @takeLine_reads _ _ _ skips _ unread _ sound (Nat.lt_succ_self _)
    generalize isAvailable : unread ++ system.input world = available at reads length ⊢
    generalize isRemaining : left ++ system.input (skipBlocks system blocks world) = remaining
      at reads
    cases line with
    | none =>
      cases reads
      exact .done takes
    | some segment =>
      have less : remaining.length < size := length ▸ reads.length_lt
      rw [reads.inputLines_eq, ← isRemaining]
      exact .item takes
        (inductionHypothesis remaining.length less left soundAfter (congrArg _ isRemaining))

theorem Yields.unique {unread : Bytes} {world : σ} {items others : List (Option String)}
    (yields : Yields system unread world items) (yieldsToo : Yields system unread world others) :
    others = items := by
  induction yields generalizing others with
  | done takes =>
    cases yieldsToo with
    | done => rfl
    | item takesToo => cases takes.symm.trans takesToo
  | item takes later inductionHypothesis =>
    cases yieldsToo with
    | done takesToo => cases takes.symm.trans takesToo
    | item takesToo laterToo =>
      cases takes.symm.trans takesToo
      rw [inductionHypothesis laterToo]

/-- What reading until nothing is left comes to. -/
structure ReadsAll (system : System σ) (unread : Bytes) (world : σ) : Prop where
  /-- What is to come has segments. -/
  segmented : ∃ segments, Text.Segments (unread ++ system.input world) segments
  /-- Reading ends. -/
  ends : ∃ items, Yields system unread world items
  /-- There is one item for each segment, in order. -/
  items : ∀ segments items, Text.Segments (unread ++ system.input world) segments →
    Yields system unread world items → List.Forall₂ Text.Item segments items

theorem readsAll
    (skips : ∀ count world, Sound world → Sound (system.skipInput count world) ∧
      system.input (system.skipInput count world) = (system.input world).drop count)
    (unread : Bytes) {world : σ} (sound : Sound world) : ReadsAll system unread world where
  segmented := ⟨_, Text.segments_cutAfter _⟩
  ends := ⟨_, yields_inputLines skips unread sound⟩
  items := by
    intro segments items cut yields
    rw [(yields_inputLines skips unread sound).unique yields, cut.eq_cutAfter, Text.inputLines,
      List.forall₂_map_right_iff, List.forall₂_same]
    exact fun segment _ => Text.item_inputLine segment

end Session

end PipelineShell
