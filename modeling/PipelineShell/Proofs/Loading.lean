/-
Reading settings from a file.

A settings file is cut into lines twice. First its bytes are cut, and each line is decoded and loses
its terminator; then the lines are ended by line feeds again, and the text that they make is cut
once more. As no byte of a longer encoding is a line feed, the first cut is that of the text which
the file holds. The second one finds the lines as they are, except that it takes a carriage return
which was left at the end of a line for part of a terminator.

So a file gives the settings that its text gives if no line of the text ends in a carriage return,
and otherwise one carriage return more is lost at the end of each such line.
-/

import PipelineShell.Proofs.Handover
import PipelineShell.Proofs.Places
import PipelineShell.Startup

namespace PipelineShell

namespace Text

/-! ### Cutting after marks -/

section

variable {α : Type} [DecidableEq α] {mark : α}

theorem addToPieces_mark (pieces : List (List α)) :
    addToPieces mark mark pieces = [mark] :: pieces := by
  cases pieces with
  | nil => rfl
  | cons piece others => exact if_pos rfl

theorem addToPieces_cons_of_ne {item : α} (different : item ≠ mark) (piece : List α)
    (others : List (List α)) :
    addToPieces mark item (piece :: others) = (item :: piece) :: others := if_neg different

theorem cutAfter_append_mark {body : List α} (absent : mark ∉ body) (rest : List α) :
    cutAfter mark (body ++ mark :: rest) = (body ++ [mark]) :: cutAfter mark rest := by
  induction body with
  | nil => exact addToPieces_mark _
  | cons item body inductionHypothesis =>
    rw [List.mem_cons, not_or] at absent
    rw [List.cons_append, cutAfter_cons, inductionHypothesis absent.2,
      addToPieces_cons_of_ne (Ne.symm absent.1)]
    rfl

/-- What holds no mark is not cut, and joins the first piece of what follows it. -/
theorem cutAfter_append_of_notMem {body : List α} (absent : mark ∉ body) (nonempty : body ≠ [])
    (rest : List α) :
    cutAfter mark (body ++ rest) =
      (body ++ (cutAfter mark rest).headD []) :: (cutAfter mark rest).tail := by
  induction body with
  | nil => exact absurd rfl nonempty
  | cons item body inductionHypothesis =>
    rw [List.mem_cons, not_or] at absent
    rw [List.cons_append, cutAfter_cons]
    by_cases last : body = []
    · subst last
      rw [List.nil_append]
      cases cutAfter mark rest with
      | nil => rfl
      | cons piece others => exact addToPieces_cons_of_ne (Ne.symm absent.1) piece others
    · rw [inductionHypothesis absent.2 last, addToPieces_cons_of_ne (Ne.symm absent.1)]
      rfl

/-- What holds no mark is one piece. -/
theorem cutAfter_of_notMem {body : List α} (absent : mark ∉ body) (nonempty : body ≠ []) :
    cutAfter mark body = [body] := by
  have cut := cutAfter_append_of_notMem absent nonempty []
  rwa [List.append_nil, cutAfter_nil, List.headD_nil, List.append_nil] at cut

/-- Pieces end in a mark, except perhaps the last one, and hold no other mark. -/
theorem exists_body_of_mem_cutAfter {items piece : List α} (mem : piece ∈ cutAfter mark items) :
    ∃ body, mark ∉ body ∧ (piece = body ++ [mark] ∨ piece = body) := by
  induction items generalizing piece with
  | nil => cases mem
  | cons item rest inductionHypothesis =>
    rw [cutAfter_cons] at mem
    by_cases same : item = mark
    · subst same
      rw [addToPieces_mark] at mem
      rcases List.mem_cons.mp mem with rfl | later
      · exact ⟨[], List.not_mem_nil, .inl rfl⟩
      · exact inductionHypothesis later
    · cases cut : cutAfter mark rest with
      | nil =>
        rw [cut] at mem
        obtain rfl : piece = [item] := List.mem_singleton.mp mem
        exact ⟨[item], by simpa using Ne.symm same, .inr rfl⟩
      | cons first others =>
        rw [cut, addToPieces_cons_of_ne same] at mem
        rcases List.mem_cons.mp mem with rfl | later
        · obtain ⟨body, absent, ended⟩ := inductionHypothesis (cut ▸ List.mem_cons_self)
          have absentToo : mark ∉ item :: body := by
            rw [List.mem_cons, not_or]
            exact ⟨Ne.symm same, absent⟩
          rcases ended with rfl | rfl
          · exact ⟨item :: body, absentToo, .inl rfl⟩
          · exact ⟨item :: first, absentToo, .inr rfl⟩
        · exact inductionHypothesis (cut ▸ List.mem_cons_of_mem first later)

/-- Lines that are each ended by a mark are found again. -/
theorem cutAfter_flatMap {lines : List (List α)} (absent : ∀ line ∈ lines, mark ∉ line) :
    cutAfter mark (lines.flatMap fun line => line ++ [mark]) =
      lines.map fun line => line ++ [mark] := by
  induction lines with
  | nil => rfl
  | cons line lines inductionHypothesis =>
    rw [List.forall_mem_cons] at absent
    rw [List.flatMap_cons, List.append_assoc, List.singleton_append,
      cutAfter_append_mark absent.1, inductionHypothesis absent.2, List.map_cons]

end

/-! ### Lines of bytes and lines of characters -/

theorem lineFeed_mem_utf8EncodeChar_iff {character : Char} :
    lineFeed ∈ String.utf8EncodeChar character ↔ character = '\n' := by
  have same : lineFeed.toNat = '\n'.toNat := by decide
  rw [ascii_mem_utf8EncodeChar_iff (by decide), same, Char.toNat_inj]

/-- Cutting the bytes of a text after line feeds is cutting the text. -/
theorem cutAfter_lineFeed_flatMap (characters : List Char) :
    cutAfter lineFeed (characters.flatMap String.utf8EncodeChar) =
      (cutAfter '\n' characters).map fun line => line.flatMap String.utf8EncodeChar := by
  induction characters with
  | nil => rfl
  | cons character rest inductionHypothesis =>
    rw [List.flatMap_cons, cutAfter_cons]
    by_cases feed : character = '\n'
    · subst feed
      have single : String.utf8EncodeChar '\n' = [lineFeed] := by decide
      rw [single, List.singleton_append, cutAfter_cons, addToPieces_mark, inductionHypothesis,
        addToPieces_mark, List.map_cons, List.flatMap_singleton, single]
    · have absent : lineFeed ∉ String.utf8EncodeChar character :=
        mt lineFeed_mem_utf8EncodeChar_iff.mp feed
      rw [cutAfter_append_of_notMem absent (by simp), inductionHypothesis]
      cases cutAfter '\n' rest with
      | nil => simp [addToPieces]
      | cons line others => simp [addToPieces_cons_of_ne feed]

theorem cutAfter_encode (text : String) :
    cutAfter lineFeed (encode text) =
      (cutAfter '\n' text.toList).map fun line => encode (String.ofList line) := by
  rw [encode_eq_flatMap, cutAfter_lineFeed_flatMap]
  refine List.map_congr_left fun line _ => ?_
  rw [encode_eq_flatMap, String.toList_ofList]

/-- Bytes that are valid UTF-8 are the encoding of their text. -/
theorem encode_of_decode? {bytes : Bytes} {text : String} (valid : decode? bytes = some text) :
    encode text = bytes := by
  unfold decode? String.fromUTF8? at valid
  split at valid
  · cases valid
    rfl
  · cases valid

/-! ### Terminators -/

/-- Drops one carriage return at the end of a line. -/
def dropReturn (line : String) : String :=
  if line.toList.getLast? = some '\r' then String.ofList line.toList.dropLast else line

theorem dropReturn_of_ne {line : String} (other : line.toList.getLast? ≠ some '\r') :
    dropReturn line = line := if_neg other

theorem dropTerminator_append (body : List Char) :
    String.ofList (dropTerminator (body ++ ['\n'])) = dropReturn (String.ofList body) := by
  unfold dropTerminator dropReturn
  rw [String.toList_ofList]
  obtain rfl | ⟨rest, last, rfl⟩ := List.eq_nil_or_concat body
  · rfl
  · by_cases isReturn : last = '\r'
    · subst isReturn
      simp
    · simp [isReturn]

theorem dropTerminator_of_notMem {body : List Char} (absent : '\n' ∉ body) :
    dropTerminator body = body := by
  unfold dropTerminator
  split
  · rename_i rest found
    exact absurd (List.mem_reverse.mp (found ▸ List.mem_cons_self)) absent
  · rename_i rest _ found
    exact absurd (List.mem_reverse.mp (found ▸ List.mem_cons_self)) absent
  · rfl

theorem toList_dropReturn_subset (line : String) :
    ∀ character ∈ (dropReturn line).toList, character ∈ line.toList := by
  intro character mem
  unfold dropReturn at mem
  split at mem
  · rw [String.toList_ofList] at mem
    exact List.dropLast_subset _ mem
  · exact mem

/-- A line of a text holds no line feed. -/
theorem lineFeed_notMem_of_mem_textLines {text line : String} (mem : line ∈ textLines text) :
    '\n' ∉ line.toList := by
  obtain ⟨piece, pieceMem, rfl⟩ := List.mem_map.mp mem
  obtain ⟨body, absent, rfl | rfl⟩ := exists_body_of_mem_cutAfter pieceMem
  · intro inside
    rw [dropTerminator_append] at inside
    have inBody := toList_dropReturn_subset _ _ inside
    rw [String.toList_ofList] at inBody
    exact absent inBody
  · rw [dropTerminator_of_notMem absent, String.toList_ofList]
    exact absent

/-- Lines that are ended by line feeds are found again, but for a carriage return that then comes
before the line feed. -/
theorem textLines_join {lines : List String} (absent : ∀ line ∈ lines, '\n' ∉ line.toList) :
    textLines (String.join (lines.map (· ++ "\n"))) = lines.map dropReturn := by
  have characters : (String.join (lines.map (· ++ "\n"))).toList =
      (lines.map String.toList).flatMap fun line => line ++ ['\n'] := by
    rw [String.toList_join, List.flatMap_map, List.flatMap_map]
    refine List.flatMap_congr fun line _ => ?_
    rw [String.toList_append]
    rfl
  have absentToo : ∀ line ∈ lines.map String.toList, '\n' ∉ line := by
    rwa [List.forall_mem_map]
  rw [textLines, characters, cutAfter_flatMap absentToo, List.map_map, List.map_map]
  refine List.map_congr_left fun line _ => ?_
  exact (dropTerminator_append line.toList).trans (by rw [String.ofList_toList])

end Text

namespace Settings

/-- What is read from a file that holds a text: its lines, ended by line feeds. -/
theorem fileText_encode (text : String) :
    fileText (Text.encode text) = .ok (String.join ((Text.textLines text).map (· ++ "\n"))) := by
  have found (line : List Char) : Text.decode? (Text.encode (String.ofList line)) =
      some (String.ofList line) := Text.decode?_encode _
  rw [fileText, (@mapM_eq_ok_iff _ _ _ _ _ (Text.textLines text)).mpr]
  · rfl
  · rw [Text.cutAfter_encode, Text.textLines, List.forall₂_map_left_iff,
      List.forall₂_map_right_iff, List.forall₂_same]
    intro line _
    rw [found]
    dsimp only
    rw [String.toList_ofList]

/-- A file that holds a text gives what the lines of the text give, each without a carriage return
that is left at its end. -/
theorem ofFile_encode (text : String) :
    ofFile (Text.encode text) =
      readLines .default 1 ((Text.textLines text).map Text.dropReturn) := by
  have reread := Text.textLines_join fun line (mem : line ∈ Text.textLines text) =>
    Text.lineFeed_notMem_of_mem_textLines mem
  simp only [ofFile, fileText_encode, bind, Except.bind]
  rw [ofText, reread]

end Settings

namespace Startup

theorem load_eq_ofFile {path : String} {machine : Machine} {bytes contents : Bytes}
    (named : systemPath path = .ok bytes)
    (reads : machine.readPath .standard machine.directory bytes = .ok contents) :
    load path machine = Settings.ofFile contents := by
  simp only [load, named, reads]

/-- A file that holds a text gives the settings of the text if none of its lines ends in a carriage
return. In any case it gives what the lines give when one carriage return is dropped at the end of
each that has one, be it settings or the first bad line. -/
theorem load_text {path : String} {machine : Machine} {bytes contents : Bytes} {text : String}
    (named : systemPath path = .ok bytes)
    (reads : machine.readPath .standard machine.directory bytes = .ok contents)
    (valid : Text.decode? contents = some text) :
    load path machine =
        Settings.readLines .default 1 ((Text.textLines text).map Text.dropReturn) ∧
      ((∀ line ∈ Text.textLines text, line.toList.getLast? ≠ some '\r') →
        load path machine = Settings.ofText text) := by
  have whole : load path machine =
      Settings.readLines .default 1 ((Text.textLines text).map Text.dropReturn) := by
    rw [load_eq_ofFile named reads, ← Text.encode_of_decode? valid, Settings.ofFile_encode]
  refine ⟨whole, fun others => ?_⟩
  have kept : (Text.textLines text).map Text.dropReturn = Text.textLines text :=
    (List.map_congr_left fun line mem => Text.dropReturn_of_ne (others line mem)).trans
      (List.map_id _)
  rw [whole, kept, Settings.ofText]

theorem readPath_holding (text : String) :
    (Machine.holding "settings" (Text.encode text)).readPath .standard [] (Text.encode "settings") =
      .ok (Text.encode text) := by
  let tree : FileTree := (Machine.holding "settings" (Text.encode text)).tree
  have held : tree.get? ([] ++ [Text.encode "settings"]) = some (.file (Text.encode text) 0o644) :=
    FileTree.get?_put_self ⟨[]⟩ (List.cons_ne_nil _ _) _
  have path : Path.ofBytes (Text.encode "settings") = ⟨false, [Text.encode "settings"], false⟩ := by
    decide +kernel
  have resolved : tree.resolve false [] (Text.encode "settings") =
      .ok (.found [Text.encode "settings"] (.file (Text.encode text) 0o644)) := by
    rw [FileTree.resolve, if_neg (by decide +kernel), if_neg (by decide +kernel), path]
    show tree.follow false FileTree.linkLimit [] false [Text.encode "settings"] = _
    rw [follow_name tree (by decide +kernel) (by decide +kernel) (by simp) (by decide +kernel),
      held]
    rfl
  have found : tree.find [] (Text.encode "settings") =
      .ok ([Text.encode "settings"], .file (Text.encode text) 0o644) := by
    rw [FileTree.find, resolved]
  rw [Kernel.readPath, Kernel.find, found]
  rfl

/-- Lines may end in either way, and the last one need not end at all. -/
theorem load_mixedLines :
    let text := "prompt=> \r\n\n# none\nenv.NAME= value"
    systemPath "settings" = .ok (Text.encode "settings") ∧
      (Machine.holding "settings" (Text.encode text)).readPath .standard []
        (Text.encode "settings") = .ok (Text.encode text) ∧
      Text.decode? (Text.encode text) = some text ∧
      (∀ line ∈ Text.textLines text, line.toList.getLast? ≠ some '\r') ∧
      load "settings" (Machine.holding "settings" (Text.encode text)) = Settings.ofText text ∧
      Settings.ofText text =
        .ok { Settings.default with prompt := "> ", definitions := [("NAME", " value")] } := by
  intro text
  have reads := readPath_holding text
  have lines : Text.textLines text = ["prompt=> ", "", "# none", "env.NAME= value"] := by
    decide +kernel
  have others : ∀ line ∈ Text.textLines text, line.toList.getLast? ≠ some '\r' := by
    simp [lines]
  have valid := Text.decode?_encode text
  refine ⟨rfl, reads, valid, others, (load_text rfl reads valid).2 others, ?_⟩
  rw [Settings.ofText, lines]
  rfl

/-- The text says that the value of the variable ends in a carriage return, and the file that holds
just this text says that it does not. -/
theorem load_loses_return :
    load "settings" (Machine.holding "settings" (Text.encode "env.NAME=value\r")) =
        .ok { Settings.default with definitions := [("NAME", "value")] } ∧
      Settings.ofText "env.NAME=value\r" =
        .ok { Settings.default with definitions := [("NAME", "value\r")] } := by
  have lines : Text.textLines "env.NAME=value\r" = ["env.NAME=value\r"] := by decide +kernel
  constructor
  · rw [load_eq_ofFile rfl (readPath_holding _), Settings.ofFile_encode, lines]
    rfl
  · rw [Settings.ofText, lines]
    rfl

end Startup

end PipelineShell
