/-
Cutting a list at marks.

Search paths are cut at colons, file names at slashes and command lines at vertical bars. The marks
belong to no piece, and there is always one piece more than there are marks.
-/

namespace PipelineShell.Text

variable {α : Type}

/-- The pieces between the items that are marks. -/
def pieces (isMark : α → Bool) : List α → List (List α)
  | [] => [[]]
  | item :: rest =>
    if isMark item then [] :: pieces isMark rest
    else
      match pieces isMark rest with
      | [] => [[item]]
      | piece :: others => (item :: piece) :: others

/-- The parts of a list that have some size, of which only the last one may be smaller. -/
def chunks (size : Nat) (items : List α) : List (List α) :=
  (List.range ((items.length + size - 1) / size)).map fun index =>
    (items.drop (index * size)).take size

theorem pieces_ne_nil (isMark : α → Bool) (items : List α) : pieces isMark items ≠ [] := by
  cases items with
  | nil => simp [pieces]
  | cons item rest =>
    simp only [pieces]
    split
    · simp
    · split <;> simp

/-- There is one piece more than there are marks. -/
theorem length_pieces (isMark : α → Bool) (items : List α) :
    (pieces isMark items).length = 1 + items.countP isMark := by
  induction items with
  | nil => rfl
  | cons item rest inductionHypothesis =>
    simp only [pieces, List.countP_cons]
    split
    · rename_i marked
      simp only [List.length_cons, inductionHypothesis]
      omega
    · rename_i unmarked
      split
      · rename_i empty
        exact absurd empty (pieces_ne_nil isMark rest)
      · rename_i piece others cut
        rw [cut] at inductionHypothesis
        simpa using inductionHypothesis

/-- No piece holds a mark. -/
theorem not_isMark_of_mem_pieces {isMark : α → Bool} {items piece : List α}
    (mem : piece ∈ pieces isMark items) : ∀ item ∈ piece, isMark item = false := by
  induction items generalizing piece with
  | nil => simp_all [pieces]
  | cons first rest inductionHypothesis =>
    simp only [pieces] at mem
    split at mem
    · rcases List.mem_cons.mp mem with rfl | later
      · simp
      · exact inductionHypothesis later
    · rename_i unmarked
      split at mem
      · simp_all
      · rename_i head others cut
        rcases List.mem_cons.mp mem with rfl | later
        · intro item inside
          rcases List.mem_cons.mp inside with rfl | inside
          · simpa using unmarked
          · exact inductionHypothesis (cut ▸ List.mem_cons_self) item inside
        · exact inductionHypothesis (cut ▸ List.mem_cons_of_mem head later)

/-- What is no mark is in a list exactly if it is in one of its pieces. -/
theorem mem_iff_exists_mem_pieces {isMark : α → Bool} {items : List α} {item : α}
    (unmarked : isMark item = false) :
    item ∈ items ↔ ∃ piece ∈ pieces isMark items, item ∈ piece := by
  induction items with
  | nil => simp [pieces]
  | cons first rest inductionHypothesis =>
    rw [List.mem_cons, inductionHypothesis, pieces]
    split
    · rename_i marked
      have different : item ≠ first := by
        rintro rfl
        exact absurd marked (by rw [unmarked]; exact Bool.false_ne_true)
      simp [different]
    · split
      · rename_i empty
        exact absurd empty (pieces_ne_nil isMark rest)
      · rename_i piece others cut
        simp [cut, or_assoc]

end PipelineShell.Text
