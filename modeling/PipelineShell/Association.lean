/-
Finite maps, written as lists of pairs.

The variable store, the descriptor tables and the file tree are all finite maps whose order an
answer may show, so each is a list of pairs, and this file holds the three operations they share:
looking a key up, putting a value at a key, and erasing a key. Putting changes the pair in place or
adds one at the end, so a list whose keys are distinct keeps them distinct.
-/

namespace PipelineShell.Association

variable {α β : Type} [DecidableEq α]

/-- The value of the first pair with this key. -/
def get? (key : α) : List (α × β) → Option β
  | [] => none
  | (other, value) :: rest => if other = key then some value else get? key rest

/-- Gives the first pair with this key a new value, or adds a pair at the end if there is none. -/
def put (key : α) (value : β) : List (α × β) → List (α × β)
  | [] => [(key, value)]
  | (other, old) :: rest =>
    if other = key then (key, value) :: rest else (other, old) :: put key value rest

/-- Drops every pair with this key. -/
def erase (key : α) (pairs : List (α × β)) : List (α × β) :=
  pairs.filter fun pair => pair.1 ≠ key

/-- The keys, in the order of the pairs. -/
def keys (pairs : List (α × β)) : List α := pairs.map Prod.fst

omit [DecidableEq α] in
@[simp] theorem keys_nil : keys ([] : List (α × β)) = [] := rfl

omit [DecidableEq α] in
@[simp] theorem keys_cons (pair : α × β) (rest : List (α × β)) :
    keys (pair :: rest) = pair.1 :: keys rest := rfl

/-! ### Looking up after a change -/

@[simp] theorem get?_put_self (key : α) (value : β) (pairs : List (α × β)) :
    get? key (put key value pairs) = some value := by
  induction pairs with
  | nil => simp [put, get?]
  | cons pair rest inductionHypothesis =>
    obtain ⟨other, old⟩ := pair
    by_cases same : other = key <;> simp [put, get?, same, inductionHypothesis]

theorem get?_put_of_ne {key asked : α} (different : asked ≠ key) (value : β)
    (pairs : List (α × β)) : get? asked (put key value pairs) = get? asked pairs := by
  induction pairs with
  | nil => simp [put, get?, different.symm]
  | cons pair rest inductionHypothesis =>
    obtain ⟨other, old⟩ := pair
    by_cases same : other = key
    · subst same
      simp [put, get?, different.symm]
    · by_cases asks : other = asked
      · subst asks
        simp [put, get?, same]
      · simp [put, get?, same, asks, inductionHypothesis]

theorem get?_erase_of_ne {key asked : α} (different : asked ≠ key) (pairs : List (α × β)) :
    get? asked (erase key pairs) = get? asked pairs := by
  induction pairs with
  | nil => rfl
  | cons pair rest inductionHypothesis =>
    obtain ⟨other, old⟩ := pair
    by_cases same : other = key
    · subst same
      simpa [erase, get?, different.symm] using inductionHypothesis
    · by_cases asks : other = asked
      · subst asks
        simp [erase, get?, same]
      · simpa [erase, get?, same, asks] using inductionHypothesis

theorem get?_eq_none_iff {key : α} {pairs : List (α × β)} :
    get? key pairs = none ↔ key ∉ keys pairs := by
  induction pairs with
  | nil => simp [get?]
  | cons pair rest inductionHypothesis =>
    obtain ⟨other, old⟩ := pair
    by_cases same : other = key
    · simp [get?, same]
    · simp [get?, same, inductionHypothesis, Ne.symm same]

theorem mem_of_get? {key : α} {value : β} {pairs : List (α × β)}
    (found : get? key pairs = some value) : (key, value) ∈ pairs := by
  induction pairs with
  | nil => cases found
  | cons pair rest inductionHypothesis =>
    obtain ⟨other, old⟩ := pair
    rw [get?] at found
    split at found
    · rename_i same
      rw [← same, ← Option.some.inj found]
      exact List.mem_cons_self
    · exact List.mem_cons_of_mem _ (inductionHypothesis found)

/-! ### The pairs and the keys after a change -/

theorem eq_or_mem_of_mem_put {key : α} {value : β} {pairs : List (α × β)} {pair : α × β}
    (mem : pair ∈ put key value pairs) : pair = (key, value) ∨ pair ∈ pairs := by
  induction pairs with
  | nil => exact .inl (List.mem_singleton.mp mem)
  | cons first rest inductionHypothesis =>
    obtain ⟨other, old⟩ := first
    simp only [put] at mem
    split at mem
    · rcases List.mem_cons.mp mem with rfl | later
      · exact .inl rfl
      · exact .inr (List.mem_cons_of_mem _ later)
    · rcases List.mem_cons.mp mem with rfl | later
      · exact .inr List.mem_cons_self
      · exact (inductionHypothesis later).imp_right (List.mem_cons_of_mem _)

theorem put_of_notMem {key : α} {pairs : List (α × β)} (absent : key ∉ keys pairs) (value : β) :
    put key value pairs = pairs ++ [(key, value)] := by
  induction pairs with
  | nil => rfl
  | cons pair rest inductionHypothesis =>
    obtain ⟨other, old⟩ := pair
    rw [keys_cons, List.mem_cons, not_or] at absent
    rw [put, if_neg (Ne.symm absent.1), inductionHypothesis absent.2, List.cons_append]

theorem keys_put (key : α) (value : β) (pairs : List (α × β)) :
    keys (put key value pairs) = if key ∈ keys pairs then keys pairs else keys pairs ++ [key] := by
  induction pairs with
  | nil => simp [put]
  | cons pair rest inductionHypothesis =>
    obtain ⟨other, old⟩ := pair
    by_cases same : other = key
    · simp [put, same]
    · by_cases later : key ∈ keys rest <;>
        simp [put, same, Ne.symm same, inductionHypothesis, later]

theorem nodup_keys_put {pairs : List (α × β)} (distinct : (keys pairs).Nodup) (key : α)
    (value : β) : (keys (put key value pairs)).Nodup := by
  rw [keys_put]
  split
  · exact distinct
  · rename_i absent
    rw [List.nodup_append]
    refine ⟨distinct, by simp, ?_⟩
    intro earlier mem later last
    rw [List.mem_singleton] at last
    rintro rfl
    exact absent (last ▸ mem)

/-- Erasing a key does not matter to how often another one is there. -/
theorem count_keys_erase_of_ne {key asked : α} (different : asked ≠ key) (pairs : List (α × β)) :
    (keys (erase key pairs)).count asked = (keys pairs).count asked := by
  have filtered : keys (erase key pairs) = (keys pairs).filter fun other => other ≠ key := by
    rw [erase, keys, keys, List.filter_map]
    rfl
  rw [filtered, List.count_filter (by simpa using different)]

end PipelineShell.Association
