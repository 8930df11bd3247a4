/-
The variable store.

A variable has a name, a value and an export mark; the exported ones are handed to every program
that the shell starts, each as `NAME=value`. Setting a variable keeps its mark, and exporting one
that is not defined does nothing. The store lists each name once, in the order of definition.
-/

import PipelineShell.Association
import PipelineShell.Text.Bytes

namespace PipelineShell

/-- Splits `NAME=value` at the first equals sign. The name may not be empty. -/
def splitAssignment? (word : String) : Option (String × String) :=
  let characters := word.toList
  match characters.span (· ≠ '=') with
  | (name, _ :: value) => if name = [] then none else some (String.ofList name, String.ofList value)
  | (_, []) => none

/-- Splits an entry that a process was started with at its first equals sign. One that the entry
starts with belongs to the name. -/
def splitEntry? (entry : String) : Option (String × String) :=
  match entry.toList with
  | [] => none
  | first :: rest =>
    match rest.span (· ≠ '=') with
    | (name, _ :: value) => some (String.ofList (first :: name), String.ofList value)
    | (_, []) => none

/-- The value of a variable, and whether programs get to see it. -/
structure Variable where
  value : String
  exported : Bool
  deriving DecidableEq, Repr

/-- The store: each name once, in the order of definition. -/
structure Variables where
  entries : List (String × Variable)
  distinct : (Association.keys entries).Nodup

/-- A variable that cannot be handed to a program: its entry holds a zero byte at this offset. -/
structure NulByte where
  offset : Nat
  deriving DecidableEq, Repr

/-- How a zero byte in a string is reported. -/
def NulByte.message (fault : NulByte) : String :=
  "nul byte found in provided data at position: " ++ toString fault.offset

/-- The bytes, provided that none of them is zero. -/
def nulFree (bytes : Bytes) : Except NulByte Bytes :=
  match Text.nulOffset? bytes with
  | none => .ok bytes
  | some offset => .error ⟨offset⟩

namespace Variables

/-- The store without variables. -/
def empty : Variables := ⟨[], by simp⟩

/-- What is stored under a name. -/
def find? (store : Variables) (name : String) : Option Variable :=
  Association.get? name store.entries

/-- The value of a variable. -/
def get? (store : Variables) (name : String) : Option String := (store.find? name).map (·.value)

/-- Stores a variable under a name, in place of what was there. -/
def insert (store : Variables) (name : String) (entry : Variable) : Variables :=
  ⟨Association.put name entry store.entries,
    Association.nodup_keys_put store.distinct name entry⟩

/-- Gives a variable a value. A new variable is not exported; an old one keeps its mark. -/
def set (store : Variables) (name value : String) : Variables :=
  let exported := ((store.find? name).map (·.exported)).getD false
  store.insert name ⟨value, exported⟩

/-- Marks a variable as exported, if it is defined. -/
def mark (store : Variables) (name : String) : Variables :=
  match store.find? name with
  | none => store
  | some entry => store.insert name { entry with exported := true }

/-- Sets and exports the variable that `NAME=value` names. Any other word is refused. -/
def assign? (store : Variables) (word : String) : Option Variables :=
  (splitAssignment? word).map fun (name, value) => (store.set name value).mark name

/-- An entry as a program receives it. -/
def encodeEntry (name value : String) : Bytes := Text.encode (name ++ "=" ++ value)

/-- The entries of the exported variables, provided that none of them holds a zero byte. -/
def environment (store : Variables) : Except NulByte (List Bytes) :=
  (store.entries.filter (·.2.exported)).mapM fun (name, entry) =>
    nulFree (encodeEntry name entry.value)

/-- Sets and exports each of the given variables, in order. -/
def exportAll (store : Variables) (settings : List (String × String)) : Variables :=
  settings.foldl (fun current (name, value) => (current.set name value).mark name) store

/-! ### What each operation does to a look-up -/

@[simp] theorem find?_empty (name : String) : empty.find? name = none := rfl

@[simp] theorem find?_insert_self (store : Variables) (name : String) (entry : Variable) :
    (store.insert name entry).find? name = some entry :=
  Association.get?_put_self _ _ _

theorem find?_insert_of_ne (store : Variables) {name asked : String} (different : asked ≠ name)
    (entry : Variable) : (store.insert name entry).find? asked = store.find? asked :=
  Association.get?_put_of_ne different _ _

@[simp] theorem find?_set_self (store : Variables) (name value : String) :
    (store.set name value).find? name =
      some ⟨value, ((store.find? name).map (·.exported)).getD false⟩ := by
  simp [set]

theorem find?_set_of_ne (store : Variables) {name asked : String} (different : asked ≠ name)
    (value : String) : (store.set name value).find? asked = store.find? asked :=
  find?_insert_of_ne store different _

@[simp] theorem find?_mark_self (store : Variables) (name : String) :
    (store.mark name).find? name =
      (store.find? name).map fun entry => { entry with exported := true } := by
  unfold mark
  split
  · rename_i absent
    simp [absent]
  · rename_i entry present
    simp [present]

theorem find?_mark_of_ne (store : Variables) {name asked : String} (different : asked ≠ name) :
    (store.mark name).find? asked = store.find? asked := by
  unfold mark
  split
  · rfl
  · exact find?_insert_of_ne store different _

end Variables

end PipelineShell
