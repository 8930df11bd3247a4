/-
Expansion of variables.

A word that is a dollar sign followed by a name stands for the value of that variable, as one word:
the value is not cut again. A dollar sign alone, and a dollar sign later in a word, stand for
themselves. The first word that names no variable decides the error.
-/

import PipelineShell.Variables

namespace PipelineShell

/-- A word names a variable that is not defined. -/
structure UndefinedVariable where
  name : String
  deriving DecidableEq, Repr

/-- How an undefined variable is reported. -/
def UndefinedVariable.message (fault : UndefinedVariable) : String :=
  "Undefined variable: $" ++ fault.name

/-- The variable that a word refers to: what follows a leading dollar sign, if anything does. -/
def reference? (word : String) : Option String :=
  match word.toList with
  | '$' :: first :: rest => some (String.ofList (first :: rest))
  | _ => none

/-- The word that a word stands for. -/
def Variables.expandWord (store : Variables) (word : String) : Except UndefinedVariable String :=
  match reference? word with
  | none => .ok word
  | some name =>
    match store.get? name with
    | none => .error ⟨name⟩
    | some value => .ok value

/-- The words that a list of words stands for, one for one. -/
def Variables.expand (store : Variables) (words : List String) :
    Except UndefinedVariable (List String) :=
  words.mapM store.expandWord

end PipelineShell
