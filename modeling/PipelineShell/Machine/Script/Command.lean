/-
Commands that a script carries out itself.

Such a command is a function from its words to its status. What it writes to its output is held back
until it ends. Options are single letters that may stand together in a word after a dash; two dashes
end them.
-/

import PipelineShell.Machine.Script.Program

namespace PipelineShell.Script

/-- A command that a script carries out itself, from the words behind its name to its status. -/
abbrev Command := Engine → List Characters → Running Nat

namespace Command

/-! ### Options -/

/-- Reads the letters of a word of options. A letter that takes an argument takes the rest of the
word, or the word behind it, and the argument is looked at before anything else is read. Gives the
options and the words behind them. -/
def readLetters (check : Characters → Running Unit) (allowed : List (Char × Bool))
    (rest : List Characters) : Characters → Running (List (Char × Characters) × List Characters)
  | [] => return ([], rest)
  | letter :: more => do
    match Association.get? letter allowed with
    | none => Running.fail ("Illegal option -".toList ++ [letter])
    | some false =>
      let (found, after) ← readLetters check allowed rest more
      return ((letter, []) :: found, after)
    | some true =>
      let (argument, after) ← match more, rest with
        | [], [] => Running.fail ("No arg for -".toList ++ letter :: " option".toList)
        | [], argument :: after => pure (argument, after)
        | _, _ => pure (more, rest)
      check argument
      return ([(letter, argument)], after)

/-- Reads words of options. The number bounds how many there may be. -/
def readOptions (check : Characters → Running Unit) (allowed : List (Char × Bool)) :
    Nat → List Characters → Running (List (Char × Characters) × List Characters)
  | 0, words => return ([], words)
  | steps + 1, words => do
    match words with
    | ('-' :: first :: letters) :: rest =>
      if first = '-' ∧ letters = [] then return ([], rest)
      else
        let (found, rest) ← readLetters check allowed rest (first :: letters)
        let (more, after) ← readOptions check allowed steps rest
        return (found ++ more, after)
    | _ => return ([], words)

/-- The options in front of words, and the words behind them. Arguments of options are checked. -/
def checkedOptions (check : Characters → Running Unit) (allowed : List (Char × Bool))
    (words : List Characters) : Running (List (Char × Characters) × List Characters) :=
  readOptions check allowed (words.length + 1) words

/-- The options in front of words, and the words behind them. -/
def options (allowed : List (Char × Bool)) (words : List Characters) :
    Running (List (Char × Characters) × List Characters) :=
  checkedOptions (fun _ => return) allowed words

/-- The words of a command that takes no options. -/
def noOptions (words : List Characters) : Running (List Characters) := do
  return (← options [] words).2

/-- Whether the first letter of the first option is some letter. A command that then knows what to
do does not look at the rest. -/
def startsWith (letter : Char) : List Characters → Bool
  | ('-' :: first :: _) :: _ => first = letter
  | _ => false

/-! ### Quoting -/

/-- Quotes a text so that it can be read again. -/
def quoted (text : Characters) : Characters :=
  go (text.length + 1) text
where
  /-- Quotes a part without quotes and the quotes behind it. -/
  go : Nat → Characters → Characters
    | 0, _ => []
    | steps + 1, text =>
      let part := text.takeWhile (· ≠ strongQuote)
      let rest := text.dropWhile (· ≠ strongQuote)
      let quotes := rest.takeWhile (· = strongQuote)
      let after := rest.dropWhile (· = strongQuote)
      let shown := [strongQuote] ++ part ++ [strongQuote]
      if quotes.isEmpty then shown
      else
        let shown := shown ++ [weakQuote] ++ quotes ++ [weakQuote]
        if after.isEmpty then shown else shown ++ go steps after

end Command

end PipelineShell.Script
