/-
The command about what a process may use: `ulimit`.

It shows a bound or sets one. Bounds are written in the units of their resource. A new bound counts
for both of a process's bounds unless one of them is asked for.
-/

import PipelineShell.Machine.Script.Command

namespace PipelineShell.Script.Command

/-- The first number that is too large for a bound. -/
def boundRange : Nat := 0x10000000000000000

/-- The number that stands for no bound. -/
def noBound : Nat := boundRange - 1

/-- A bound as it is shown, in units. Numbers in the upper half count as negative. -/
def shownBound (unit : Nat) : Option Nat → Characters
  | none => "unlimited".toList
  | some bound =>
    let count := bound / unit
    if 2 * count < boundRange then Arithmetic.decimal count
    else '-' :: Arithmetic.decimal (boundRange - count)

/-- Reads a bound that is written in units. It is what is left of the number in its range. -/
def readBound? (unit : Nat) (written : Characters) : Option (Option Nat) :=
  if written = "unlimited".toList then some none
  else if written.all Char.isDigit then
    let count := written.foldl (fun count digit =>
      (count * 10 + (digit.toNat - '0'.toNat)) % boundRange) 0
    let bound := count * unit % boundRange
    some (if bound = noBound then none else some bound)
  else none

/-- Which of the two bounds is meant: a letter, or both without one. -/
def boundShown (which : Option Char) (allowance : Allowance) : Option Nat :=
  if which = some 'H' then allowance.highest else allowance.kept

/-- Sets one of the two bounds, or both. -/
def withBound (which : Option Char) (bound : Option Nat) (allowance : Allowance) : Allowance :=
  match which with
  | some 'H' => { allowance with highest := bound }
  | some 'S' => { allowance with kept := bound }
  | _ => ⟨bound, bound⟩

/-- A name in a column. -/
def column (name : String) : Characters :=
  name.toList ++ List.replicate (20 - name.length) ' ' ++ [' ']

/-- Sets a bound of a resource. -/
def setBound (resource : Resource) (which : Option Char) (bound : Option Nat) :
    Running Unit := do
  let before := (← Running.context).activity.allowances
  let after := withBound which bound (before.get resource)
  match (before.get resource).refusal after with
  | some errno => Running.fail ("error setting limit (" ++ errno.sentence ++ ")").toList
  | none =>
    Running.change fun context => { context with activity := { context.activity with
      allowances := Association.put resource.letter after before } }

/-- Shows the bounds on what the process may use, or sets one of them. -/
def limit : Command := fun _ words => do
  let letters := resources.map Resource.letter
  let allowed := ("HSa".toList ++ letters).map fun letter => (letter, false)
  let (found, operands) ← options allowed words
  let found := (found.map Prod.fst).reverse
  let all := found.contains 'a'
  let which := found.find? fun letter => letter = 'H' || letter = 'S'
  let letter := (found.find? letters.contains).getD 'f'
  let allowances := (← Running.context).activity.allowances
  let shown (resource : Resource) : Characters :=
    shownBound resource.unit (boundShown which (allowances.get resource)) ++ ['\n']
  match operands, resources.find? fun resource => resource.letter = letter with
  | _ :: _ :: _, _ => Running.fail "too many arguments".toList
  | [written], some resource =>
    if all then Running.fail "too many arguments".toList
    match readBound? resource.unit written with
    | none => Running.fail "bad number".toList
    | some bound => setBound resource which bound
  | _, some resource =>
    if all then resources.forM fun resource => Running.emit (column resource.name ++ shown resource)
    else Running.emit (shown resource)
  | _, none => pure ()
  return 0

end PipelineShell.Script.Command
