/-
The journal: levels, entries and the threshold below which entries are kept.
-/

namespace PipelineShell

/-- How urgent a journal entry is. -/
inductive Level where
  | error
  | warn
  | info
  | debug
  | trace
  deriving DecidableEq, Repr

/-- The name of a level. -/
def Level.name : Level → String
  | .error => "ERROR"
  | .warn => "WARN"
  | .info => "INFO"
  | .debug => "DEBUG"
  | .trace => "TRACE"

/-- The rank of a level: the most urgent has the lowest. -/
def Level.rank : Level → Nat
  | .error => 1
  | .warn => 2
  | .info => 3
  | .debug => 4
  | .trace => 5

/-- The least urgent level that a journal keeps, or nothing at all. -/
inductive Threshold where
  | off
  | upTo (level : Level)
  deriving DecidableEq, Repr

namespace Threshold

/-- The name of a threshold. -/
def name : Threshold → String
  | off => "OFF"
  | upTo level => level.name

/-- Every threshold, the strictest first. -/
def all : List Threshold := [off, upTo .error, upTo .warn, upTo .info, upTo .debug, upTo .trace]

/-- The threshold with this name. Letters may have either case. -/
def ofName? (text : String) : Option Threshold :=
  all.find? fun threshold => threshold.name.toList == text.toList.map Char.toUpper

/-- Whether entries of this level are kept. -/
def keeps (threshold : Threshold) (level : Level) : Bool :=
  match threshold with
  | off => false
  | upTo most => level.rank ≤ most.rank

end Threshold

/-- One entry of the journal. -/
structure Entry where
  level : Level
  message : String
  deriving DecidableEq, Repr

end PipelineShell
