/-
Building a pipeline from the words of a line.

The words are cut into segments at the pipes, and each segment becomes a stage: its first word is
the program, and the words after it are arguments, redirections or a request for the background. An
input may be redirected only in the first segment and an output only in the last. The first
violation, reading from left to right, decides the error. Redirections are opened as they are met,
so a build that fails later has to close them again; files that it created stay.

When every segment is a stage, each pair of neighbours is joined by a pipe.
-/

import PipelineShell.Interpreter
import PipelineShell.Settings
import PipelineShell.Text.Pieces

namespace PipelineShell

/-- Why the words of a line make no pipeline. Stages are counted from zero. -/
inductive BuildError where
  | emptyCommand (stage : Nat)
  | unexpectedOperator (operator : Operator) (stage : Nat)
  | misplacedRedirect (direction : Direction) (stage : Nat)
  | missingTarget (direction : Direction) (stage : Nat)
  | cannotOpen (path : String) (fault : Fault)
  | cannotPipe (errno : Errno)
  /-- A pipe inside a segment. Segments are cut at pipes, so no build ends this way. -/
  | strayPipe (stage : Nat)
  deriving DecidableEq, Repr

namespace BuildError

/-- A stage as it is reported: counted from one. -/
def stageNumber (stage : Nat) : String := toString (stage + 1)

/-- How a failed build is reported. -/
def message : BuildError → String
  | emptyCommand stage => "Missing command in pipeline stage " ++ stageNumber stage
  | unexpectedOperator operator stage =>
    "Unexpected '" ++ operator.text ++ "' at start of pipeline stage " ++ stageNumber stage
  | misplacedRedirect .input stage =>
    "Input redirection '<' is only allowed on the first command (found in stage " ++
      stageNumber stage ++ ")"
  | misplacedRedirect .output stage =>
    "Output redirection '>' is only allowed on the last command (found in stage " ++
      stageNumber stage ++ ")"
  | missingTarget direction stage =>
    "Missing file name after '" ++ (Operator.redirect direction).text ++ "' in pipeline stage " ++
      stageNumber stage
  | cannotOpen path fault => "Cannot open '" ++ path ++ "': " ++ fault.message
  | cannotPipe errno => "Cannot create pipe: " ++ errno.label
  | strayPipe stage => "Unexpected '|' inside pipeline stage " ++ stageNumber stage

end BuildError

namespace Construction

variable {σ : Type}

/-- The segments between the pipes. There is always at least one. -/
def segments (words : List String) : List (List String) :=
  Text.pieces (fun word => Operator.ofWord? word = some .pipe) words

/-- The position of a stage among the stages of its line. -/
structure Place where
  index : Nat
  last : Nat
  deriving DecidableEq, Repr

/-- Whether a stage at this place may be redirected in a direction. -/
def Place.allows (place : Place) : Direction → Bool
  | .input => place.index = 0
  | .output => place.index = place.last

/-- Whether opening a redirection empties the file: only where output goes, and only if the mode
asks for it. -/
def truncates (mode : OutputMode) (direction : Direction) : Bool :=
  direction = .output && mode = .truncate

/-- Reads the words of a segment after its program into the stage. A violation closes what was
opened for the stage. -/
def scan (system : System σ) (mode : OutputMode) (place : Place) :
    List String → Stage → Bool → Interpreter σ →
      Except BuildError (Stage × Bool) × Interpreter σ
  | [], stage, background, shell => (.ok (stage, background), shell)
  | word :: rest, stage, background, shell =>
    match Operator.ofWord? word with
    | none =>
      scan system mode place rest { stage with arguments := stage.arguments ++ [word] } background
        shell
    | some .background => scan system mode place rest stage true shell
    | some .pipe => (.error (.strayPipe place.index), shell.release stage)
    | some (.redirect direction) =>
      if place.allows direction then
        match rest with
        | [] => (.error (.missingTarget direction place.index), shell.release stage)
        | target :: rest =>
          if isOperator target then
            (.error (.missingTarget direction place.index), shell.release stage)
          else
            match shell.openFile system target (truncates mode direction) with
            | (.error fault, shell) => (.error (.cannotOpen target fault), shell.release stage)
            | (.ok descriptor, shell) =>
              let (stage, shell) := shell.attach stage direction descriptor
              scan system mode place rest stage background shell
      else (.error (.misplacedRedirect direction place.index), shell.release stage)

/-- Reads one segment into a stage. -/
def buildStage (system : System σ) (mode : OutputMode) (place : Place) (segment : List String)
    (background : Bool) (shell : Interpreter σ) :
    Except BuildError (Stage × Bool) × Interpreter σ :=
  match segment with
  | [] => (.error (.emptyCommand place.index), shell)
  | program :: rest =>
    match Operator.ofWord? program with
    | some operator => (.error (.unexpectedOperator operator place.index), shell)
    | none => scan system mode place rest (.named program) background shell

/-- The journal entry about a build that fails after some stages. -/
def discarding (built : List Stage) (error : BuildError) : String :=
  "discarding " ++ toString built.length ++ " built stage(s): " ++ error.message

/-- Reads segments into stages, after those already built. A violation closes what was opened for
all of them. -/
def buildStages (system : System σ) (mode : OutputMode) (last : Nat) :
    List (List String) → List Stage → Bool → Interpreter σ →
      Except BuildError (List Stage × Bool) × Interpreter σ
  | [], built, background, shell => (.ok (built, background), shell)
  | segment :: rest, built, background, shell =>
    match buildStage system mode ⟨built.length, last⟩ segment background shell with
    | (.error error, shell) =>
      (.error error, (shell.enter system .debug (discarding built error)).releaseAll built)
    | (.ok (stage, background), shell) =>
      buildStages system mode last rest (built ++ [stage]) background shell

/-- Joins a stage and those after it by pipes. If a pipe cannot be made, what was opened for all of
them is closed. -/
def join (system : System σ) (left : Stage) :
    List Stage → Interpreter σ → Except Errno (List Stage) × Interpreter σ
  | [], shell => (.ok [left], shell)
  | right :: rest, shell =>
    match shell.makePipe system with
    | (.error errno, shell) => (.error errno, shell.releaseAll (left :: right :: rest))
    | (.ok ends, shell) =>
      let shell := shell.record (.joined left right)
      let (left, shell) := shell.attach left .output ends.writeEnd
      let (right, shell) := shell.attach right .input ends.readEnd
      match join system right rest shell with
      | (.error errno, shell) => (.error errno, shell.release left)
      | (.ok stages, shell) => (.ok (left :: stages), shell)

/-- Joins all stages by pipes. -/
def joinAll (system : System σ) (stages : List Stage) (shell : Interpreter σ) :
    Except Errno (List Stage) × Interpreter σ :=
  match stages with
  | [] => (.ok [], shell)
  | first :: rest => join system first rest shell

/-- The journal entry about a finished build. -/
def built (pipeline : Pipeline) : String :=
  "built pipeline: " ++ toString pipeline.stages.length ++ " stage(s), " ++
    toString pipeline.owned.length ++ " owned descriptor(s)"

/-- Builds a pipeline from words. No words at all make one stage that runs the empty program. -/
def build (system : System σ) (mode : OutputMode) (words : List String) (shell : Interpreter σ) :
    Except BuildError Pipeline × Interpreter σ :=
  if words = [] then (.ok ⟨[.named ""], false⟩, shell)
  else
    let segments := segments words
    match buildStages system mode (segments.length - 1) segments [] false shell with
    | (.error error, shell) => (.error error, shell)
    | (.ok (stages, background), shell) =>
      match joinAll system stages shell with
      | (.error errno, shell) => (.error (.cannotPipe errno), shell)
      | (.ok stages, shell) =>
        let pipeline : Pipeline := ⟨stages, background⟩
        (.ok pipeline, shell.enter system .debug (built pipeline))

end Construction

end PipelineShell
