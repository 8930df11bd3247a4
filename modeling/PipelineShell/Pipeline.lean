/-
Pipelines: the stages that one command line asks for.

A stage runs one program. It reads and writes either the shell's own streams or descriptors that
the shell opened for it and has to close again; the latter are the descriptors that the stage owns.
-/

import PipelineShell.Descriptor
import PipelineShell.Operator
import PipelineShell.Variables

namespace PipelineShell

/-- Where a stage reads from or writes to. -/
inductive Endpoint where
  /-- The shell's own stream, which no stage closes. -/
  | inherit
  /-- A descriptor opened for this stage. -/
  | owned (descriptor : Descriptor)
  deriving DecidableEq, Repr

/-- The descriptor opened for an endpoint, if there is one. -/
def Endpoint.owned? : Endpoint → Option Descriptor
  | .inherit => none
  | .owned descriptor => some descriptor

/-- One command of a pipeline. The first argument is the program's name as the program sees it. -/
structure Stage where
  program : String
  arguments : List String
  input : Endpoint
  output : Endpoint
  deriving DecidableEq, Repr

namespace Stage

/-- A stage that runs a program without arguments on the shell's own streams. -/
def named (program : String) : Stage := ⟨program, [program], .inherit, .inherit⟩

/-- The descriptors opened for a stage. -/
def owned (stage : Stage) : List Descriptor :=
  stage.input.owned?.toList ++ stage.output.owned?.toList

/-- The endpoint of a direction. -/
def endpoint (stage : Stage) : Direction → Endpoint
  | .input => stage.input
  | .output => stage.output

/-- Replaces the endpoint of a direction. -/
def connect (stage : Stage) (direction : Direction) (endpoint : Endpoint) : Stage :=
  match direction with
  | .input => { stage with input := endpoint }
  | .output => { stage with output := endpoint }

/-- The arguments as the program receives them. The first one with a zero byte decides the error. -/
def argv (stage : Stage) : Except NulByte (List Bytes) :=
  stage.arguments.mapM fun argument => nulFree (Text.encode argument)

end Stage

/-- The commands of one line, in order, and whether they were asked to run in the background. -/
structure Pipeline where
  stages : List Stage
  background : Bool
  deriving DecidableEq, Repr

/-- The descriptors opened for the stages of a pipeline. -/
def Pipeline.owned (pipeline : Pipeline) : List Descriptor := pipeline.stages.flatMap Stage.owned

end PipelineShell
