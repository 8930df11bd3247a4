/-
Tapes: what is written to a stream.

A stream is a file that is nearly always written at its end, so its bytes are kept the last one
first. It can still be written anywhere and emptied, by whoever opens it under another name.
-/

import PipelineShell.FileTree

namespace PipelineShell

/-- A stream that is written to. -/
structure Tape where
  /-- What was written, the last byte first. -/
  backward : Bytes
  length : Nat
  /-- Where the next byte is written. -/
  offset : Nat
  length_eq : backward.length = length
  deriving DecidableEq, Repr

namespace Tape

/-- A stream that nothing was written to. -/
def empty : Tape := ⟨[], 0, 0, rfl⟩

/-- What a stream holds. -/
def contents (tape : Tape) : Bytes := tape.backward.reverse

/-- Writes bytes from an offset on. Where the next ones are written does not change. -/
def writeAt (tape : Tape) (offset : Nat) (bytes : Bytes) : Tape :=
  if offset = tape.length then
    ⟨bytes.reverseAux tape.backward, bytes.length + tape.length, tape.offset, by
      simp [tape.length_eq]⟩
  else
    let changed := FileTree.overwrite tape.contents offset bytes
    ⟨changed.reverse, changed.length, tape.offset, by simp⟩

/-- Writes bytes where the next ones are to be written. -/
def write (tape : Tape) (bytes : Bytes) : Tape :=
  { tape.writeAt tape.offset bytes with offset := tape.offset + bytes.length }

/-- Empties a stream. Where the next byte is written does not change. -/
def clear (tape : Tape) : Tape := ⟨[], 0, tape.offset, rfl⟩

end Tape

end PipelineShell
