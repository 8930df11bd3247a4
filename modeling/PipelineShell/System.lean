/-
What the shell asks of the system.

The shell is written against this interface: opening files, making pipes, starting processes and
waiting for them, changing the directory, reading and writing, and keeping the journal. A state of
any type stands for the rest of the world, so whatever is proved about the shell holds for every
world. The descriptor table is not part of the interface; the interpreter keeps it itself.
-/

import PipelineShell.Descriptor
import PipelineShell.Fault
import PipelineShell.Journal
import PipelineShell.Text.Bytes

namespace PipelineShell

/-- The number of a process. -/
abbrev ProcessId := Nat

/-- What a process is executed with: its descriptors, its arguments and its environment. -/
structure Image where
  slots : Table
  arguments : List Bytes
  environment : List Bytes
  deriving DecidableEq, Repr

/-- A signal, by its number. -/
structure Signal where
  number : Nat
  deriving DecidableEq, Repr

namespace Signal

/-- The names of the signals, from number one on. -/
def names : List String :=
  ["HUP", "INT", "QUIT", "ILL", "TRAP", "ABRT", "BUS", "FPE", "KILL", "USR1", "SEGV", "USR2",
    "PIPE", "ALRM", "TERM", "STKFLT", "CHLD", "CONT", "STOP", "TSTP", "TTIN", "TTOU", "URG",
    "XCPU", "XFSZ", "VTALRM", "PROF", "WINCH", "IO", "PWR", "SYS"]

/-- The name of a signal, as the journal shows it. -/
def name (signal : Signal) : String :=
  match signal.number with
  | 0 => "SIG0"
  | number + 1 => "SIG" ++ (names[number]?).getD (toString (number + 1))

end Signal

/-- How waiting for a process ends. -/
inductive Ending where
  | exited (code : Int)
  | killed (signal : Signal)
  | failed (errno : Errno)
  deriving DecidableEq, Repr

/-- What one request to wait for a process answers: an ending, or a change that leaves the process
running. -/
inductive WaitReport where
  | ended (ending : Ending)
  | changed (description : String)
  deriving DecidableEq, Repr

/-- Everything that repeated requests to wait for a process answer. Requests that were interrupted
are repeated, so the last answer is not an interruption. -/
structure WaitHistory where
  reports : List WaitReport
  last : Ending
  decisive : last ≠ .failed .interrupted

/-- The system, over a world of type `σ`. -/
structure System (σ : Type) where
  /-- Opens the file at a path for reading and writing, creating it if it is missing and emptying
  it if asked to. The opened file is known by the serial number from then on. -/
  openFile : (path : Bytes) → (truncate : Bool) → (serial : Nat) → σ → Except Errno Unit × σ
  /-- Makes a pipe, known by the serial number from then on. -/
  makePipe : (serial : Nat) → σ → Except Errno Unit × σ
  /-- Starts a process, if it can be. -/
  fork : σ → Except Errno ProcessId × σ
  /-- Why the system refuses to execute a file with this image, if it does. The shell has a table of
  its own open at that time. -/
  refusal : (table : Table) → Image → (file : Bytes) → σ → Option Errno
  /-- Executes a file in a process. -/
  execute : ProcessId → Image → (file : Bytes) → σ → σ
  /-- Ends a process that executes nothing, after it wrote a message to its third slot. -/
  quit : ProcessId → Table → (message : String) → (code : Int) → σ → σ
  /-- Waits for a process. -/
  wait : ProcessId → σ → WaitHistory × σ
  /-- Changes the shell's current directory. -/
  changeDirectory : (path : Bytes) → σ → Except Errno Unit × σ
  /-- What is left of the shell's input. -/
  input : σ → Bytes
  /-- Takes so many bytes from the shell's input. -/
  skipInput : (count : Nat) → σ → σ
  /-- Writes to one of the shell's own streams. -/
  write : Stream → String → σ → σ
  /-- Enters something in the journal. -/
  enter : Entry → σ → σ

end PipelineShell
