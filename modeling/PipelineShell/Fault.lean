/-
What the system refuses, and how a refusal is worded.

A refused request carries an error number. Two wordings exist. A file that cannot be opened is
reported with the system's own sentence and the number. A process that cannot be started or waited
for is reported with the description from the table of error numbers, which words a few of them
differently.
-/

namespace PipelineShell

/-- Why the system refuses a request. -/
inductive Errno where
  | notPermitted
  | noEntry
  | interrupted
  | noDevice
  | argumentsTooLong
  | badExecutable
  | badDescriptor
  | noChild
  | accessDenied
  | alreadyThere
  | notDirectory
  | isDirectory
  | invalidArgument
  | tooManyOpen
  | fileBusy
  | fileTooLarge
  | noSpace
  | brokenPipe
  | nameTooLong
  | tooManyLinks
  | other (number : Nat)
  deriving DecidableEq, Repr

namespace Errno

/-- The number of an error. -/
def number : Errno → Nat
  | notPermitted => 1
  | noEntry => 2
  | interrupted => 4
  | noDevice => 6
  | argumentsTooLong => 7
  | badExecutable => 8
  | badDescriptor => 9
  | noChild => 10
  | accessDenied => 13
  | alreadyThere => 17
  | notDirectory => 20
  | isDirectory => 21
  | invalidArgument => 22
  | tooManyOpen => 24
  | fileBusy => 26
  | fileTooLarge => 27
  | noSpace => 28
  | brokenPipe => 32
  | nameTooLong => 36
  | tooManyLinks => 40
  | other number => number

/-- The symbol of an error. -/
def symbol : Errno → String
  | notPermitted => "EPERM"
  | noEntry => "ENOENT"
  | interrupted => "EINTR"
  | noDevice => "ENXIO"
  | argumentsTooLong => "E2BIG"
  | badExecutable => "ENOEXEC"
  | badDescriptor => "EBADF"
  | noChild => "ECHILD"
  | accessDenied => "EACCES"
  | alreadyThere => "EEXIST"
  | notDirectory => "ENOTDIR"
  | isDirectory => "EISDIR"
  | invalidArgument => "EINVAL"
  | tooManyOpen => "EMFILE"
  | fileBusy => "ETXTBSY"
  | fileTooLarge => "EFBIG"
  | noSpace => "ENOSPC"
  | brokenPipe => "EPIPE"
  | nameTooLong => "ENAMETOOLONG"
  | tooManyLinks => "ELOOP"
  | other _ => "UnknownErrno"

/-- The description of an error in the table of error numbers. -/
def description : Errno → String
  | notPermitted => "Operation not permitted"
  | noEntry => "No such file or directory"
  | interrupted => "Interrupted system call"
  | noDevice => "No such device or address"
  | argumentsTooLong => "Argument list too long"
  | badExecutable => "Exec format error"
  | badDescriptor => "Bad file number"
  | noChild => "No child processes"
  | accessDenied => "Permission denied"
  | alreadyThere => "File exists"
  | notDirectory => "Not a directory"
  | isDirectory => "Is a directory"
  | invalidArgument => "Invalid argument"
  | tooManyOpen => "Too many open files"
  | fileBusy => "Text file busy"
  | fileTooLarge => "File too large"
  | noSpace => "No space left on device"
  | brokenPipe => "Broken pipe"
  | nameTooLong => "File name too long"
  | tooManyLinks => "Too many symbolic links encountered"
  | other _ => "Unknown errno"

/-- The sentence that the system itself has for an error. -/
def sentence : Errno → String
  | badDescriptor => "Bad file descriptor"
  | tooManyLinks => "Too many levels of symbolic links"
  | other number => "Unknown error " ++ toString number
  | errno => errno.description

/-- The symbol with the description. -/
def label (errno : Errno) : String := errno.symbol ++ ": " ++ errno.description

end Errno

/-- Why a file cannot be opened or read. -/
inductive Fault where
  /-- The system refuses. -/
  | refused (errno : Errno)
  /-- The name holds a zero byte, so it cannot be handed to the system. -/
  | nulInName
  /-- What was read is not valid UTF-8. -/
  | notText
  deriving DecidableEq, Repr

/-- How a file fault is reported. -/
def Fault.message : Fault → String
  | .refused errno => errno.sentence ++ " (os error " ++ toString errno.number ++ ")"
  | .nulInName => "file name contained an unexpected NUL byte"
  | .notText => "stream did not contain valid UTF-8"

end PipelineShell
