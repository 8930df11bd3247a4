import PipelineShell.Association
import PipelineShell.Builtin
import PipelineShell.Construction
import PipelineShell.Descriptor
import PipelineShell.Expansion
import PipelineShell.Fault
import PipelineShell.FileTree
import PipelineShell.Interpreter
import PipelineShell.Journal
import PipelineShell.Lookup
import PipelineShell.Machine
import PipelineShell.Machine.Allowance
import PipelineShell.Machine.Execution
import PipelineShell.Machine.Kernel
import PipelineShell.Machine.Pipe
import PipelineShell.Machine.Process
import PipelineShell.Machine.Script
import PipelineShell.Machine.Script.Arithmetic
import PipelineShell.Machine.Script.Command
import PipelineShell.Machine.Script.Command.Limiting
import PipelineShell.Machine.Script.Command.Moving
import PipelineShell.Machine.Script.Command.Naming
import PipelineShell.Machine.Script.Command.Printing
import PipelineShell.Machine.Script.Command.Reading
import PipelineShell.Machine.Script.Command.Signalling
import PipelineShell.Machine.Script.Command.Storing
import PipelineShell.Machine.Script.Command.Testing
import PipelineShell.Machine.Script.Expansion
import PipelineShell.Machine.Script.Fields
import PipelineShell.Machine.Script.Glob
import PipelineShell.Machine.Script.Lexer
import PipelineShell.Machine.Script.Pattern
import PipelineShell.Machine.Script.Process
import PipelineShell.Machine.Script.Program
import PipelineShell.Machine.Script.Reader
import PipelineShell.Machine.Script.Redirection
import PipelineShell.Machine.Script.Runner
import PipelineShell.Machine.Script.Shell
import PipelineShell.Machine.Script.Source
import PipelineShell.Machine.Script.State
import PipelineShell.Machine.Tape
import PipelineShell.Machine.Tool
import PipelineShell.Machine.Tool.Beginning
import PipelineShell.Machine.Tool.Classes
import PipelineShell.Machine.Tool.Copying
import PipelineShell.Machine.Tool.Counting
import PipelineShell.Machine.Tool.Digest
import PipelineShell.Machine.Tool.Environment
import PipelineShell.Machine.Tool.Listing
import PipelineShell.Machine.Tool.Locale
import PipelineShell.Machine.Tool.Numeral
import PipelineShell.Machine.Tool.Options
import PipelineShell.Machine.Tool.Printing
import PipelineShell.Machine.Tool.Quoting
import PipelineShell.Machine.Tool.Replacing
import PipelineShell.Machine.Tool.Sorting
import PipelineShell.Machine.Tool.Sorting.Explaining
import PipelineShell.Machine.Tool.Sorting.Keys
import PipelineShell.Machine.Tool.Sorting.Options
import PipelineShell.Machine.Tool.Sorting.Order
import PipelineShell.Main
import PipelineShell.Operator
import PipelineShell.PathName
import PipelineShell.Pipeline
import PipelineShell.Session
import PipelineShell.Settings
import PipelineShell.Startup
import PipelineShell.Supervision
import PipelineShell.System
import PipelineShell.Text.Blank
import PipelineShell.Text.Bytes
import PipelineShell.Text.Classes
import PipelineShell.Text.Decimal
import PipelineShell.Text.Lines
import PipelineShell.Text.Pieces
import PipelineShell.Text.Quoted
import PipelineShell.Variables
import PipelineShell.Words
import PipelineShell.Proofs.Custody
import PipelineShell.Proofs.Release
import PipelineShell.Proofs.Grammar
import PipelineShell.Proofs.Opening
import PipelineShell.Proofs.Joining
import PipelineShell.Proofs.Recognition
import PipelineShell.Proofs.Spelling
import PipelineShell.Proofs.Wiring
import PipelineShell.Proofs.Launching
import PipelineShell.Proofs.Isolation
import PipelineShell.Proofs.Handover
import PipelineShell.Proofs.Reaping
import PipelineShell.Proofs.Dispatch
import PipelineShell.Proofs.Bareness
import PipelineShell.Proofs.Memory
import PipelineShell.Proofs.Shape
import PipelineShell.Proofs.Loading
import PipelineShell.Proofs.Deeds
import PipelineShell.Proofs.Gating
import PipelineShell.Proofs.Reading
import PipelineShell.Proofs.Filing
import PipelineShell.Proofs.Places
import PipelineShell.Proofs.Footprint
import PipelineShell.Proofs.Separation
import PipelineShell.Proofs.SearchPath
import PipelineShell.Proofs.Readiness
import PipelineShell.Proofs.Budget
import PipelineShell.Proofs.Rereading
import PipelineShell.Proofs.Candidates
import PipelineShell.Proofs.Absence
import PipelineShell.Proofs.Waiting
import PipelineShell.Proofs.Keeping
import PipelineShell.Proofs.Overriding
import PipelineShell.Proofs.Defining
import PipelineShell.Proofs.Lockstep
import PipelineShell.Proofs.Segments
import PipelineShell.Proofs.OtherInput
import PipelineShell.Proofs.LineEnds
import PipelineShell.Proofs.Neighbours
import PipelineShell.Proofs.Emptiness
