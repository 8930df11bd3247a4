/-
The settings of a shell, and how their text is read.

The text is read line by line. Blank lines and lines whose first visible character is a number sign
say nothing; every other line is `key=value`, split at the first equals sign. The key is trimmed.
Whether the value is trimmed depends on the key: a prompt and a variable keep every blank. A later
line overrides an earlier one, and the first bad line decides the error.
-/

import PipelineShell.Association
import PipelineShell.Fault
import PipelineShell.Journal
import PipelineShell.Text.Blank
import PipelineShell.Text.Lines

namespace PipelineShell

/-- What a redirection does to the contents of the file that it writes to. -/
inductive OutputMode where
  /-- The contents stay, and writing starts at their beginning. -/
  | preserve
  /-- The contents go. -/
  | truncate
  deriving DecidableEq, Repr

namespace OutputMode

/-- The name of a mode. -/
def name : OutputMode → String
  | preserve => "preserve"
  | truncate => "truncate"

/-- The mode with exactly this name. -/
def ofName? (text : String) : Option OutputMode :=
  [preserve, truncate].find? fun mode => mode.name = text

end OutputMode

/-- What can be set. -/
structure Settings where
  prompt : String
  threshold : Threshold
  journalFile : Option String
  outputMode : OutputMode
  definitions : List (String × String)
  deriving DecidableEq, Repr

/-- The settings in force when nothing is set. -/
def Settings.default : Settings where
  prompt := "$ "
  threshold := .upTo .warn
  journalFile := none
  outputMode := .preserve
  definitions := []

/-- What is wrong with a line of the settings. -/
inductive LineFault where
  | noEquals (line : String)
  | badLevel (line : String)
  | badMode (line : String)
  | emptyName
  | unknownKey (key : String)
  deriving DecidableEq, Repr

/-- How a bad line is reported. -/
def LineFault.message : LineFault → String
  | .noEquals line => "No '=' found: " ++ line
  | .badLevel line => "Invalid log level: " ++ line
  | .badMode line => "Invalid output mode: " ++ line
  | .emptyName => "Empty variable name"
  | .unknownKey key => "Unknown key: " ++ key

/-- Why settings cannot be loaded. -/
inductive SettingsError where
  /-- The file cannot be opened or read. -/
  | unreadable (fault : Fault)
  /-- A line, counted from one, is bad. -/
  | badLine (number : Nat) (fault : LineFault)
  deriving DecidableEq, Repr

/-- How a failure to load is reported. -/
def SettingsError.message : SettingsError → String
  | .unreadable fault => "IO error: " ++ fault.message
  | .badLine number fault => "Parse error: Line " ++ toString number ++ ": " ++ fault.message

namespace Settings

/-- What one line asks for. -/
inductive Change where
  | prompt (text : String)
  | threshold (threshold : Threshold)
  | journalFile (path : Option String)
  | outputMode (mode : OutputMode)
  | define (name value : String)
  deriving DecidableEq, Repr

/-- Carries a change out. -/
def apply (settings : Settings) : Change → Settings
  | .prompt text => { settings with prompt := text }
  | .threshold threshold => { settings with threshold }
  | .journalFile path => { settings with journalFile := path }
  | .outputMode mode => { settings with outputMode := mode }
  | .define name value =>
    { settings with definitions := Association.put name value settings.definitions }

/-- The mark of a key that names a variable. -/
def variableMark : List Char := ['e', 'n', 'v', '.']

/-- What follows the marks at the start of a key, however many there are. -/
def dropMarks : List Char → List Char
  | 'e' :: 'n' :: 'v' :: '.' :: rest => dropMarks rest
  | key => key

/-- Whether a line says nothing: it is blank, or a comment. -/
def isSilent (line : String) : Bool :=
  match Text.trimStart line.toList with
  | [] => true
  | first :: _ => first = '#'

/-- What a line that is not silent asks for. -/
def readChange (line : String) : Except LineFault Change :=
  match line.toList.span (· ≠ '=') with
  | (_, []) => .error (.noEquals line)
  | (written, _ :: rest) =>
    let key := Text.trim (String.ofList written)
    let value := String.ofList rest
    match key with
    | "prompt" => .ok (.prompt value)
    | "log_level" =>
      match Threshold.ofName? (Text.trim value) with
      | some threshold => .ok (.threshold threshold)
      | none => .error (.badLevel line)
    | "log_file" =>
      let path := Text.trim value
      .ok (.journalFile (if path = "" then none else some path))
    | "output_mode" =>
      match OutputMode.ofName? (Text.trim value) with
      | some mode => .ok (.outputMode mode)
      | none => .error (.badMode line)
    | _ =>
      if variableMark.isPrefixOf key.toList then
        let name := dropMarks key.toList
        if name = [] then .error .emptyName else .ok (.define (String.ofList name) value)
      else .error (.unknownKey key)

/-- What a line asks for; a silent line asks for nothing. -/
def readLine (line : String) : Except LineFault (Option Change) :=
  if isSilent line then .ok none else (readChange line).map some

/-- Carries out the lines in order, the first of which has this number. -/
def readLines (settings : Settings) (number : Nat) : List String → Except SettingsError Settings
  | [] => .ok settings
  | line :: rest =>
    match readLine line with
    | .error fault => .error (.badLine number fault)
    | .ok none => readLines settings (number + 1) rest
    | .ok (some change) => readLines (settings.apply change) (number + 1) rest

/-- The settings that a text gives. -/
def ofText (text : String) : Except SettingsError Settings :=
  readLines Settings.default 1 (Text.textLines text)

/-- The text of a settings file as it is read: each line has to be valid UTF-8, loses its
terminator, and is ended by a line feed. -/
def fileText (contents : Bytes) : Except SettingsError String := do
  let lines ← (Text.cutAfter Text.lineFeed contents).mapM fun segment =>
    match Text.decode? segment with
    | none => .error (.unreadable .notText)
    | some line => .ok (String.ofList (Text.dropTerminator line.toList))
  return String.join (lines.map (· ++ "\n"))

/-- The settings that a file with these contents gives. -/
def ofFile (contents : Bytes) : Except SettingsError Settings := do
  ofText (← fileText contents)

end Settings

end PipelineShell
