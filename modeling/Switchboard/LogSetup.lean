import Switchboard.Config.Schema
import Switchboard.Files.Path
import Switchboard.LogDirective
import Switchboard.Surroundings
import Switchboard.Text.Quoted

/-!
# Setting up the log

A `LogSetup` says what is written to the log, how, and where to. It starts from a configuration or
from the usual values and is changed piece by piece. If the log goes to a file, the name of the file
carries the time, unless no new files are begun.

Starting the log reads the directives, which passes over some of them with a complaint, and opens
the log file.

* `LogSetup.usual`, `LogSetup.ofConfig`, and functions that change a setup;
* `LogSetup.file?`: the log file at a time;
* `LogSetup.start`: what comes of starting the log;
* `LogSetup.inspect`: the setup as a record.
-/

namespace Switchboard

namespace SpanEvents

/-- No moment in the life of a span. -/
def none : SpanEvents := ⟨false, false, false, false⟩

/-- Its beginning and its end. -/
def lifecycle : SpanEvents := ⟨true, false, false, true⟩

/-- Every moment. -/
def full : SpanEvents := ⟨true, true, true, true⟩

/-- When it is entered and left. -/
def active : SpanEvents := ⟨false, true, true, false⟩

end SpanEvents

namespace LogRotation

/-- A number in decimal digits, with zeros in front up to a width. -/
def padded (width n : Nat) : String :=
  let digits := toString n
  String.ofList (List.replicate (width - digits.length) '0') ++ digits

/-- The parts of a time that tell one log file from the next. -/
def stamp (m : Moment) (rotation : LogRotation) : List String :=
  let date := [padded 4 m.year, padded 2 m.month, padded 2 m.day]
  match rotation with
  | never => []
  | daily => date
  | hourly => date ++ [padded 2 m.hour]
  | minutely => date ++ [padded 2 m.hour, padded 2 m.minute]

/-- The name of a log file at a time. -/
def fileName (rotation : LogRotation) (m : Moment) (name : String) : String :=
  match rotation.stamp m with
  | [] => name
  | parts => name ++ "." ++ "-".intercalate parts

end LogRotation

/-- Why the log cannot be started. -/
inductive LogFailure where
  /-- The directive is torn. -/
  | directive (text : String)
  /-- The log file cannot be opened. -/
  | file (file : LogFile)
deriving DecidableEq, Repr

/-- What comes of starting the log: complaints, and the log file if there is one. -/
structure LogStart where
  complaints : List String
  result : Except LogFailure (Option LogFile)

/-- What is written to the log, how, and where to. -/
structure LogSetup where
  /-- Filters for single modules, each as `module=level`. -/
  directives : List String
  level : Level
  spanEvents : SpanEvents
  format : LogFormat
  output : LogOutput
  target : Bool
  threadIds : Bool
  fileName : Bool
  lineNumber : Bool
  filePath : Option String
  rotation : LogRotation
deriving DecidableEq, Repr

namespace LogSetup

/-- Short lines with their targets on standard output, for levels from info on. -/
def usual : LogSetup :=
  { directives := []
    level := .info
    spanEvents := SpanEvents.none
    format := .compact
    output := .stdout
    target := true
    threadIds := false
    fileName := false
    lineNumber := false
    filePath := Option.none
    rotation := .never }

/-- Turns the place in the program, file and line, on or off. -/
def withFileLocation (s : LogSetup) (enabled : Bool) : LogSetup :=
  { s with fileName := enabled, lineNumber := enabled }

/-- Adds a filter. -/
def withDirective (s : LogSetup) (directive : String) : LogSetup :=
  { s with directives := s.directives ++ [directive] }

/-- The setup of a configuration. -/
def ofConfig (c : LoggingConfig) : LogSetup :=
  { directives := c.filters.map fun (module, level) => module ++ "=" ++ level.name
    level := c.level
    spanEvents := c.spanEvents
    format := c.format
    output := c.output
    target := true
    threadIds := c.threadIds
    fileName := c.fileLocation
    lineNumber := c.fileLocation
    filePath := c.filePath
    rotation := c.rotation }

/-- The name of the log file if its path has none. -/
def usualFileName : String := "reacton.log"

/-- The log file at a time, if the log goes to one. Without a directory of its own it lies in the
working directory. -/
def file? (s : LogSetup) (m : Moment) : Option LogFile :=
  if s.output = .file then
    s.filePath.map fun path =>
      let directory := (Path.parent? path).getD ""
      { directory := if directory = "" then "." else directory
        name := s.rotation.fileName m ((Path.name? path).getD usualFileName) }
  else Option.none

/-- What is said if the log should go to a file and none is named. -/
def fileComplaints (s : LogSetup) : List String :=
  if s.output = .file ∧ s.filePath = Option.none then
    ["File log output requested without a file path, using stdout"]
  else []

/-- Opens the log file, if the log goes to one. -/
def openFile (s : LogSetup) (around : Surroundings) : Except LogFailure (Option LogFile) :=
  match s.file? around.now with
  | some file => if around.opens file then .ok (some file) else .error (.file file)
  | Option.none => .ok Option.none

/-- Starts the log. -/
def start (s : LogSetup) (around : Surroundings) : LogStart :=
  match LogDirective.checkAll s.directives with
  | (complaints, some directive) => ⟨complaints, .error (.directive directive)⟩
  | (complaints, Option.none) => ⟨complaints ++ s.fileComplaints, s.openFile around⟩

/-- A truth value as a word. -/
def word (b : Bool) : String := if b then "true" else "false"

/-- The setup as a record with its fields. -/
def inspect (s : LogSetup) : String :=
  "LoggingBuilder \x7b directives: [" ++ ", ".intercalate (s.directives.map Text.quoted) ++
    "], level: Level(" ++ s.level.word ++ "), span_events: SpanEvents \x7b new: " ++
    word s.spanEvents.opened ++ ", enter: " ++ word s.spanEvents.entered ++ ", exit: " ++
    word s.spanEvents.left ++ ", close: " ++ word s.spanEvents.closed ++ " \x7d, format: " ++
    s.format.word ++ ", output: " ++ s.output.word ++ ", with_target: " ++ word s.target ++
    ", with_thread_ids: " ++ word s.threadIds ++ ", with_file: " ++ word s.fileName ++
    ", with_line_number: " ++ word s.lineNumber ++ ", file_path: " ++
    (match s.filePath with
      | some path => "Some(" ++ Text.quoted path ++ ")"
      | Option.none => "None") ++
    ", rotation: " ++ s.rotation.word ++ " \x7d"

end LogSetup

end Switchboard
