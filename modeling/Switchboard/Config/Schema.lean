import Switchboard.Dispatch.World

/-!
# What can be configured

A `Config` says how a dispatcher is set up, which handlers of a catalog are bound to which
selectors, and how the log is written.

For each structure `default` is the value that a program starts from when it fills in a
configuration by itself; `initial` is the value of a structure all of whose fields are left out in
a document. The two differ for bindings only: a binding in a document is enabled unless it says
otherwise.
-/

namespace Switchboard

/-- How the lines of the log are laid out. -/
inductive LogFormat where
  | compact
  | full
  | pretty
  | json
deriving DecidableEq, Repr, Inhabited

/-- Where the log goes. -/
inductive LogOutput where
  | stdout
  | stderr
  | file
deriving DecidableEq, Repr, Inhabited

/-- How often a new log file is begun. -/
inductive LogRotation where
  | never
  | minutely
  | hourly
  | daily
deriving DecidableEq, Repr, Inhabited

/-- Which moments in the life of a span are noted. -/
structure SpanEvents where
  opened : Bool
  entered : Bool
  left : Bool
  closed : Bool
deriving DecidableEq, Repr, Inhabited

/-- How the log is written. -/
structure LoggingConfig where
  level : Level
  format : LogFormat
  output : LogOutput
  spanEvents : SpanEvents
  threadIds : Bool
  fileLocation : Bool
  filePath : Option String
  rotation : LogRotation
  filters : Table Level
deriving DecidableEq, Repr

/-- How a dispatcher is set up. -/
structure DispatchConfig where
  defaultPriority : Int
  strict : Bool
deriving DecidableEq, Repr

/-- A binding of a handler, by its name in a catalog, to a selector. -/
structure BindingConfig where
  selector : String
  handler : String
  priority : Option Int
  enabled : Bool
deriving DecidableEq, Repr

/-- A configuration. -/
structure Config where
  dispatch : DispatchConfig
  logging : LoggingConfig
  bindings : List BindingConfig
deriving DecidableEq, Repr

/-- Short lines on standard output, without spans, for levels from info on. -/
instance : Inhabited LoggingConfig :=
  ⟨⟨.info, .compact, .stdout, ⟨false, false, false, false⟩, false, false, none, .never, []⟩⟩

/-- The standard priority, and bindings that cannot be registered are skipped. -/
instance : Inhabited DispatchConfig := ⟨⟨standardPriority, false⟩⟩

/-- A binding that has not been filled in does nothing. -/
instance : Inhabited BindingConfig := ⟨⟨"", "", none, false⟩⟩

instance : Inhabited Config := ⟨⟨default, default, []⟩⟩

namespace BindingConfig

/-- A binding all of whose fields are left out in a document. -/
def initial : BindingConfig := ⟨"", "", none, true⟩

/-- An enabled binding without a priority of its own. -/
def ofNames (selector handler : String) : BindingConfig := ⟨selector, handler, none, true⟩

/-- The binding at a priority. -/
def withPriority (b : BindingConfig) (priority : Int) : BindingConfig :=
  { b with priority := some priority }

end BindingConfig

/-- The names of the levels in a configuration. -/
def Level.choices : List (String × Level) :=
  [("trace", .trace), ("debug", .debug), ("info", .info), ("warn", .warn), ("error", .error)]

namespace LogFormat

/-- The name of a format in a configuration. -/
def name : LogFormat → String
  | compact => "compact"
  | full => "full"
  | pretty => "pretty"
  | json => "json"

/-- The name of a format as one capitalised word. -/
def word : LogFormat → String
  | compact => "Compact"
  | full => "Full"
  | pretty => "Pretty"
  | json => "Json"

/-- The names of the formats in a configuration. -/
def choices : List (String × LogFormat) :=
  [compact, full, pretty, json].map fun f => (f.name, f)

end LogFormat

namespace LogOutput

/-- The name of an output in a configuration. -/
def name : LogOutput → String
  | stdout => "stdout"
  | stderr => "stderr"
  | file => "file"

/-- The name of an output as one capitalised word. -/
def word : LogOutput → String
  | stdout => "Stdout"
  | stderr => "Stderr"
  | file => "File"

/-- The names of the outputs in a configuration. -/
def choices : List (String × LogOutput) := [stdout, stderr, file].map fun o => (o.name, o)

end LogOutput

namespace LogRotation

/-- The name of a rotation in a configuration. -/
def name : LogRotation → String
  | never => "never"
  | minutely => "minutely"
  | hourly => "hourly"
  | daily => "daily"

/-- The name of a rotation as one capitalised word. -/
def word : LogRotation → String
  | never => "Never"
  | minutely => "Minutely"
  | hourly => "Hourly"
  | daily => "Daily"

/-- The names of the rotations in a configuration. -/
def choices : List (String × LogRotation) :=
  [never, minutely, hourly, daily].map fun r => (r.name, r)

end LogRotation

end Switchboard
