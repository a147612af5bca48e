import Switchboard.Error

/-!
# The log

The log records notices in order. A notice is written inside the spans that are open at that time:
a dispatch opens one around its walk, and so does the wiring of configured bindings.

* `Notice`: what is worth noting, with its `level`, `message` and `fields`;
* `Log.note` adds a notice, `Log.enter` and `Log.leave` open and close a span;
* `spans_note`, `spans_leave_enter`: a notice leaves the spans alone, and closing undoes opening.
-/

namespace Switchboard

/-- How important a notice is. -/
inductive Level where
  | trace
  | debug
  | info
  | warn
  | error
deriving DecidableEq, Repr, Inhabited

/-- A stretch of work that notices are written in. -/
inductive Span where
  /-- The dispatch of an event. -/
  | dispatch (event : String)
  /-- The registration of so many configured bindings. -/
  | wiring (count : Nat) (strict : Bool)
deriving DecidableEq, Repr

/-- What the library notes about its work. -/
inductive Notice where
  | registered (selector handler : String) (priority : Int) (sequence : Nat)
  | unregistered (selector : String) (sequence : Nat)
  | nothingToUnregister (selector : String)
  | resolved (count : Nat)
  | invoking (handler selector : String) (priority : Int) (position : Nat)
  | handlerFailed (position : Nat) (error : String)
  | propagationStopped (handler : String)
  | predicateAccepted (handler : String)
  | catalogReplaced (handler : String)
  | bindingDisabled (index : Nat) (selector : String)
  | bindingSkipped (index : Nat) (selector handler error : String)
  | hostReady (bound skipped disabled : Nat) (defaultPriority : Int)
  | loadingFile (path : String)
  | loadingOverlay (path profile : String)
  | noFileFound (paths : String)
  | loadingEnvironment (environmentPrefix : String)
  | configLoaded (profile level : String) (bindings : Nat) (strict : Bool)
deriving DecidableEq, Repr

namespace Level

/-- The name of a level in the log. -/
def label : Level → String
  | trace => "TRACE"
  | debug => "DEBUG"
  | info => "INFO"
  | warn => "WARN"
  | error => "ERROR"

/-- The name of a level in a configuration. -/
def name : Level → String
  | trace => "trace"
  | debug => "debug"
  | info => "info"
  | warn => "warn"
  | error => "error"

/-- The name of a level as one capitalised word. -/
def word : Level → String
  | trace => "Trace"
  | debug => "Debug"
  | info => "Info"
  | warn => "Warn"
  | error => "Error"

end Level

namespace Span

/-- The name of a span. -/
def name : Span → String
  | dispatch _ => "dispatch"
  | wiring _ _ => "wire_bindings"

/-- What a span is about. -/
def fields : Span → List (String × Value)
  | dispatch event => [("event_name", .string event)]
  | wiring count strict => [("count", .int count), ("strict", .bool strict)]

end Span

namespace Notice

/-- How important a notice is. -/
def level : Notice → Level
  | registered .. | unregistered .. => .debug
  | nothingToUnregister .. | resolved .. | invoking .. => .trace
  | handlerFailed .. | propagationStopped .. | predicateAccepted .. => .debug
  | catalogReplaced .. | bindingDisabled .. => .debug
  | bindingSkipped .. => .warn
  | hostReady .. | loadingFile .. => .info
  | loadingOverlay .. => .debug
  | noFileFound .. => .warn
  | loadingEnvironment .. => .trace
  | configLoaded .. => .debug

/-- The text of a notice. -/
def message : Notice → String
  | registered .. => "Registered handler"
  | unregistered .. => "Unregistered handler"
  | nothingToUnregister .. => "Handler not registered, nothing to remove"
  | resolved .. => "Resolved handlers"
  | invoking .. => "Invoking handler"
  | handlerFailed .. => "Handler failed, aborting dispatch"
  | propagationStopped .. => "Handler stopped propagation"
  | predicateAccepted .. => "Short-circuit predicate accepted response, stopping dispatch"
  | catalogReplaced .. => "Replaced catalog handler"
  | bindingDisabled .. => "Binding disabled, skipping"
  | bindingSkipped .. => "Skipping binding"
  | hostReady .. => "Runtime initialized from configuration"
  | loadingFile .. => "Loading configuration file"
  | loadingOverlay .. => "Loading profile overlay"
  | noFileFound .. => "No configuration file found, using defaults"
  | loadingEnvironment .. => "Loading environment variables"
  | configLoaded .. => "Configuration loaded successfully"

/-- What a notice is about. -/
def fields : Notice → List (String × Value)
  | registered selector handler priority sequence =>
    [("selector", .string selector), ("handler", .string handler), ("priority", .int priority),
      ("sequence", .int sequence)]
  | unregistered selector sequence =>
    [("selector", .string selector), ("sequence", .int sequence)]
  | nothingToUnregister selector => [("selector", .string selector)]
  | resolved count => [("handler_count", .int count)]
  | invoking handler selector priority position =>
    [("handler", .string handler), ("selector", .string selector), ("priority", .int priority),
      ("position", .int position)]
  | handlerFailed position error => [("position", .int position), ("error", .string error)]
  | propagationStopped handler => [("handler", .string handler)]
  | predicateAccepted handler => [("handler", .string handler)]
  | catalogReplaced handler => [("handler", .string handler)]
  | bindingDisabled index selector => [("index", .int index), ("selector", .string selector)]
  | bindingSkipped index selector handler error =>
    [("index", .int index), ("selector", .string selector), ("handler", .string handler),
      ("error", .string error)]
  | hostReady bound skipped disabled defaultPriority =>
    [("bound", .int bound), ("skipped", .int skipped), ("disabled", .int disabled),
      ("default_priority", .int defaultPriority)]
  | loadingFile path => [("path", .string path)]
  | loadingOverlay path profile => [("path", .string path), ("profile", .string profile)]
  | noFileFound paths => [("paths", .string paths)]
  | loadingEnvironment environmentPrefix => [("prefix", .string environmentPrefix)]
  | configLoaded profile level bindings strict =>
    [("profile", .string profile), ("logging_level", .string level), ("bindings", .int bindings),
      ("strict", .bool strict)]

end Notice

/-- A notice with the spans that were open when it was written, from the outside in. -/
structure LogLine where
  notice : Notice
  spans : List Span
deriving DecidableEq, Repr

/-- What has been written, and the spans that are open, from the outside in. -/
structure Log where
  lines : Array LogLine
  spans : List Span

namespace Log

/-- Nothing written yet, and no span open. -/
def empty : Log := ⟨#[], []⟩

/-- Writes a notice. -/
def note (n : Notice) (log : Log) : Log := { log with lines := log.lines.push ⟨n, log.spans⟩ }

/-- Opens a span. -/
def enter (s : Span) (log : Log) : Log := { log with spans := log.spans ++ [s] }

/-- Closes the innermost span. -/
def leave (log : Log) : Log := { log with spans := log.spans.dropLast }

@[simp] theorem spans_note (n : Notice) (log : Log) : (log.note n).spans = log.spans := rfl

@[simp] theorem lines_enter (s : Span) (log : Log) : (log.enter s).lines = log.lines := rfl

@[simp] theorem lines_leave (log : Log) : log.leave.lines = log.lines := rfl

/-- Closing a span undoes its opening. -/
@[simp] theorem spans_leave_enter (s : Span) (log : Log) :
    (log.enter s).leave.spans = log.spans := by
  simp [enter, leave]

@[simp] theorem toList_lines_note (n : Notice) (log : Log) :
    (log.note n).lines.toList = log.lines.toList ++ [⟨n, log.spans⟩] := by
  simp [note]

end Log

end Switchboard
