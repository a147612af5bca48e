import Switchboard.Config.Schema

/-!
# Configurations as documents

A document is a value; a configuration is written to one and read from one. Writing gives every
field a value, except an absent file path and an absent priority of a binding, which are left out.
Reading takes the initial value for what is left out and passes over names that are no fields. An
array may stand for a structure; the reader says what becomes of items that there is no field for.
-/

namespace Switchboard

namespace SpanEvents

/-- The fields in the order of the structure. -/
def fields : List (Shape.Field SpanEvents) :=
  [Shape.field "new" Shape.bool fun b s => { s with opened := b },
    Shape.field "enter" Shape.bool fun b s => { s with entered := b },
    Shape.field "exit" Shape.bool fun b s => { s with left := b },
    Shape.field "close" Shape.bool fun b s => { s with closed := b }]

/-- Reads span events. -/
def decode (surplus : Shape.Surplus) : Shape SpanEvents :=
  Shape.record "SpanEventConfig" fields default surplus

/-- Writes span events. -/
def encode (s : SpanEvents) : Value :=
  .object [("close", .bool s.closed), ("enter", .bool s.entered), ("exit", .bool s.left),
    ("new", .bool s.opened)]

end SpanEvents

namespace LoggingConfig

/-- The fields in the order of the structure. -/
def fields (surplus : Shape.Surplus) : List (Shape.Field LoggingConfig) :=
  [Shape.field "level" (Shape.choice Level.choices) fun x c => { c with level := x },
    Shape.field "format" (Shape.choice LogFormat.choices) fun x c => { c with format := x },
    Shape.field "output" (Shape.choice LogOutput.choices) fun x c => { c with output := x },
    Shape.field "span_events" (SpanEvents.decode surplus) fun x c => { c with spanEvents := x },
    Shape.field "thread_ids" Shape.bool fun x c => { c with threadIds := x },
    Shape.field "file_location" Shape.bool fun x c => { c with fileLocation := x },
    Shape.field "file_path" (Shape.option Shape.path) fun x c => { c with filePath := x },
    Shape.field "rotation" (Shape.choice LogRotation.choices) fun x c => { c with rotation := x },
    Shape.field "filters" (Shape.table (Shape.choice Level.choices)) fun x c =>
      { c with filters := x }]

/-- Reads a logging configuration. -/
def decode (surplus : Shape.Surplus) : Shape LoggingConfig :=
  Shape.record "LoggingConfig" (fields surplus) default surplus

/-- Writes a logging configuration. -/
def encode (c : LoggingConfig) : Value :=
  .object <|
    [("file_location", .bool c.fileLocation)] ++
    (c.filePath.toList.map fun path => ("file_path", .string path)) ++
    [("filters", .object (c.filters.map fun (name, level) => (name, .string level.name))),
      ("format", .string c.format.name), ("level", .string c.level.name),
      ("output", .string c.output.name), ("rotation", .string c.rotation.name),
      ("span_events", c.spanEvents.encode), ("thread_ids", .bool c.threadIds)]

end LoggingConfig

namespace DispatchConfig

/-- The fields in the order of the structure. -/
def fields : List (Shape.Field DispatchConfig) :=
  [Shape.field "default_priority" Shape.int64 fun x c => { c with defaultPriority := x },
    Shape.field "strict" Shape.bool fun x c => { c with strict := x }]

/-- Reads a dispatch configuration. -/
def decode (surplus : Shape.Surplus) : Shape DispatchConfig :=
  Shape.record "DispatchConfig" fields default surplus

/-- Writes a dispatch configuration. -/
def encode (c : DispatchConfig) : Value :=
  .object [("default_priority", .int c.defaultPriority), ("strict", .bool c.strict)]

end DispatchConfig

namespace BindingConfig

/-- The fields in the order of the structure. -/
def fields : List (Shape.Field BindingConfig) :=
  [Shape.field "selector" Shape.text fun x c => { c with selector := x },
    Shape.field "handler" Shape.text fun x c => { c with handler := x },
    Shape.field "priority" (Shape.option Shape.int64) fun x c => { c with priority := x },
    Shape.field "enabled" Shape.bool fun x c => { c with enabled := x }]

/-- Reads a binding. -/
def decode (surplus : Shape.Surplus) : Shape BindingConfig :=
  Shape.record "BindingConfig" fields initial surplus

/-- Writes a binding. -/
def encode (c : BindingConfig) : Value :=
  .object <|
    [("enabled", .bool c.enabled), ("handler", .string c.handler)] ++
    (c.priority.toList.map fun p => ("priority", .int p)) ++
    [("selector", .string c.selector)]

end BindingConfig

namespace Config

/-- The fields in the order of the structure. -/
def fields (surplus : Shape.Surplus) : List (Shape.Field Config) :=
  [Shape.field "dispatch" (DispatchConfig.decode surplus) fun x c => { c with dispatch := x },
    Shape.field "logging" (LoggingConfig.decode surplus) fun x c => { c with logging := x },
    Shape.field "bindings" (Shape.list (BindingConfig.decode surplus)) fun x c =>
      { c with bindings := x }]

/-- Reads a configuration. -/
def decode (surplus : Shape.Surplus) : Shape Config :=
  Shape.record "ReactonConfig" (fields surplus) default surplus

/-- Writes a configuration. -/
def encode (c : Config) : Value :=
  .object [("bindings", .array (c.bindings.map BindingConfig.encode)),
    ("dispatch", c.dispatch.encode), ("logging", c.logging.encode)]

end Config

end Switchboard
