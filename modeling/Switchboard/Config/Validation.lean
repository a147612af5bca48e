import Switchboard.Config.Schema
import Switchboard.Text.Blank

/-!
# Checking a configuration

A configuration is refused if the log is to go to a file that it does not name, or if the name of
a log filter is blank. If it asks for strict wiring, every binding is looked at as well, enabled or
not: it needs a selector that can be read and the name of a handler.
-/

namespace Switchboard

/-- The selector of a binding, which also has to name a handler. -/
def BindingConfig.check (b : BindingConfig) : Except EngineError Selector :=
  if b.selector = "" then .error .undefinedSelector
  else
    match Selector.parse b.selector with
    | .error e => .error e
    | .ok s =>
      if Text.allBlank b.handler then .error (.invalidCallback (.unnamed s.text)) else .ok s

/-- Looks at bindings in order, the first of them having an index; the first that is refused is
reported. -/
def checkBindings : Nat → List BindingConfig → Except ConfigError Unit
  | _, [] => .ok ()
  | index, b :: rest =>
    match b.check with
    | .ok _ => checkBindings (index + 1) rest
    | .error e => .error (.binding index e)

/-- Checks how the log is written. -/
def LoggingConfig.check (c : LoggingConfig) : Except ConfigError Unit :=
  if c.output = .file ∧ c.filePath = none then .error (.missingField "logging.file_path")
  else
    match c.filters.names.find? Text.allBlank with
    | some name =>
      .error (.invalid ("Logging filter module name cannot be blank: '" ++ name ++ "'"))
    | none => .ok ()

/-- Checks a configuration. -/
def Config.check (c : Config) : Except ConfigError Unit :=
  match c.logging.check with
  | .error e => .error e
  | .ok _ => if c.dispatch.strict then checkBindings 0 c.bindings else .ok ()

end Switchboard
