import Switchboard.Response
import Switchboard.Selector.Matcher

/-!
# Errors

Four kinds of errors build on each other: what a handler reports, what the engine refuses, what is
wrong with a configuration, and what a host of a configured engine meets. A handler may report any
of them in turn, so the four types are mutually inductive.

* `message`: the text of an error;
* `causes`: the texts of the errors behind it, the nearest first. The error of a handler that wraps
  another error has that error's text and also names it as its first cause. Errors that merely pass
  another one on have its text and its causes.
-/

namespace Switchboard

/-- What is wrong with the handler of a binding. -/
inductive CallbackFault where
  /-- The handler cannot be invoked. -/
  | notInvocable (handler selector : String)
  /-- No handler has the name. -/
  | unknown (handler : String)
  /-- The binding names no handler. -/
  | unnamed (selector : String)
  /-- A reason given in words. -/
  | stated (reason : String)
deriving DecidableEq, Repr

/-- Why a configuration cannot be read. -/
inductive ParseFault where
  /-- The file has an extension that is not read. -/
  | format (extension : String)
  /-- The file is not in the format that its extension names. -/
  | document (path : String)
  /-- The document has another shape than a configuration. -/
  | shape (mismatch : Mismatch)
  /-- A reason given in words. -/
  | stated (reason : String)

mutual

/-- Why a handler fails. -/
inductive HandlerError where
  /-- A reason in words. -/
  | text (message : String)
  /-- A value had another shape. -/
  | conversion (mismatch : Mismatch)
  /-- Another handler's error. -/
  | handler (cause : HandlerError)
  /-- An error of the engine. -/
  | engine (cause : EngineError)
  /-- An error in a configuration. -/
  | config (cause : ConfigError)
  /-- An error of a host. -/
  | host (cause : HostError)

/-- Why the engine refuses a request, or how a dispatch ends early. -/
inductive EngineError where
  | invalidSelector (text : String)
  | invalidEventName (text : String)
  | invalidCallback (fault : CallbackFault)
  | undefinedSelector
  | unsupportedOperator (text : String)
  | notAPattern (selector : String)
  /-- The handler at a position of the walk failed; the responses before it are kept. -/
  | handlerFailed (event : String) (position : Nat) (collected : Responses) (cause : HandlerError)

/-- What is wrong with a configuration. -/
inductive ConfigError where
  | fileNotFound (path : String)
  | unreadable (fault : ParseFault)
  | invalid (reason : String)
  | missingField (field : String)
  /-- The binding at an index of the list is refused. -/
  | binding (index : Nat) (cause : EngineError)

/-- What goes wrong while a configured engine is built or used. -/
inductive HostError where
  | config (cause : ConfigError)
  /-- The binding at an index of the list cannot be registered. -/
  | wiring (index : Nat) (selector handler : String) (cause : EngineError)
  | engine (cause : EngineError)

end

instance : Inhabited HandlerError := ⟨.text ""⟩
instance : Inhabited EngineError := ⟨.undefinedSelector⟩

/-- The answer of a handler. -/
abbrev HandlerResult := Except HandlerError Value

/-- The reason in words. -/
def CallbackFault.message : CallbackFault → String
  | notInvocable handler selector =>
    "handler '" ++ handler ++ "' bound to '" ++ selector ++ "' is not invocable"
  | unknown handler => "no handler named '" ++ handler ++ "'"
  | unnamed selector => "no handler named for selector '" ++ selector ++ "'"
  | stated reason => reason

/-- The reason in words. -/
def ParseFault.message : ParseFault → String
  | format extension => "Unsupported or disabled configuration file format: ." ++ extension
  | document path => "not a document: " ++ path
  | shape mismatch => mismatch.message
  | stated reason => reason

/-- What selectors are made of. -/
def selectorGrammar : String :=
  "letters, numbers, colon (:), dot (.), underscore (_), dash (-), " ++
    "optionally prefixed with a jQuery-style attribute operator (^=, $=, *=, ~=, !=)"

mutual

/-- The text of a handler's error. -/
def HandlerError.message : HandlerError → String
  | .text message => message
  | .conversion mismatch => mismatch.message
  | .handler cause => cause.message
  | .engine cause => cause.message
  | .config cause => cause.message
  | .host cause => cause.message

/-- The text of an error of the engine. -/
def EngineError.message : EngineError → String
  | .invalidSelector text =>
    "invalid selector '" ++ text ++ "': a valid selector consists of " ++ selectorGrammar
  | .invalidEventName text => "'" ++ text ++ "' is not a valid event name"
  | .invalidCallback fault => "invalid callback: " ++ fault.message
  | .undefinedSelector => "no event selector has been defined"
  | .unsupportedOperator text => "unsupported selector operator '" ++ text ++ "'"
  | .notAPattern selector => "selector '" ++ selector ++ "' is a plain event name, not a pattern"
  | .handlerFailed event position _ cause =>
    "handler #" ++ toString position ++ " for event '" ++ event ++ "' failed: " ++ cause.message

/-- The text of an error in a configuration. -/
def ConfigError.message : ConfigError → String
  | .fileNotFound path => "Configuration file not found: " ++ path
  | .unreadable fault => "Failed to parse configuration: " ++ fault.message
  | .invalid reason => "Invalid configuration: " ++ reason
  | .missingField field => "Missing required configuration field: " ++ field
  | .binding index cause => "Invalid binding #" ++ toString index ++ ": " ++ cause.message

/-- The text of an error of a host. -/
def HostError.message : HostError → String
  | .config cause => cause.message
  | .wiring index selector handler cause =>
    "Failed to wire binding #" ++ toString index ++ " ('" ++ selector ++ "' -> '" ++ handler ++
      "'): " ++ cause.message
  | .engine cause => cause.message

end

mutual

/-- The texts of what stands behind a handler's error. -/
def HandlerError.causes : HandlerError → List String
  | .text _ => []
  | .conversion mismatch => [mismatch.message]
  | .handler cause => cause.message :: cause.causes
  | .engine cause => cause.message :: cause.causes
  | .config cause => cause.message :: cause.causes
  | .host cause => cause.message :: cause.causes

/-- The texts of what stands behind an error of the engine. -/
def EngineError.causes : EngineError → List String
  | .handlerFailed _ _ _ cause => cause.message :: cause.causes
  | _ => []

/-- The texts of what stands behind an error in a configuration. -/
def ConfigError.causes : ConfigError → List String
  | .binding _ cause => cause.message :: cause.causes
  | _ => []

/-- The texts of what stands behind an error of a host. -/
def HostError.causes : HostError → List String
  | .config cause => cause.causes
  | .wiring _ _ _ cause => cause.message :: cause.causes
  | .engine cause => cause.causes

end

/-- The responses that were collected before a handler failed. -/
def EngineError.collected? : EngineError → Option Responses
  | .handlerFailed _ _ collected _ => some collected
  | _ => none

/-- Reads a selector, or says what was wrong. -/
def Selector.parse (text : String) : Except EngineError Selector :=
  match Selector.parse? text with
  | some s => .ok s
  | none => .error (.invalidSelector text)

/-- Reads an event name, or says what was wrong. -/
def Selector.eventName (text : String) : Except EngineError Selector :=
  match Selector.eventName? text with
  | some s => .ok s
  | none => .error (.invalidEventName text)

/-- Reads an operator, or says what was wrong. -/
def Operator.parse (text : String) : Except EngineError Operator :=
  match Operator.parse? text with
  | some op => .ok op
  | none => .error (.unsupportedOperator text)

/-- The matcher of a selector, which has to be a pattern. -/
def Matcher.ofSelector (s : Selector) : Except EngineError Matcher :=
  match Matcher.ofSelector? s with
  | some m => .ok m
  | none => .error (.notAPattern s.text)

/-- Reads a selector from a value: a text that is one. -/
def Selector.decode : Shape Selector := fun v => do
  let text ← Shape.text v
  match Selector.parse text with
  | .ok s => .ok s
  | .error e => .error (.refused e.message)

/-- The value of a selector: its text. -/
def Selector.encode (s : Selector) : Value := .string s.text

end Switchboard
