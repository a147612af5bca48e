import Switchboard.Error
import Switchboard.Value.Inspect

/-!
# What a handler is given and what it gives back

* `Context`: the event, the target and the arguments of a walk, as one handler after the other sees
  them; a handler may set arguments and ask for the walk to stop, and nothing else of the context
  changes;
* `Outcome`: the answer of a handler with its changes to the context;
* `Request`: a wish to trigger an event.
-/

namespace Switchboard

/-- What a handler sees of the event that is being dispatched. -/
structure Context (τ : Type) where
  event : String
  target : τ
  arguments : Table Value
  stopped : Bool

/-- What a handler leaves behind: its answer, the arguments for the handlers after it, and whether
it wants the walk to stop. The event and the target are not a handler's to change: it works on the
context that it has been given and never puts another one in its place. -/
structure Outcome where
  result : HandlerResult
  arguments : Table Value
  stops : Bool

/-- A wish to trigger an event on a dispatcher. The walk also stops behind an answer that `accept`
accepts; in judging it may change the state outside the dispatchers. -/
structure Request (τ σ : Type) where
  dispatcher : Nat
  event : String
  target : τ
  arguments : Table Value
  accept : Value → σ → Bool × σ

namespace Context

variable {τ : Type}

/-- The context of a walk at its start. -/
def start (event : String) (target : τ) (arguments : Table Value) : Context τ :=
  ⟨event, target, arguments, false⟩

/-- The argument of a name. -/
def argument? (ctx : Context τ) (name : String) : Option Value := Table.get? name ctx.arguments

/-- The argument of a name in a wanted shape. -/
def argumentAs {α : Type} (ctx : Context τ) (name : String) (shape : Shape α) :
    Except HandlerError α :=
  match ctx.argument? name with
  | none => .error (.text ("missing argument '" ++ name ++ "'"))
  | some v =>
    match shape v with
    | .ok a => .ok a
    | .error m => .error (.conversion m)

/-- The context as the next handler sees it: the arguments are those that the handler has left, the
event and the target are the same. A walk that has been asked to stop stays so. -/
def after (ctx : Context τ) (o : Outcome) : Context τ :=
  { ctx with arguments := o.arguments, stopped := ctx.stopped || o.stops }

/-- The context as a record with its fields; the target is left out. -/
def inspect (ctx : Context τ) : String :=
  "EventContext \x7b name: " ++ Text.quoted ctx.event ++ ", arguments: " ++
    Value.inspectTable ctx.arguments ++ ", propagation_stopped: " ++
    (if ctx.stopped then "true" else "false") ++ ", .. \x7d"

@[simp] theorem event_after (ctx : Context τ) (o : Outcome) : (ctx.after o).event = ctx.event := rfl

@[simp] theorem target_after (ctx : Context τ) (o : Outcome) : (ctx.after o).target = ctx.target :=
  rfl

end Context

namespace Request

variable {τ σ : Type}

/-- Accepts no answer, so that every handler has its turn. -/
def never : Value → σ → Bool × σ := fun _ s => (false, s)

/-- A request without arguments that lets every handler have its turn. -/
def ofEvent (dispatcher : Nat) (event : String) (target : τ) : Request τ σ :=
  ⟨dispatcher, event, target, [], never⟩

/-- Gives one more argument. -/
def withArgument (q : Request τ σ) (name : String) (v : Value) : Request τ σ :=
  { q with arguments := Table.insert name v q.arguments }

/-- Gives these arguments in place of all others. -/
def withArguments (q : Request τ σ) (arguments : Table Value) : Request τ σ := { q with arguments }

/-- Stops behind the first answer that is accepted. -/
def stoppingAt (q : Request τ σ) (accept : Value → σ → Bool × σ) : Request τ σ := { q with accept }

/-- The request as a record with its fields; the target is left out. -/
def inspect (q : Request τ σ) : String :=
  "TriggerRequest \x7b event: " ++ Text.quoted q.event ++ ", arguments: " ++
    Value.inspectTable q.arguments ++ ", .. \x7d"

end Request

end Switchboard
