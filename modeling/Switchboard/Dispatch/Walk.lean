import Switchboard.Dispatch.Program

/-!
# Dispatching an event

A trigger lists the entries for its event once, at its start, and then walks along that list: it
invokes one handler after the other on one context. The walk ends early if a handler fails, if it
asks for the walk to stop, or if the predicate of the request accepts its answer; the three are
looked at in this order. Bindings that handlers add or remove on the way do not change the list.

* `walk`: along a list of entries;
* `dispatch`: one event, given how a handler is invoked; `triggerEvent`, `serve`: the same without a
  predicate, also as a service;
* `dispatchMany`: several events one after the other;
* `Bodies.trigger`, `Bodies.serve`, `Bodies.triggerMany`: the same for handlers whose bodies are programs, with a
  bound on triggers running inside each other.
-/

namespace Switchboard

variable {β τ σ : Type}

/-- How an entry's handler is invoked. -/
abbrev Invoke (β τ σ : Type) := Entry β → Context τ → World β σ → Outcome × World β σ

/-- Invokes the handlers of entries in order. `position` counts those invoked before, `collected`
are their answers. -/
def walk (invoke : Invoke β τ σ) (accept : Value → σ → Bool × σ) :
    List (Entry β) → Nat → List Value → Context τ → World β σ →
      Except EngineError Responses × World β σ
  | [], _, collected, _, w => (.ok ⟨collected, false⟩, w)
  | e :: rest, position, collected, ctx, w =>
    let name := e.handler.name
    match invoke e ctx (w.note (.invoking name e.selector.text e.priority position)) with
    | (o, w) =>
      match o.result with
      | .error err =>
        (.error (.handlerFailed ctx.event position ⟨collected, false⟩ err),
          w.note (.handlerFailed position err.message))
      | .ok v =>
        if (ctx.after o).stopped then
          (.ok ⟨collected ++ [v], true⟩, w.note (.propagationStopped name))
        else
          match w.judge accept v with
          | (true, w) => (.ok ⟨collected ++ [v], true⟩, w.note (.predicateAccepted name))
          | (false, w) => walk invoke accept rest (position + 1) (collected ++ [v]) (ctx.after o) w

/-- Dispatches one event. A text that is no event name is refused before anything else happens. -/
def dispatch (invoke : Invoke β τ σ) (q : Request τ σ) (w : World β σ) :
    Except EngineError Responses × World β σ :=
  match Selector.eventName q.event with
  | .error e => (.error e, w)
  | .ok name =>
    w.within (.dispatch name.text) fun w =>
      let entries := (w.registry q.dispatcher).resolve name.name
      walk invoke q.accept entries 0 [] (Context.start name.name q.target q.arguments)
        (w.note (.resolved entries.length))

/-- Triggers an event without a predicate: every handler has its turn unless one before it fails or
stops the walk. -/
def triggerEvent (invoke : Invoke β τ σ) (dispatcher : Nat) (event : String) (target : τ)
    (arguments : Table Value) (w : World β σ) : Except EngineError Responses × World β σ :=
  dispatch invoke ⟨dispatcher, event, target, arguments, Request.never⟩ w

/-- Answers a request that is handed to a dispatcher as to a service: its event is triggered, without
a predicate. -/
def serve (invoke : Invoke β τ σ) (q : Request τ σ) (w : World β σ) :
    Except EngineError Responses × World β σ :=
  triggerEvent invoke q.dispatcher q.event q.target q.arguments w

/-- Dispatches events one after the other and joins their responses. The first that fails ends the
work; the responses of those before it are kept with its own. -/
def dispatchEach (invoke : Invoke β τ σ) (q : Request τ σ) :
    List Selector → Responses → World β σ → Except EngineError Responses × World β σ
  | [], collected, w => (.ok collected, w)
  | name :: rest, collected, w =>
    match triggerEvent invoke q.dispatcher name.name q.target q.arguments w with
    | (.ok r, w) => dispatchEach invoke q rest (collected ++ r) w
    | (.error (.handlerFailed event position r cause), w) =>
      (.error (.handlerFailed event position (collected ++ r) cause), w)
    | (.error e, w) => (.error e, w)

/-- Dispatches several events with the dispatcher, the target and the arguments of a request. All
names are looked at before the first handler runs. -/
def dispatchMany (invoke : Invoke β τ σ) (q : Request τ σ) (events : List String) (w : World β σ) :
    Except EngineError Responses × World β σ :=
  match events.mapM Selector.eventName with
  | .error e => (.error e, w)
  | .ok names => dispatchEach invoke q names Responses.empty w

/-- What the bodies of handlers do. -/
abbrev Bodies (β τ σ : Type) := β → Context τ → Program β τ σ Outcome

namespace Bodies

/-- Invokes a handler by running the program of its body. -/
def invoke (bodies : Bodies β τ σ) (nested : Request τ σ → World β σ → Nested × World β σ) :
    Invoke β τ σ :=
  fun e ctx w => (bodies e.handler.body ctx).run nested w

/-- How events run that are triggered inside a handler, if so many may be running inside each other.
When none may run any more the trigger is refused. -/
def nested (bodies : Bodies β τ σ) : Nat → Request τ σ → World β σ → Nested × World β σ
  | 0, _, w => (none, w)
  | depth + 1, q, w =>
    let done := dispatch (bodies.invoke (bodies.nested depth)) q w
    (some done.1, done.2)

/-- How handlers are invoked outside of any other handler. -/
def invokeAt (bodies : Bodies β τ σ) (depth : Nat) : Invoke β τ σ :=
  bodies.invoke (bodies.nested depth)

/-- Triggers an event. -/
def trigger (bodies : Bodies β τ σ) (depth : Nat) (q : Request τ σ) (w : World β σ) :
    Except EngineError Responses × World β σ :=
  dispatch (bodies.invokeAt depth) q w

/-- Answers a request as a service. -/
def serve (bodies : Bodies β τ σ) (depth : Nat) (q : Request τ σ) (w : World β σ) :
    Except EngineError Responses × World β σ :=
  Switchboard.serve (bodies.invokeAt depth) q w

/-- Triggers several events. -/
def triggerMany (bodies : Bodies β τ σ) (depth : Nat) (q : Request τ σ) (events : List String)
    (w : World β σ) : Except EngineError Responses × World β σ :=
  dispatchMany (bodies.invokeAt depth) q events w

/-- Invokes entries in order on one context, whatever they answer. -/
def invokeAll (bodies : Bodies β τ σ) (depth : Nat) :
    List (Entry β) → Context τ → World β σ → List HandlerResult × Context τ × World β σ
  | [], ctx, w => ([], ctx, w)
  | e :: rest, ctx, w =>
    match bodies.invokeAt depth e ctx w with
    | (o, w) =>
      match invokeAll bodies depth rest (ctx.after o) w with
      | (results, ctx, w) => (o.result :: results, ctx, w)

end Bodies

end Switchboard
