import Switchboard.Session.Interpreter
import Switchboard.Config.Document
import Switchboard.Wiring

/-!
# Sessions

A session works step by step on several dispatchers and registries with scripted handlers. The
dispatchers and the registries are numbered in the order in which they are made; the clone of a
dispatcher is another number for the same one. A step that is refused changes nothing but the log,
and the session goes on.

At most `Session.nestingLimit` triggers of handlers run inside each other.
-/

namespace Switchboard

/-- The dispatchers and registries of a session, and the world they live in. -/
structure Session where
  world : World Scripted Bench
  /-- For each dispatcher of the session its place in the world. -/
  dispatchers : List Nat
  /-- For each registry of the session its place in the world. -/
  registries : List Nat
  /-- The next free place in the world. -/
  next : Nat

/-- Why a step is refused. -/
inductive SessionError where
  | noEntry (id : String)
  | noDispatcher (index : Nat)
  | noRegistry (index : Nat)
  | engine (e : EngineError)
  | host (e : HostError)
  | mismatch (m : Mismatch)

/-- How a handler is attached to a selector. -/
inductive Attachment where
  /-- Without a priority the dispatcher's own is used. -/
  | plain
  /-- Without a priority zero is used. -/
  | atPriority
  /-- As `plain`, with another name for the handler. -/
  | named (name : String)

/-- When a trigger stops behind an answer. -/
inductive StopRule where
  /-- The answer is a text that contains another one. -/
  | contains (part : String)
  /-- It is the answer of this number that is judged, counted from one. -/
  | nth (n : Int)
  | always
  | equals (v : Value)

namespace StopRule

/-- Whether an answer, the `count`-th that is judged, stops the trigger. -/
def holds (rule : StopRule) (count : Nat) (v : Value) : Bool :=
  match rule with
  | contains part =>
    match v with
    | .string s => Matcher.hasInfix part.toList s.toList
    | _ => false
  | nth n => n = count
  | always => true
  | equals w => v.same w

/-- Judges an answer and counts the judgements. -/
def accept (rule : StopRule) : Value → Bench → Bool × Bench := fun v b =>
  (rule.holds (b.asked + 1) v, { b with asked := b.asked + 1 })

end StopRule

/-- A binding that has no handler yet. -/
structure PendingBinding where
  selector : Selector
  priority : Option Int

namespace PendingBinding

/-- The pending binding as a record with its fields. -/
def inspect (p : PendingBinding) : String :=
  "Binding \x7b selector: " ++ Text.quoted p.selector.text ++ ", priority: " ++
    (match p.priority with
      | some n => "Some(" ++ toString n ++ ")"
      | none => "None") ++ " \x7d"

end PendingBinding

namespace Session

/-- How many triggers of handlers may run inside each other. -/
def nestingLimit : Nat := 8

/-- A session with one dispatcher, one registry and an empty catalog. -/
def start (defaultPriority : Int) : Session :=
  { world :=
      { pool := Pool.empty.set 0 (Dispatcher.fresh 0 defaultPriority)
        outside := Bench.empty
        log := Log.empty }
    dispatchers := [0]
    registries := [1]
    next := 2 }

/-- The state that the scripts share. -/
def bench (s : Session) : Bench := s.world.outside

/-- Changes the state that the scripts share. -/
def updateBench (s : Session) (f : Bench → Bench) : Session :=
  { s with world := { s.world with outside := f s.bench } }

/-- The place of a dispatcher in the world. -/
def dispatcherPlace (s : Session) (d : Nat) : Except SessionError Nat :=
  match s.dispatchers[d]? with
  | some place => .ok place
  | none => .error (.noDispatcher d)

/-- The place of a registry in the world. -/
def registryPlace (s : Session) (r : Nat) : Except SessionError Nat :=
  match s.registries[r]? with
  | some place => .ok place
  | none => .error (.noRegistry r)

/-- A remembered entry. -/
def entry (s : Session) (id : String) : Except SessionError (Entry Scripted) :=
  match s.bench.remembered? id with
  | some e => .ok e
  | none => .error (.noEntry id)

/-- Remembers an entry if it is given a name. -/
def remember (s : Session) (id : Option String) (e : Entry Scripted) : Session :=
  match id with
  | some id => s.updateBench fun b => b.remember id e
  | none => s

/-- Makes the handler of a source, for a place in the world. -/
def make (s : Session) (place : Nat) (source : Source) :
    Except EngineError (Handler Scripted) × Session :=
  let made := s.bench.make place source
  (made.1, s.updateBench fun _ => made.2)

/-! ### Dispatchers -/

/-- Makes another dispatcher. -/
def newDispatcher (s : Session) (defaultPriority : Int) : Nat × Session :=
  (s.dispatchers.length,
    { s with
      world := s.world.setDispatcher s.next (Dispatcher.fresh s.next defaultPriority)
      dispatchers := s.dispatchers ++ [s.next]
      next := s.next + 1 })

/-- Gives a dispatcher another number. -/
def cloneDispatcher (s : Session) (d : Nat) : Except SessionError (Nat × Session) := do
  let place ← s.dispatcherPlace d
  return (s.dispatchers.length, { s with dispatchers := s.dispatchers ++ [place] })

/-- Binds a handler to a selector at a place of the world. -/
def bindAt (s : Session) (place : Nat) (selector : Selector) (h : Handler Scripted)
    (priority : Option Int) (id : Option String) : Except EngineError (Entry Scripted) × Session :=
  match s.world.bind place selector h priority with
  | (.ok e, w) => (.ok e, ({ s with world := w }).remember id e)
  | (.error e, w) => (.error e, { s with world := w })

/-- Reads a selector, and only then makes a handler for it. -/
def prepare (s : Session) (maker : Nat) (selector : String) (source : Source) :
    Except EngineError (Selector × Handler Scripted) × Session :=
  match Selector.parse selector with
  | .error e => (.error e, s)
  | .ok selector =>
    match s.make maker source with
    | (.error e, s) => (.error e, s)
    | (.ok h, s) => (.ok (selector, h), s)

/-- Binds a handler on a dispatcher. -/
def on (s : Session) (place : Nat) (selector : String) (source : Source) (priority : Option Int)
    (attachment : Attachment) (id : Option String) :
    Except EngineError (Entry Scripted) × Session :=
  match s.prepare place selector source with
  | (.error e, s) => (.error e, s)
  | (.ok (selector, h), s) =>
    match attachment with
    | .plain => s.bindAt place selector h priority id
    | .atPriority => s.bindAt place selector h (some (priority.getD 0)) id
    | .named name => s.bindAt place selector (h.named name) priority id

/-- A binding that has no handler yet. -/
def pending (selector : String) (priority : Option Int) : Except EngineError PendingBinding :=
  match Selector.parse selector with
  | .ok selector => .ok ⟨selector, priority⟩
  | .error e => .error e

/-- Triggers an event, and tells how many answers were judged. -/
def trigger (s : Session) (q : Request Target Bench) :
    Except EngineError Responses × Nat × Session :=
  let s := s.updateBench fun b => { b with asked := 0 }
  let done := Scripted.program.trigger nestingLimit q s.world
  (done.1, done.2.outside.asked, { s with world := done.2 })

/-- Answers a request as a service. -/
def serve (s : Session) (q : Request Target Bench) : Except EngineError Responses × Session :=
  let done := Scripted.program.serve nestingLimit q s.world
  (done.1, { s with world := done.2 })

/-- Triggers several events. -/
def triggerMany (s : Session) (q : Request Target Bench) (events : List String) :
    Except EngineError Responses × Session :=
  let done := Scripted.program.triggerMany nestingLimit q events s.world
  (done.1, { s with world := done.2 })

/-- The dispatcher at a place of the world. -/
def dispatcherAt (s : Session) (place : Nat) : Dispatcher Scripted := s.world.dispatcher place

/-- The registry at a place of the world. -/
def registryAt (s : Session) (place : Nat) : Registry Scripted := s.world.registry place

/-- Invokes the handler of an entry on a fresh context, outside of any walk. -/
def invoke (s : Session) (e : Entry Scripted) (ctx : Context Target) :
    HandlerResult × Context Target × Session :=
  let done := Scripted.program.invokeAt nestingLimit e ctx s.world
  (done.1.result, ctx.after done.1, { s with world := done.2 })

/-- Removes an entry from a place of the world. -/
def detach (s : Session) (place : Nat) (e : Entry Scripted) : Bool × Session :=
  let done := s.world.detach place e
  (done.1, { s with world := done.2 })

/-- Removes every binding at a place of the world. -/
def clear (s : Session) (place : Nat) : Session := { s with world := s.world.clear place }

/-- Registers configured bindings with handlers of the catalog. -/
def wire (s : Session) (place : Nat) (bindings : Value) (strict : Bool) :
    Except SessionError (WiringReport Scripted) × Session :=
  match Shape.list (BindingConfig.decode .refused) bindings with
  | .error m => (.error (.mismatch m), s)
  | .ok bindings =>
    match s.world.wire place bindings s.bench.catalog strict with
    | (.ok report, w) => (.ok report, { s with world := w })
    | (.error e, w) => (.error (.host e), { s with world := w })

/-! ### Registries -/

/-- Makes another registry. -/
def newRegistry (s : Session) : Nat × Session :=
  (s.registries.length, { s with registries := s.registries ++ [s.next], next := s.next + 1 })

/-- Binds a handler in a registry. -/
def register (s : Session) (place maker : Nat) (selector : String) (source : Source)
    (priority : Option Int) (id : Option String) :
    Except EngineError (Entry Scripted) × Session :=
  match s.prepare maker selector source with
  | (.error e, s) => (.error e, s)
  | (.ok (selector, h), s) => s.bindAt place selector h (some (priority.getD standardPriority)) id

/-- Invokes every entry of a registry for a name in order on one context. -/
def runAll (s : Session) (place : Nat) (ctx : Context Target) :
    List HandlerResult × Context Target × Session :=
  let entries := (s.registryAt place).resolve ctx.event
  match Scripted.program.invokeAll nestingLimit entries ctx s.world with
  | (results, ctx, w) => (results, ctx, { s with world := w })

/-! ### The catalog -/

/-- Puts a handler into the catalog, under its new name or as it is. -/
def addToCatalog (s : Session) (name : String) (source : Source) (keepsName : Bool) :
    Except EngineError Session :=
  match s.make 0 source with
  | (.error e, _) => .error e
  | (.ok h, s) =>
    let (replaced, catalog) :=
      if keepsName then s.bench.catalog.put name h else s.bench.catalog.add name h
    let s := s.updateBench fun b => { b with catalog := catalog }
    .ok (if replaced then { s with world := s.world.note (.catalogReplaced name) } else s)

end Session

end Switchboard
