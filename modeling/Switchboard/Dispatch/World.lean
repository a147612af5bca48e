import Switchboard.Log
import Switchboard.Registry.Basic

/-!
# Dispatchers and the world around them

A dispatcher is a registry with a priority for bindings that name none. A `World` is everything
that a running handler can read or change: the dispatchers, each known by a number, the state
outside of them, and the log.

The operations of this file are those of the registry, carried out on a dispatcher of a world and
noted in its log. None of them looks at the state outside.
-/

namespace Switchboard

/-- A registry and the priority of bindings that name none. -/
structure Dispatcher (β : Type) where
  registry : Registry β
  defaultPriority : Int

/-- The priority of bindings that name none, unless a dispatcher has another one. -/
def standardPriority : Int := 1

/-- Dispatchers by number. -/
abbrev Pool (β : Type) := Nat → Dispatcher β

namespace Dispatcher

variable {β : Type}

/-- A dispatcher without bindings. -/
def fresh (id : Nat) (defaultPriority : Int) : Dispatcher β := ⟨Registry.empty id, defaultPriority⟩

/-- The entries for an event, whose name has to be an event name. -/
def resolve (d : Dispatcher β) (event : String) : Except EngineError (List (Entry β)) :=
  match Selector.eventName event with
  | .ok name => .ok (d.registry.resolve name.name)
  | .error e => .error e

/-- The dispatcher as a record with its fields. -/
def inspect (d : Dispatcher β) : String :=
  "Dispatcher \x7b registry: " ++ d.registry.inspect ++ ", default_priority: " ++
    toString d.defaultPriority ++ " \x7d"

end Dispatcher

namespace Pool

variable {β : Type}

/-- Dispatchers of which none has been set up: they are empty and have the standard priority. -/
def empty : Pool β := fun id => Dispatcher.fresh id standardPriority

/-- Sets the dispatcher of a number. -/
def set (p : Pool β) (id : Nat) (d : Dispatcher β) : Pool β :=
  fun other => if other = id then d else p other

theorem set_apply (p : Pool β) (id other : Nat) (d : Dispatcher β) :
    p.set id d other = if other = id then d else p other := rfl

/-- Setting a dispatcher to what it is changes nothing. -/
@[simp] theorem set_self (p : Pool β) (id : Nat) : p.set id (p id) = p := by
  funext other
  unfold set
  split
  next h => rw [h]
  next => rfl

end Pool

/-- The dispatchers, the state outside of them, and the log. -/
structure World (β σ : Type) where
  pool : Pool β
  outside : σ
  log : Log

namespace World

variable {β σ α : Type}

/-- The dispatcher of a number. -/
def dispatcher (w : World β σ) (id : Nat) : Dispatcher β := w.pool id

/-- The registry of a dispatcher. -/
def registry (w : World β σ) (id : Nat) : Registry β := (w.dispatcher id).registry

/-- Sets the dispatcher of a number. -/
def setDispatcher (w : World β σ) (id : Nat) (d : Dispatcher β) : World β σ :=
  { w with pool := w.pool.set id d }

/-- Sets the registry of a dispatcher. -/
def setRegistry (w : World β σ) (id : Nat) (r : Registry β) : World β σ :=
  w.setDispatcher id { w.dispatcher id with registry := r }

/-- Setting a registry to what it is changes nothing. -/
@[simp] theorem setRegistry_self (w : World β σ) (id : Nat) :
    w.setRegistry id (w.registry id) = w :=
  congrArg (fun pool => { w with pool }) (w.pool.set_self id)

/-- Writes a notice. -/
def note (w : World β σ) (n : Notice) : World β σ := { w with log := w.log.note n }

/-- Does some work inside a span. -/
def within (w : World β σ) (s : Span) (work : World β σ → α × World β σ) : α × World β σ :=
  let done := work { w with log := w.log.enter s }
  (done.1, { done.2 with log := done.2.log.leave })

/-- Lets a predicate judge an answer. -/
def judge (w : World β σ) (accept : Value → σ → Bool × σ) (v : Value) : Bool × World β σ :=
  let verdict := accept v w.outside
  (verdict.1, { w with outside := verdict.2 })

/-- Binds a handler to a selector; without a priority the dispatcher's own is used. -/
def bind (w : World β σ) (id : Nat) (selector : Selector) (handler : Handler β)
    (priority : Option Int) : Except EngineError (Entry β) × World β σ :=
  let d := w.dispatcher id
  let p := priority.getD d.defaultPriority
  match d.registry.register selector handler p with
  | (.ok e, r) =>
    (.ok e, (w.setRegistry id r).note (.registered selector.text handler.name p e.sequence))
  | (.error err, r) => (.error err, w.setRegistry id r)

/-- Removes an entry; the flag tells whether there was something to remove. -/
def detach (w : World β σ) (id : Nat) (e : Entry β) : Bool × World β σ :=
  match (w.registry id).unregister e with
  | (true, r) =>
    (true, (w.setRegistry id r).note (.unregistered e.selector.text e.sequence))
  | (false, r) => (false, (w.setRegistry id r).note (.nothingToUnregister e.selector.text))

/-- Removes every binding of a dispatcher. -/
def clear (w : World β σ) (id : Nat) : World β σ := w.setRegistry id (w.registry id).clear

end World

end Switchboard
