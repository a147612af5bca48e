import Switchboard.Dispatch.Context
import Switchboard.Dispatch.World

/-!
# Programs of handlers

What a handler does is a `Program`: a tree whose nodes are single steps. It may look at and replace
the state outside the dispatchers, perform an `Operation` on a dispatcher, and trigger further
events. How a triggered event runs is a parameter of `Program.run`; it may also be refused, when
too many triggers are running inside each other.
-/

namespace Switchboard

/-- An operation on a dispatcher. -/
inductive Operation (β : Type) where
  | bind (dispatcher : Nat) (selector : Selector) (handler : Handler β) (priority : Option Int)
  | detach (dispatcher : Nat) (entry : Entry β)
  | clear (dispatcher : Nat)
  | count (dispatcher : Nat)
  | holds (dispatcher : Nat) (entry : Entry β)

namespace Operation

variable {β σ : Type}

/-- What an operation answers. -/
def Reply : Operation β → Type
  | bind .. => Except EngineError (Entry β)
  | detach .. => Bool
  | clear _ => Unit
  | count _ => Nat
  | holds .. => Bool

/-- Performs an operation. -/
def run : (op : Operation β) → World β σ → op.Reply × World β σ
  | bind d selector handler priority, w => w.bind d selector handler priority
  | detach d e, w => w.detach d e
  | clear d, w => ((), w.clear d)
  | count d, w => ((w.registry d).count, w)
  | holds d e, w => ((w.registry d).contains e, w)

end Operation

/-- What a trigger comes to; nothing if it was refused. -/
abbrev Nested := Option (Except EngineError Responses)

/-- The steps of a handler up to a result. -/
inductive Program (β τ σ ρ : Type) where
  | done (result : ρ)
  | look (next : σ → Program β τ σ ρ)
  | store (state : σ) (next : Program β τ σ ρ)
  | perform (op : Operation β) (next : op.Reply → Program β τ σ ρ)
  | trigger (request : Request τ σ) (next : Nested → Program β τ σ ρ)

namespace Program

variable {β τ σ ρ κ : Type}

/-- Goes on with another program. -/
def bind : Program β τ σ ρ → (ρ → Program β τ σ κ) → Program β τ σ κ
  | done r, f => f r
  | look next, f => look fun s => (next s).bind f
  | store s next, f => store s (next.bind f)
  | perform op next, f => perform op fun reply => (next reply).bind f
  | trigger q next, f => trigger q fun reply => (next reply).bind f

instance : Monad (Program β τ σ) where
  pure := done
  bind := bind

/-- Looks at the state outside. -/
def state : Program β τ σ σ := look done

/-- Changes the state outside. -/
def update (f : σ → σ) : Program β τ σ Unit := look fun s => store (f s) (done ())

/-- Binds a handler to a selector. -/
def register (dispatcher : Nat) (selector : Selector) (handler : Handler β)
    (priority : Option Int) : Program β τ σ (Except EngineError (Entry β)) :=
  perform (.bind dispatcher selector handler priority) done

/-- Removes an entry. -/
def detach (dispatcher : Nat) (e : Entry β) : Program β τ σ Bool :=
  perform (.detach dispatcher e) done

/-- Removes every binding. -/
def clear (dispatcher : Nat) : Program β τ σ Unit := perform (.clear dispatcher) done

/-- Counts the bindings. -/
def count (dispatcher : Nat) : Program β τ σ Nat := perform (.count dispatcher) done

/-- Whether an entry is bound. -/
def holds (dispatcher : Nat) (e : Entry β) : Program β τ σ Bool :=
  perform (.holds dispatcher e) done

/-- Triggers one event. -/
def request (q : Request τ σ) : Program β τ σ Nested := trigger q done

/-- Runs a program, given how events that it triggers run. -/
def run (nested : Request τ σ → World β σ → Nested × World β σ) :
    Program β τ σ ρ → World β σ → ρ × World β σ
  | done r, w => (r, w)
  | look next, w => run nested (next w.outside) w
  | store s next, w => run nested next { w with outside := s }
  | perform op next, w => run nested (next (op.run w).1) (op.run w).2
  | trigger q next, w => run nested (next (nested q w).1) (nested q w).2

end Program

end Switchboard
