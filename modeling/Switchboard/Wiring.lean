import Switchboard.Catalog
import Switchboard.Config.Validation

/-!
# Wiring configured bindings

Wiring registers the bindings of a configuration on a dispatcher, in their order, with handlers
from a catalog. Disabled bindings are counted and left alone. A binding that cannot be registered
is skipped and reported; under strict wiring the first such binding ends the work with an error,
and what has been registered before stays.
-/

namespace Switchboard

variable {β σ : Type}

/-- A binding that was not registered. -/
structure SkippedBinding where
  index : Nat
  selector : String
  handler : String
  reason : EngineError

/-- What wiring has done. -/
structure WiringReport (β : Type) where
  bound : List (Entry β)
  skipped : List SkippedBinding
  disabled : Nat

namespace WiringReport

/-- Nothing done yet. -/
def empty : WiringReport β := ⟨[], [], 0⟩

/-- Whether no binding was skipped. -/
def isComplete (r : WiringReport β) : Bool := r.skipped.isEmpty

/-- Adds a registered binding. -/
def addBound (r : WiringReport β) (e : Entry β) : WiringReport β :=
  { r with bound := r.bound ++ [e] }

/-- Adds a skipped binding. -/
def addSkipped (r : WiringReport β) (s : SkippedBinding) : WiringReport β :=
  { r with skipped := r.skipped ++ [s] }

/-- Counts a disabled binding. -/
def addDisabled (r : WiringReport β) : WiringReport β := { r with disabled := r.disabled + 1 }

end WiringReport

/-- The selector and the handler that a binding stands for. -/
def BindingConfig.lookUp (b : BindingConfig) (catalog : Catalog β) :
    Except EngineError (Selector × Handler β) :=
  match b.check with
  | .error e => .error e
  | .ok selector =>
    match catalog.find b.handler with
    | .error e => .error e
    | .ok handler => .ok (selector, handler)

namespace World

/-- Registers one binding on a dispatcher. -/
def wireOne (w : World β σ) (id : Nat) (catalog : Catalog β) (b : BindingConfig) :
    Except EngineError (Entry β) × World β σ :=
  match b.lookUp catalog with
  | .error e => (.error e, w)
  | .ok (selector, handler) => w.bind id selector handler b.priority

/-- Registers bindings in order, the first of them having an index. -/
def wireFrom (id : Nat) (catalog : Catalog β) (strict : Bool) :
    Nat → List BindingConfig → WiringReport β → World β σ →
      Except HostError (WiringReport β) × World β σ
  | _, [], report, w => (.ok report, w)
  | index, b :: rest, report, w =>
    if b.enabled then
      match w.wireOne id catalog b with
      | (.ok e, w) => wireFrom id catalog strict (index + 1) rest (report.addBound e) w
      | (.error e, w) =>
        if strict then (.error (.wiring index b.selector b.handler e), w)
        else
          wireFrom id catalog strict (index + 1) rest
            (report.addSkipped ⟨index, b.selector, b.handler, e⟩)
            (w.note (.bindingSkipped index b.selector b.handler e.message))
    else
      wireFrom id catalog strict (index + 1) rest report.addDisabled
        (w.note (.bindingDisabled index b.selector))

/-- Registers the bindings of a configuration on a dispatcher. -/
def wire (w : World β σ) (id : Nat) (bindings : List BindingConfig) (catalog : Catalog β)
    (strict : Bool) : Except HostError (WiringReport β) × World β σ :=
  w.within (.wiring bindings.length strict)
    (wireFrom id catalog strict 0 bindings WiringReport.empty)

end World

end Switchboard
