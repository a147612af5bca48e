import Switchboard.Error

/-!
# Handlers

A handler has a name for reports, says whether it can be invoked, and carries a body. What a body
is, and how it runs, is left open: the engine takes both as parameters.

`Respond` names the types whose values a body may return as an answer.
-/

namespace Switchboard

/-- A handler with a body of type `β`. -/
structure Handler (β : Type) where
  name : String
  invocable : Bool
  body : β

namespace Handler

variable {β : Type}

/-- A handler that can be invoked. -/
def ofBody (name : String) (body : β) : Handler β := ⟨name, true, body⟩

/-- The same handler under another name. -/
def named (name : String) (h : Handler β) : Handler β := { h with name }

@[simp] theorem invocable_named (name : String) (h : Handler β) :
    (h.named name).invocable = h.invocable := rfl

@[simp] theorem body_named (name : String) (h : Handler β) : (h.named name).body = h.body := rfl

end Handler

/-- Types whose values are answers of handlers. -/
class Respond (α : Type) where
  respond : α → HandlerResult

namespace Respond

variable {α : Type}

instance : Respond Unit := ⟨fun _ => .ok .null⟩
instance : Respond Value := ⟨.ok⟩
instance : Respond String := ⟨fun s => .ok (.string s)⟩
instance : Respond Bool := ⟨fun b => .ok (.bool b)⟩
instance : Respond Int := ⟨fun n => .ok (Value.ofInt n)⟩

/-- A double that is not finite is answered as null. -/
instance : Respond Float := ⟨fun x => .ok (Value.ofFloat x)⟩

/-- Nothing is answered as null. -/
instance [Respond α] : Respond (Option α) :=
  ⟨fun a => match a with
    | some a => respond a
    | none => .ok .null⟩

/-- A failure with a text or with an error is the failure of the handler. -/
instance [Respond α] : Respond (Except HandlerError α) := ⟨fun a => a >>= respond⟩

/-- A list of doubles is answered as an array. -/
instance : Respond (List Float) := ⟨fun xs => .ok (.array (xs.map Value.ofFloat))⟩

/-- A list of pairs with integer keys is answered as an object with the keys in decimal; of two
pairs with one key the later counts. -/
instance : Respond (List (Int × Value)) :=
  ⟨fun pairs => .ok (Value.ofPairs (pairs.map fun (n, v) => (toString n, v)))⟩

/-- A list of pairs whose keys are lists is no object, unless it is empty. -/
instance : Respond (List (List Value × Value)) :=
  ⟨fun pairs => if pairs.isEmpty then .ok (.object []) else .error (.conversion .keyNotText)⟩

/-- A selector is answered by its text. -/
instance : Respond Selector := ⟨fun s => .ok s.encode⟩

end Respond

end Switchboard
