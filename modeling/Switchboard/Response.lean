import Switchboard.Value.Shape

/-!
# Collected responses

A dispatch collects the values that handlers answer, in order, and notes whether it was stopped
before every handler had its turn.
-/

namespace Switchboard

/-- The answers of handlers in order, and whether the dispatch was stopped. -/
structure Responses where
  values : List Value
  stopped : Bool
deriving Inhabited

namespace Responses

/-- No answer yet. -/
def empty : Responses := ⟨[], false⟩

/-- Adds an answer. -/
def push (r : Responses) (v : Value) : Responses := { r with values := r.values ++ [v] }

/-- The answers of two dispatches one after the other; stopped if one of them is. -/
def append (r s : Responses) : Responses := ⟨r.values ++ s.values, r.stopped || s.stopped⟩

instance : Append Responses := ⟨append⟩

/-- The answer at a position. -/
def get? (r : Responses) (i : Nat) : Option Value := r.values[i]?

/-- Whether some answer equals a value. -/
def contains (r : Responses) (v : Value) : Bool := r.values.any fun w => w.same v

/-- Equality of the answers in order and of the flags. -/
def same (r s : Responses) : Bool :=
  Value.sameItems r.values s.values && r.stopped == s.stopped

/-- The responses as a value. -/
def encode (r : Responses) : Value :=
  .object [("responses", .array r.values), ("stopped", .bool r.stopped)]

/-- The name of the structure in messages. -/
def typeName : String := "ResponseCollection"

/-- The fields that have been met while responses are read. -/
structure Draft where
  values : Option (List Value)
  stopped : Option Bool

/-- Reads responses; both fields have to be there. -/
def decode : Shape Responses
  | .object table => do
    let fields := [Shape.field "responses" (Shape.list Shape.any) fun vs (d : Draft) =>
        { d with values := some vs },
      Shape.field "stopped" Shape.bool fun b d => { d with stopped := some b }]
    let draft ← Shape.storeFields fields table ⟨none, none⟩
    match draft.values, draft.stopped with
    | some values, some stopped => .ok ⟨values, stopped⟩
    | none, _ => .error (.missing "responses")
    | _, none => .error (.missing "stopped")
  | .array items => do
    let wanted := "struct " ++ typeName ++ " with 2 elements"
    match items with
    | [] => .error (.length 0 wanted)
    | [v] => do
      let _ ← Shape.list Shape.any v
      .error (.length 1 wanted)
    | v :: w :: rest => do
      let values ← Shape.list Shape.any v
      let stopped ← Shape.bool w
      if rest.isEmpty then .ok ⟨values, stopped⟩
      else .error (.length items.length "fewer elements in array")
  | v => .error (.kind v ("struct " ++ typeName))

@[simp] theorem values_append (r s : Responses) : (r ++ s).values = r.values ++ s.values := rfl

@[simp] theorem stopped_append (r s : Responses) :
    (r ++ s).stopped = (r.stopped || s.stopped) := rfl

end Responses

end Switchboard
