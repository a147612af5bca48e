import Switchboard.Table

/-!
# Values

A `Value` is a JSON value. A number is an integer or a double, by the way it was written: `1` and
`1.0` are different values, also for equality. The fields of an object are kept in order of names.
-/

namespace Switchboard

/-- A JSON value. -/
inductive Value where
  | null
  | bool (b : Bool)
  | int (n : Int)
  | double (x : Float)
  | string (s : String)
  | array (items : List Value)
  | object (fields : List (String × Value))
deriving Inhabited

namespace Value

mutual

/-- Equality of values: a number equals a number of its own kind only, doubles compare as numbers,
and arrays and objects compare piece by piece. -/
def same : Value → Value → Bool
  | .null, .null => true
  | .bool a, .bool b => a == b
  | .int a, .int b => a == b
  | .double a, .double b => a == b
  | .string a, .string b => a == b
  | .array a, .array b => sameItems a b
  | .object a, .object b => sameFields a b
  | _, _ => false

/-- Equality of arrays, item by item. -/
def sameItems : List Value → List Value → Bool
  | [], [] => true
  | a :: as, b :: bs => same a b && sameItems as bs
  | _, _ => false

/-- Equality of objects, field by field. -/
def sameFields : List (String × Value) → List (String × Value) → Bool
  | [], [] => true
  | (k, a) :: as, (l, b) :: bs => k == l && same a b && sameFields as bs
  | _, _ => false

end

instance : BEq Value := ⟨same⟩

/-- The object with these fields; of two fields with one name the later counts. -/
def ofPairs (pairs : List (String × Value)) : Value := .object (Table.ofList pairs)

/-- The field of an object, and nothing for any other value. -/
def field? (name : String) : Value → Option Value
  | .object fields => Table.get? name fields
  | _ => none

/-- The least integer that is written without a point or an exponent. -/
def minInt : Int := -(Nat.pow 2 63 : Int)

/-- The greatest integer that is written without a point or an exponent. -/
def maxInt : Int := Nat.pow 2 64 - 1

/-- The number of an integer literal: beyond 64 bits it is a double. -/
def ofInt (n : Int) : Value :=
  if minInt ≤ n ∧ n ≤ maxInt then .int n
  else if n < 0 then .double (-(Float.ofScientific n.natAbs false 0))
  else .double (Float.ofScientific n.natAbs false 0)

/-- The number of a double: one that is not finite has no number and becomes null. -/
def ofFloat (x : Float) : Value := if x.isFinite then .double x else .null

end Value

end Switchboard
