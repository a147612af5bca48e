import Switchboard.Text.Quoted
import Switchboard.Value.Printer

/-!
# Values of a given shape

A reader of type `Shape α` turns a value into an `α` or tells why it has another shape. The first
mismatch ends the reading: the fields of an object are visited in order of names, the items of an
array in order, and the length of an array is looked at last.

* `Mismatch`, `Mismatch.message`: why a value does not fit;
* `Shape.int`, `Shape.string`, `Shape.list`, …: readers for the plain types;
* `Shape.choice`, `Shape.record`: readers for enumerations and structures.
-/

namespace Switchboard

/-- Why a value does not have a wanted shape. -/
inductive Mismatch where
  /-- Another kind of value is wanted. -/
  | kind (found : Value) (wanted : String)
  /-- An integer does not fit into the wanted type. -/
  | range (n : Int) (wanted : String)
  /-- An array has another length. -/
  | length (n : Nat) (wanted : String)
  /-- An object lacks a field. -/
  | missing (field : String)
  /-- A name is none of the choices. -/
  | variant (name : String) (choices : List String)
  /-- An object in place of a choice does not have exactly one field. -/
  | notSingle
  /-- A map has a key that is no text. -/
  | keyNotText
  /-- A text is refused for a reason of its own. -/
  | refused (reason : String)
deriving Inhabited

namespace Mismatch

/-- How a value is called in a message. -/
def describe : Value → String
  | .null => "null"
  | .bool b => "boolean `" ++ (if b then "true" else "false") ++ "`"
  | .int n => "integer `" ++ toString n ++ "`"
  | .double x => "floating point `" ++ Value.doubleText x ++ "`"
  | .string s => "string " ++ Text.quoted s
  | .array _ => "sequence"
  | .object _ => "map"

/-- The choices of an enumeration in a message. -/
def listed : List String → String
  | [] => "there are no variants"
  | [a] => "expected `" ++ a ++ "`"
  | [a, b] => "expected `" ++ a ++ "` or `" ++ b ++ "`"
  | names => "expected one of " ++ ", ".intercalate (names.map fun name => "`" ++ name ++ "`")

/-- The text of a mismatch. -/
def message : Mismatch → String
  | kind found wanted => "invalid type: " ++ describe found ++ ", expected " ++ wanted
  | range n wanted => "invalid value: integer `" ++ toString n ++ "`, expected " ++ wanted
  | length n wanted => "invalid length " ++ toString n ++ ", expected " ++ wanted
  | missing field => "missing field `" ++ field ++ "`"
  | variant name choices => "unknown variant `" ++ name ++ "`, " ++ listed choices
  | notSingle => "invalid value: map, expected map with a single key"
  | keyNotText => "key must be a string"
  | refused reason => reason

end Mismatch

/-- A reader of values. -/
abbrev Shape (α : Type) := Value → Except Mismatch α

namespace Shape

variable {α β σ : Type}

/-- Any value. -/
def any : Shape Value := .ok

/-- An integer between two bounds. -/
def int (low high : Int) (wanted : String) : Shape Int
  | .int n => if low ≤ n ∧ n ≤ high then .ok n else .error (.range n wanted)
  | v => .error (.kind v wanted)

/-- A signed integer of 64 bits. -/
def int64 : Shape Int := int (-(Nat.pow 2 63 : Int)) (Nat.pow 2 63 - 1) "i64"

/-- An unsigned integer of 32 bits. -/
def nat32 : Shape Int := int 0 (Nat.pow 2 32 - 1) "u32"

/-- An unsigned integer of 8 bits. -/
def nat8 : Shape Int := int 0 255 "u8"

/-- A double; an integer is taken as the nearest one. -/
def double : Shape Float
  | .double x => .ok x
  | .int n => .ok (Float.ofInt n)
  | v => .error (.kind v "f64")

/-- A truth value. -/
def bool : Shape Bool
  | .bool b => .ok b
  | v => .error (.kind v "a boolean")

/-- A text. -/
def string (wanted : String) : Shape String
  | .string s => .ok s
  | v => .error (.kind v wanted)

/-- A text. -/
def text : Shape String := string "a string"

/-- The path of a file. -/
def path : Shape String := string "path string"

/-- Null. -/
def unit : Shape Unit
  | .null => .ok ()
  | v => .error (.kind v "unit")

/-- Null, or a value of a shape. -/
def option (shape : Shape α) : Shape (Option α)
  | .null => .ok none
  | v => (shape v).map some

/-- An array of values of one shape. -/
def list (shape : Shape α) : Shape (List α)
  | .array items => items.mapM shape
  | v => .error (.kind v "a sequence")

/-- An object with values of one shape. -/
def table (shape : Shape α) : Shape (Table α)
  | .object fields => fields.mapM fun (name, v) => (shape v).map (name, ·)
  | v => .error (.kind v "a map")

/-- An array of two values. -/
def pair (first : Shape α) (second : Shape β) : Shape (α × β)
  | .array items =>
    match items with
    | [] => .error (.length 0 "a tuple of size 2")
    | [a] => do let _ ← first a; .error (.length 1 "a tuple of size 2")
    | a :: b :: rest => do
      let a ← first a
      let b ← second b
      if rest.isEmpty then .ok (a, b)
      else .error (.length (rest.length + 2) "fewer elements in array")
  | v => .error (.kind v "a tuple of size 2")

/-- One of some named choices, given by its name or by an object whose only field has that name and
is null. -/
def choice (choices : List (String × α)) : Shape α :=
  let pick := fun (name : String) => match choices.find? fun c => c.1 == name with
    | some c => .ok c.2
    | none => .error (.variant name (choices.map Prod.fst))
  fun v => match v with
    | .string name => pick name
    | .object [(name, content)] => do
      let a ← pick name
      let _ ← unit content
      .ok a
    | .object _ => .error .notSingle
    | v => .error (.kind v "string or map")

/-- A field of a structure: how a value is stored in it. -/
structure Field (σ : Type) where
  name : String
  store : Value → σ → Except Mismatch σ

/-- A field that holds a value of a shape. -/
def field (name : String) (shape : Shape α) (set : α → σ → σ) : Field σ :=
  ⟨name, fun v s => (shape v).map (set · s)⟩

/-- Stores the fields of an object; a name that is no field is passed over. -/
def storeFields (fields : List (Field σ)) : List (String × Value) → σ → Except Mismatch σ
  | [], s => .ok s
  | (name, v) :: rest, s =>
    match fields.find? fun f => f.name == name with
    | some f => f.store v s >>= storeFields fields rest
    | none => storeFields fields rest s

/-- Stores the items of an array in the fields in their order. -/
def storeItems : List (Field σ) → List Value → σ → Except Mismatch σ
  | f :: fields, v :: rest, s => f.store v s >>= storeItems fields rest
  | _, _, s => .ok s

/-- What becomes of the items of an array that a structure has no fields for. -/
inductive Surplus where
  | refused
  | ignored
deriving DecidableEq, Repr

/-- A structure all of whose fields may be left out: an object with its fields, or an array with
the values of the first of them. -/
def record (typeName : String) (fields : List (Field σ)) (initial : σ) (surplus : Surplus) : Shape σ
  | .object table => storeFields fields table initial
  | .array items => do
    let s ← storeItems fields items initial
    if items.length ≤ fields.length ∨ surplus = .ignored then .ok s
    else .error (.length items.length "fewer elements in array")
  | v => .error (.kind v ("struct " ++ typeName))

end Shape

end Switchboard
