import Switchboard.Value.Basic

/-!
# Layers of values

Layers are merged by laying each over the ones before it: objects are merged field by field, and
in place of anything else the later layer counts. `Value.at?` reads a value along a path of fields.
-/

namespace Switchboard.Value

mutual

/-- Lays a value over another one. -/
def merge (base : Value) : Value → Value
  | .object later =>
    match base with
    | .object fields => .object (mergeFields fields later)
    | _ => .object later
  | .null => .null
  | .bool b => .bool b
  | .int n => .int n
  | .double x => .double x
  | .string s => .string s
  | .array items => .array items

/-- Lays fields over the fields of another object. -/
def mergeFields (fields : List (String × Value)) : List (String × Value) → List (String × Value)
  | [] => fields
  | (name, v) :: rest =>
    let merged := match Table.get? name fields with
      | some u => merge u v
      | none => v
    mergeFields (Table.insert name merged fields) rest

end

/-- Lays values over each other, the first one lowest. -/
def mergeAll (layers : List Value) : Value := layers.foldl merge (.object [])

/-- The value at the end of a path of fields. -/
def at? : List String → Value → Option Value
  | [], v => some v
  | name :: rest, v => (v.field? name).bind (at? rest)

end Switchboard.Value
