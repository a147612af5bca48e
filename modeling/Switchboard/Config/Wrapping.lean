import Switchboard.Table
import Switchboard.Value.Basic

/-!
# Wrapped values in documents

Below its top level a document may write a value as a table that wraps it: such a table has a field
of the reserved name `Wrapping.wrapped` and stands for the value of that field. A second reserved
name, `Wrapping.mark`, belongs to programs; a document that uses it below its top level cannot be
read. At the top level both are names like any other.

* `Wrapping.unwrap`: a value with all that is wrapped in it taken out;
* `Wrapping.document`: the same for the values of a whole document.
-/

namespace Switchboard.Wrapping

/-- The field of the value that a table wraps. -/
def wrapped : String := "___figment_value_value"

/-- The field that no document may set below its top level. -/
def mark : String := "___figment_value_id"

/-- The value of a table, given its fields with their own wrapped values taken out: the value that
it wraps, or the table itself. -/
def collapse (fields : List (String × Value)) : Value :=
  (Table.get? wrapped fields).getD (.object fields)

mutual

/-- Takes out all that is wrapped in a value, and the value itself if it is wrapped. There is no
such value if a document may not have it. -/
def unwrap : Value → Option Value
  | .array items => (unwrapItems items).map .array
  | .object fields => (unwrapFields fields).map collapse
  | .null => some .null
  | .bool b => some (.bool b)
  | .int n => some (.int n)
  | .double x => some (.double x)
  | .string s => some (.string s)

/-- The same for the items of an array. -/
def unwrapItems : List Value → Option (List Value)
  | [] => some []
  | v :: rest => do
    let v ← unwrap v
    let rest ← unwrapItems rest
    some (v :: rest)

/-- The same for the fields of a table. -/
def unwrapFields : List (String × Value) → Option (List (String × Value))
  | [] => some []
  | (name, v) :: rest => do
    if name = mark then none
    let v ← unwrap v
    let rest ← unwrapFields rest
    some ((name, v) :: rest)

end

/-- Takes out all that is wrapped in the value of a field. -/
def unwrapField (field : String × Value) : Option (String × Value) :=
  (unwrap field.2).map (field.1, ·)

/-- The value of a document, with all that is wrapped below its top level taken out. -/
def document : Value → Option Value
  | .object fields => (fields.mapM unwrapField).map .object
  | v => unwrap v

end Switchboard.Wrapping
