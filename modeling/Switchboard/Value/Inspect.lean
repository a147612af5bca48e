import Switchboard.Text.Quoted
import Switchboard.Value.Printer

/-!
# Inspecting values

`Value.inspect` writes a value together with its kind, as a report for the reader's eye; it is not
meant to be read back. Strings are quoted as in `Text.quoted`.
-/

namespace Switchboard.Value

/-- Puts parts between braces, without space inside. -/
def braced (parts : List String) : String := "\x7b" ++ ", ".intercalate parts ++ "\x7d"

mutual

/-- A value with its kind. -/
def inspect : Value → String
  | .null => "Null"
  | .bool b => "Bool(" ++ (if b then "true" else "false") ++ ")"
  | .int n => "Number(" ++ toString n ++ ")"
  | .double x => "Number(" ++ doubleText x ++ ")"
  | .string s => "String(" ++ Text.quoted s ++ ")"
  | .array items => "Array [" ++ ", ".intercalate (inspectItems items) ++ "]"
  | .object fields => "Object " ++ braced (inspectFields fields)

/-- The items of an array. -/
def inspectItems : List Value → List String
  | [] => []
  | v :: rest => inspect v :: inspectItems rest

/-- The fields of an object, each name quoted. -/
def inspectFields : List (String × Value) → List String
  | [] => []
  | (name, v) :: rest => (Text.quoted name ++ ": " ++ inspect v) :: inspectFields rest

end

/-- A table of values between braces. -/
def inspectTable (t : Table Value) : String := braced (inspectFields t)

end Switchboard.Value
