import Switchboard.Config.Shorthand
import Switchboard.Text.Blank
import Switchboard.Text.Lowercase

/-!
# Configuration from environment variables

A variable whose name starts with `REACTON_`, in letters of any case, sets the configuration at a
path of fields: the rest of its name in lower case, with two underscores between the fields. White
space at the ends of the name and of its rest does not count. The variable that chooses the profile
sets nothing. The text of a variable is read as shorthand, by `Shorthand.value?`; one variable
with a text that cannot be read makes the whole environment unreadable.

* `Environment.path?`: the path that a variable sets;
* `Environment.layer`: everything that the variables set.
-/

namespace Switchboard.Environment

/-! ### Names -/

/-- What the names of the variables start with. -/
def opening : String := "REACTON_"

/-- Two underscores, from the left, become a point. -/
def pointed : List Char → List Char
  | '_' :: '_' :: rest => '.' :: pointed rest
  | c :: rest => c :: pointed rest
  | [] => []

/-- The path that a variable sets. A name with an empty part sets nothing. -/
def path? (name : String) : Option (List String) :=
  let name := Text.asciiLowercase (Text.trim name)
  if name.toList.take opening.length = (Text.asciiLowercase opening).toList then
    let rest := name.toList.drop opening.length
    if rest = "profile".toList then none
    else
      let path := ((Text.trimChars (pointed rest)).splitOn '.').map String.ofList
      if "" ∈ path then none else some path
  else none

/-! ### Layers -/

/-- A value at the end of a path of fields. -/
def nested : List String → Value → Value
  | [], v => v
  | name :: rest, v => .object [(name, nested rest v)]

/-- What one variable sets, if it sets something. The text of one that does has to be readable; if
it is not, the name of the variable is told. -/
def setting (name text : String) : Except String (Option Value) :=
  match path? name with
  | none => .ok none
  | some path =>
    match Shorthand.value? text with
    | some v => .ok (some (nested path v))
    | none => .error name

/-- Everything that the variables set; where two of them meet, the later name counts. -/
def layer (environment : Table String) : Except String Value := do
  let settings ← environment.mapM fun (name, text) => setting name text
  return Value.mergeAll (settings.filterMap id)

end Switchboard.Environment
