import Switchboard.Table
import Switchboard.Text.Lowercase

/-!
# Profiles

A profile names the circumstances that a program runs in. A configuration file may have an overlay
for each profile.
-/

namespace Switchboard

/-- The circumstances that a program runs in. -/
inductive Profile where
  | development
  | production
  | custom (name : String)
deriving DecidableEq, Repr

instance : Inhabited Profile := ⟨.development⟩

namespace Profile

/-- The name of a profile. -/
def name : Profile → String
  | development => "development"
  | production => "production"
  | custom name => name

/-- The profile of a text, in which the case of letters does not count. The two built-in profiles
have short names as well. -/
def parse (text : String) : Profile :=
  let lowered := Text.lowercase text
  if lowered = "production" ∨ lowered = "prod" then production
  else if lowered = "development" ∨ lowered = "dev" then development
  else custom lowered

/-- The variable that chooses the profile. -/
def chosenBy : String := "REACTON_PROFILE"

/-- The profile that the environment chooses. -/
def ofEnvironment (environment : Table String) : Profile :=
  ((Table.get? chosenBy environment).map parse).getD default

end Profile

end Switchboard
