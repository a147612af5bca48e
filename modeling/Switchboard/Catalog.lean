import Switchboard.Handler

/-!
# Catalogs

A catalog lends names to handlers, so that a configuration can speak of them. A handler that is
inserted reports the name it has in the catalog; one that is put there as it is keeps its own.
-/

namespace Switchboard

/-- Handlers by name. -/
abbrev Catalog (β : Type) := Table (Handler β)

namespace Catalog

variable {β : Type}

/-- Puts a handler into the catalog as it is; the flag tells whether it replaces another one. -/
def put (c : Catalog β) (name : String) (h : Handler β) : Bool × Catalog β :=
  (Table.contains name c, Table.insert name h c)

/-- Puts a handler into the catalog under its new name; the flag tells whether it replaces another
one. -/
def add (c : Catalog β) (name : String) (h : Handler β) : Bool × Catalog β :=
  c.put name (h.named name)

/-- The handler of a name. -/
def find (c : Catalog β) (name : String) : Except EngineError (Handler β) :=
  match Table.get? name c with
  | some h => .ok h
  | none => .error (.invalidCallback (.unknown name))

/-- The catalog as a record with its names. -/
def inspect (c : Catalog β) : String :=
  "HandlerCatalog \x7b handlers: [" ++ ", ".intercalate (c.names.map Text.quoted) ++ "] \x7d"

end Catalog

end Switchboard
