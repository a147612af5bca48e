import Switchboard.Handler

/-!
# Entries

An entry is a binding of a handler to a selector, as a registry stores it. It is identified by its
`Token`: the registry that made it and the number of its registration there.

Entries are ordered by priority, the higher first, and then by registration, the earlier first:
`Entry.before`.
-/

namespace Switchboard

/-- The identity of an entry. -/
structure Token where
  registry : Nat
  sequence : Nat
deriving DecidableEq, Repr

/-- A stored binding of a handler to a selector. -/
structure Entry (β : Type) where
  token : Token
  selector : Selector
  priority : Int
  handler : Handler β

namespace Entry

variable {β : Type}

/-- The number of the registration. -/
def sequence (e : Entry β) : Nat := e.token.sequence

/-- Whether an entry comes before another one: by a higher priority, or by an earlier registration
at the same priority. -/
def before (a b : Entry β) : Bool :=
  b.priority < a.priority || (a.priority = b.priority && a.sequence < b.sequence)

/-- Inserts an entry into a list in order, in front of the first entry that comes after it. -/
def insertInOrder (e : Entry β) : List (Entry β) → List (Entry β)
  | [] => [e]
  | f :: rest => if e.before f then e :: f :: rest else f :: insertInOrder e rest

/-- Sorts entries into their order. -/
def sort (entries : List (Entry β)) : List (Entry β) := entries.foldr insertInOrder []

/-- The entry as a record with its fields. -/
def inspect (e : Entry β) : String :=
  "HandlerEntry \x7b selector: " ++ Text.quoted e.selector.text ++ ", handler: " ++
    Text.quoted e.handler.name ++ ", priority: " ++ toString e.priority ++ ", sequence: " ++
    toString e.sequence ++ " \x7d"

end Entry

end Switchboard
