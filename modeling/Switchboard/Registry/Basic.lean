import Switchboard.Registry.Merge

/-!
# The registry

A registry stores bindings. Those of plain names are kept by name, each name with its entries in
order; those of patterns are kept in a list, each beside its matcher, in order of registration.
Every binding gets the next number of the registry; numbers are not used twice, also after the
registry has been cleared.

* `Registry.register`, `Registry.unregister`, `Registry.clear` change a registry;
* `Registry.resolve` lists the entries for an event name in order;
* `Registry.contains` and the counts look at what is stored.
-/

namespace Switchboard

/-- A pattern's entry beside its matcher. -/
structure PatternEntry (β : Type) where
  entry : Entry β
  matcher : Matcher

/-- The bindings of one dispatcher. -/
structure Registry (β : Type) where
  id : Nat
  exact : Table (List (Entry β))
  patterns : List (PatternEntry β)
  nextSequence : Nat

namespace Registry

variable {β : Type}

/-- A registry without bindings. -/
def empty (id : Nat) : Registry β := ⟨id, [], [], 0⟩

/-- The entries bound to a plain name, in order. -/
def bucket (r : Registry β) (name : String) : List (Entry β) := (Table.get? name r.exact).getD []

/-- Stores a new entry for a plain name. -/
def storeExact (r : Registry β) (e : Entry β) : Registry β :=
  { r with exact := Table.insert e.selector.name (e.insertInOrder (r.bucket e.selector.name)) r.exact }

/-- Stores a new entry for a pattern. -/
def storePattern (r : Registry β) (e : Entry β) (m : Matcher) : Registry β :=
  { r with patterns := r.patterns ++ [⟨e, m⟩] }

/-- What is stored beside an entry for a selector: the matcher of a pattern, nothing for a plain
name. -/
def compile (selector : Selector) : Except EngineError (Option Matcher) :=
  if selector.isPattern then (Matcher.ofSelector selector).map some else .ok none

/-- Binds a handler to a selector. The handler has to be invocable, and a pattern has to have a
matcher; both are looked at before the registration is counted. -/
def register (r : Registry β) (selector : Selector) (handler : Handler β) (priority : Int) :
    Except EngineError (Entry β) × Registry β :=
  if handler.invocable then
    match compile selector with
    | .error err => (.error err, r)
    | .ok matcher =>
      let e : Entry β := ⟨⟨r.id, r.nextSequence⟩, selector, priority, handler⟩
      let counted := { r with nextSequence := r.nextSequence + 1 }
      match matcher with
      | some m => (.ok e, counted.storePattern e m)
      | none => (.ok e, counted.storeExact e)
  else (.error (.invalidCallback (.notInvocable handler.name selector.text)), r)

/-- Whether the entry is stored. -/
def contains (r : Registry β) (e : Entry β) : Bool :=
  if e.selector.isPattern then r.patterns.any fun p => p.entry.token == e.token
  else (r.bucket e.selector.name).any fun f => f.token == e.token

/-- Puts back what is left of a name's entries; a name without entries is dropped. -/
def setBucket (r : Registry β) (name : String) (entries : List (Entry β)) : Registry β :=
  { r with exact :=
      if entries.isEmpty then Table.erase name r.exact else Table.insert name entries r.exact }

/-- Removes an entry. A second removal, or the removal of another registry's entry, changes nothing;
the flag tells whether there was something to remove. -/
def unregister (r : Registry β) (e : Entry β) : Bool × Registry β :=
  if r.contains e then
    if e.selector.isPattern then
      (true, { r with patterns := r.patterns.filter fun p => p.entry.token != e.token })
    else
      let name := e.selector.name
      (true, r.setBucket name ((r.bucket name).filter fun f => f.token != e.token))
  else (false, r)

/-- Removes every binding; the next number stays. -/
def clear (r : Registry β) : Registry β := { r with exact := [], patterns := [] }

/-- The entries of the patterns that accept a name, in order. -/
def acceptedPatterns (r : Registry β) (name : String) : List (Entry β) :=
  Entry.sort ((r.patterns.filter fun p => p.matcher.accepts name).map PatternEntry.entry)

/-- The entries for an event name, in order. -/
def resolve (r : Registry β) (name : String) : List (Entry β) :=
  (Merge.mk (r.bucket name) (r.acceptedPatterns name)).toList

/-- The number of bindings of plain names. -/
def exactCount (r : Registry β) : Nat :=
  (r.exact.map fun named => named.2.length).foldr (· + ·) 0

/-- The number of bindings of patterns. -/
def patternCount (r : Registry β) : Nat := r.patterns.length

/-- The number of bindings. -/
def count (r : Registry β) : Nat := r.exactCount + r.patternCount

/-- The registry as a record with its counts. -/
def inspect (r : Registry β) : String :=
  "HandlerRegistry \x7b exact: " ++ toString r.exactCount ++ ", patterns: " ++
    toString r.patternCount ++ " \x7d"

end Registry

end Switchboard
