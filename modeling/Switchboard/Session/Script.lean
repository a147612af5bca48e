import Switchboard.Dispatch.Walk
import Switchboard.Catalog

/-!
# Scripted handlers

A handler can be given as a script: a list of actions and an expression for its answer. A script
sees its context, counts its own calls, keeps the last result of its own requests, and can register,
detach and trigger on the dispatcher it was made for.

* `Expr`, `Action`, `Script`: the language;
* `Target`: what an event is about: the ledger, a text, or nothing;
* `Scripted`: the body of a scripted handler, a script made into a handler of a dispatcher;
* `Bench`: the state outside the dispatchers that scripts share.
-/

namespace Switchboard

/-- The shape that an argument is wanted in. -/
inductive ArgumentType where
  | nat8
  | nat32
  | int64
  | double
  | bool
  | text
  | unit
  | optionNat32
  | listNat32
  | pair
  | tableInt64
  | selector
  | any
deriving DecidableEq, Repr

/-- What a script can compute. -/
inductive Expr where
  | const (v : Value)
  /-- The name of the event. -/
  | event
  /-- An argument, null if it is missing. -/
  | argument (name : String)
  /-- All arguments. -/
  | arguments
  /-- Whether the walk has been asked to stop. -/
  | stopped
  /-- How often the handler has been called. -/
  | calls
  /-- The number of bindings of the dispatcher. -/
  | count
  /-- Whether a remembered entry is bound. -/
  | holds (id : String)
  /-- The result of the last request to the dispatcher. -/
  | nested
  /-- Whether the event is about the ledger. -/
  | hasLedger
  /-- The text that the event is about, if it is one. -/
  | targetText
  /-- The pieces joined to one text. -/
  | join (parts : List Expr)
  /-- The context as a record. -/
  | inspect
  /-- An argument in a given shape. -/
  | argumentAs (name : String) (type : ArgumentType)
deriving Inhabited

mutual

/-- What a script can do. -/
inductive Action where
  | stop
  | set (name : String) (e : Expr)
  /-- Adds a line to the ledger. -/
  | push (e : Expr)
  | fail (message : String)
  /-- Binds a handler and remembers its entry. -/
  | on (id selector : String) (priority : Option Int) (handler : Source)
  | detach (id : String)
  | clear
  | trigger (event : String)
  /-- Goes one way if two values are equal and the other way if not. -/
  | choose (left right : Expr) (equal different : List Action)

/-- Where a handler comes from. -/
inductive Source where
  /-- A handler of the catalog. -/
  | catalog (name : String)
  /-- A script of its own. -/
  | script (name : String) (invocable : Bool) (actions : List Action) (answer : Expr)

end

instance : Inhabited Action := ⟨.stop⟩
instance : Inhabited Source := ⟨.catalog ""⟩

/-- What an event is about. -/
inductive Target where
  | ledger
  | text (s : String)
  | nothing
deriving DecidableEq, Repr, Inhabited

/-- The body of a scripted handler: its script, its own number and the dispatcher it works on. -/
structure Scripted where
  id : Nat
  dispatcher : Nat
  actions : List Action
  answer : Expr

/-- What scripts share: the ledger, the remembered entries, the catalog, the number of calls of
every scripted handler, and how often the predicate of the running trigger has been asked. -/
structure Bench where
  ledger : List Value
  entries : Table (Entry Scripted)
  catalog : Catalog Scripted
  calls : Array Nat
  asked : Nat

namespace Bench

/-- An empty ledger, no entry, no handler. -/
def empty : Bench := ⟨[], [], [], #[], 0⟩

/-- How often a scripted handler has been called. -/
def callCount (b : Bench) (id : Nat) : Nat := (b.calls[id]?).getD 0

/-- Counts a call of a scripted handler. -/
def countCall (b : Bench) (id : Nat) : Bench := { b with calls := b.calls.modify id (· + 1) }

/-- Remembers an entry; a later one of the same name takes its place. -/
def remember (b : Bench) (id : String) (e : Entry Scripted) : Bench :=
  { b with entries := Table.insert id e b.entries }

/-- The remembered entry of a name. -/
def remembered? (b : Bench) (id : String) : Option (Entry Scripted) := Table.get? id b.entries

/-- Makes the handler of a source, for a dispatcher. -/
def make (b : Bench) (dispatcher : Nat) : Source → Except EngineError (Handler Scripted) × Bench
  | .catalog name => (b.catalog.find name, b)
  | .script name invocable actions answer =>
    (.ok ⟨name, invocable, ⟨b.calls.size, dispatcher, actions, answer⟩⟩,
      { b with calls := b.calls.push 0 })

end Bench

end Switchboard
