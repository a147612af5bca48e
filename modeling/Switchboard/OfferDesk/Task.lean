import Switchboard.Catalog
import Switchboard.Dispatch.Walk

/-!
# The tasks of the offer desk

At the offer desk events are about the offer of a customer. Five handlers work there:

* `audit` writes the event with its amount into the ledger;
* `floor` makes a counter-offer to an amount below the lowest one, and ends the walk;
* `accept`, `decline` and `withdraw` answer the customer.

`Task.program` says what each of them does. A task never triggers anything itself. It fails if an
amount is missing or out of shape, and all but a `floor` that has nothing to say fail if the event is
not about a customer.
-/

namespace Switchboard.OfferDesk

/-- Who makes offers at the desk. -/
structure Customer where
  name : String
deriving DecidableEq, Repr

/-- What an event is about. -/
inductive Subject where
  | customer (c : Customer)
  | other
deriving DecidableEq, Repr

/-- The lines of the ledger in the order in which they were written. -/
abbrev Ledger := List String

/-- What a handler of the desk does. -/
inductive Task where
  | audit
  | floor
  | accept
  | decline
  | withdraw
deriving DecidableEq, Repr

namespace Task

/-- All tasks. -/
def all : List Task := [audit, floor, accept, decline, withdraw]

/-- The name of a task in the catalog. -/
def name : Task → String
  | audit => "audit"
  | floor => "floor"
  | accept => "accept"
  | decline => "decline"
  | withdraw => "withdraw"

/-- The customer that an event is about. -/
def customer (ctx : Context Subject) : Except HandlerError Customer :=
  match ctx.target with
  | .customer c => .ok c
  | .other => .error (.text "event target is not a customer")

/-- The offered amount. -/
def dollars (ctx : Context Subject) : Except HandlerError Int :=
  ctx.argumentAs "dollars" Shape.nat32

/-- The lowest amount that is accepted. -/
def lowest (ctx : Context Subject) : Except HandlerError Int := ctx.argumentAs "floor" Shape.nat32

/-- An amount of dollars. -/
def money (n : Int) : String := "$" ++ toString n

/-- The line of the ledger for an event with its amount. -/
def line (event : String) (dollars : Int) : String := event ++ " (" ++ money dollars ++ ")"

/-- The counter-offer to an amount below the lowest one. -/
def counterOffer (customer : String) (dollars lowest : Int) : String :=
  customer ++ ", " ++ money dollars ++ " is below our floor; we can do " ++ money lowest

/-- What a task leaves behind: an answer and whether the walk has to stop, or a failure. It leaves
the arguments as they are. -/
def leaving (ctx : Context Subject) : Except HandlerError (Value × Bool) → Outcome
  | .ok (v, stops) => ⟨.ok v, ctx.arguments, stops⟩
  | .error e => ⟨.error e, ctx.arguments, false⟩

/-- The line that an audit writes. -/
def auditLine (ctx : Context Subject) : Except HandlerError String := do
  let n ← dollars ctx
  let _ ← customer ctx
  return line ctx.event n

/-- The answer of a floor, and whether it is a counter-offer, which ends the walk. The customer is
only asked for if there is one to make. -/
def floorAnswer (ctx : Context Subject) : Except HandlerError (Value × Bool) := do
  let n ← dollars ctx
  let low ← lowest ctx
  if low ≤ n then return (.null, false)
  else
    let c ← customer ctx
    return (.string (counterOffer c.name n low), true)

/-- The answer to a customer about the offered amount. -/
def amountAnswer (ctx : Context Subject) (text : String) : Except HandlerError (Value × Bool) := do
  let n ← dollars ctx
  let c ← customer ctx
  return (.string (c.name ++ text ++ money n), false)

/-- What a task does. -/
def program : Bodies Task Subject Ledger
  | audit, ctx =>
    match auditLine ctx with
    | .error e => pure (leaving ctx (.error e))
    | .ok line => do
      Program.update fun ledger => ledger ++ [line]
      pure (leaving ctx (.ok (.string ("logged " ++ line), false)))
  | floor, ctx => pure (leaving ctx (floorAnswer ctx))
  | accept, ctx => pure (leaving ctx (amountAnswer ctx ", I have accepted your offer of "))
  | decline, ctx => pure (leaving ctx (amountAnswer ctx ", I must decline your offer of "))
  | withdraw, ctx =>
    pure <| leaving ctx <| (customer ctx).map fun c => (.string (c.name ++ " withdrew the offer"), false)

/-- The handler of a task. -/
def handler (t : Task) : Handler Task := Handler.ofBody t.name t

end Task

/-- The catalog of the desk. -/
def catalog : Catalog Task := Task.all.foldl (fun c t => (c.add t.name t.handler).2) []

end Switchboard.OfferDesk
