import Switchboard.Session.Script

/-!
# Running scripts

`Scripted.program` is the program of a scripted handler: it counts the call, runs the actions in
order and computes the answer. The first failure ends it; what has been set before stays set.
-/

namespace Switchboard

/-- What a running script keeps to itself: its context and the result of its last request. -/
structure Frame where
  context : Context Target
  nested : Value

/-- A step of a script: it may fail, keeps its frame also then, and works on the dispatchers. -/
abbrev Act := ExceptT HandlerError (StateT Frame (Program Scripted Target Bench))

namespace Act

/-- A step that works on the dispatchers. -/
def lift {α : Type} (p : Program Scripted Target Bench α) : Act α := ExceptT.lift (StateT.lift p)

/-- The frame. -/
def frame : Act Frame := ExceptT.lift StateT.get

/-- Changes the frame. -/
def modifyFrame (f : Frame → Frame) : Act Unit := ExceptT.lift (modify f)

/-- Changes the context. -/
def modifyContext (f : Context Target → Context Target) : Act Unit :=
  modifyFrame fun frame => { frame with context := f frame.context }

/-- The shared state. -/
def bench : Act Bench := lift Program.state

/-- Ends the script with a failure. -/
def fail {α : Type} (e : HandlerError) : Act α := throw e

/-- A remembered entry. -/
def entry (id : String) : Act (Entry Scripted) := do
  match (← bench).remembered? id with
  | some e => pure e
  | none => fail (.text ("driver: no entry '" ++ id ++ "'"))

end Act

/-- Brings a value into a shape. -/
def ArgumentType.convert : ArgumentType → Shape Value
  | .nat8, v => (Shape.nat8 v).map .int
  | .nat32, v => (Shape.nat32 v).map .int
  | .int64, v => (Shape.int64 v).map .int
  | .double, v => (Shape.double v).map Value.ofFloat
  | .bool, v => (Shape.bool v).map .bool
  | .text, v => (Shape.text v).map .string
  | .unit, v => (Shape.unit v).map fun _ => .null
  | .optionNat32, v => (Shape.option Shape.nat32 v).map fun n => (n.map Value.int).getD .null
  | .listNat32, v => (Shape.list Shape.nat32 v).map fun ns => .array (ns.map .int)
  | .pair, v => (Shape.pair Shape.nat32 Shape.text v).map fun (n, s) => .array [.int n, .string s]
  | .tableInt64, v => (Shape.table Shape.int64 v).map fun t => .object (Table.mapValues .int t)
  | .selector, v => (Selector.decode v).map Selector.encode
  | .any, v => .ok v

/-- A value as a piece of a text: a text is itself, anything else is written as a value. -/
def Value.piece : Value → String
  | .string s => s
  | v => v.compact

namespace Expr

mutual

/-- Computes an expression. -/
def eval (self : Scripted) : Expr → Act Value
  | .const v => pure v
  | .event => do return .string (← Act.frame).context.event
  | .argument name => do return ((← Act.frame).context.argument? name).getD .null
  | .arguments => do return .object (← Act.frame).context.arguments
  | .stopped => do return .bool (← Act.frame).context.stopped
  | .calls => do return .int ((← Act.bench).callCount self.id)
  | .count => do
    let n ← Act.lift (Program.count self.dispatcher)
    return .int n
  | .holds id => do
    let e ← Act.entry id
    let b ← Act.lift (Program.holds self.dispatcher e)
    return .bool b
  | .nested => do return (← Act.frame).nested
  | .hasLedger => do return .bool ((← Act.frame).context.target == .ledger)
  | .targetText => do
    match (← Act.frame).context.target with
    | .text s => return .string s
    | _ => return .null
  | .join parts => do return .string (String.join (← evalAll self parts))
  | .inspect => do return .string (← Act.frame).context.inspect
  | .argumentAs name type => do
    match (← Act.frame).context.argumentAs name type.convert with
    | .ok v => return v
    | .error e => Act.fail e

/-- Computes expressions in order, each as a piece of a text. -/
def evalAll (self : Scripted) : List Expr → Act (List String)
  | [] => pure []
  | e :: rest => do
    let v ← eval self e
    let vs ← evalAll self rest
    return v.piece :: vs

end

end Expr

/-- Makes the handler of a source. -/
def Source.make (self : Scripted) (source : Source) : Act (Handler Scripted) := do
  let made := (← Act.bench).make self.dispatcher source
  Act.lift (Program.update fun _ => made.2)
  match made.1 with
  | .ok h => pure h
  | .error e => Act.fail (.text ("driver: " ++ e.message))

namespace Action

/-- Binds a handler on the dispatcher of the script and remembers its entry. -/
def bind (self : Scripted) (id selector : String) (priority : Option Int) (source : Source) :
    Act Unit := do
  let h ← source.make self
  match Selector.parse selector with
  | .error e => Act.fail (.engine e)
  | .ok s =>
    match ← Act.lift (Program.register self.dispatcher s h priority) with
    | .error e => Act.fail (.engine e)
    | .ok e => Act.lift (Program.update fun b => b.remember id e)

/-- Triggers an event on the dispatcher of the script, with the target and the arguments of its
context, and keeps the responses. -/
def request (self : Scripted) (event : String) : Act Unit := do
  let ctx := (← Act.frame).context
  let q := (Request.ofEvent self.dispatcher event ctx.target).withArguments ctx.arguments
  match ← Act.lift (Program.request q) with
  | none => Act.fail (.text "nesting limit")
  | some (.error e) => Act.fail (.engine e)
  | some (.ok r) => Act.modifyFrame fun frame => { frame with nested := r.encode }

mutual

/-- Does one action. -/
def run (self : Scripted) : Action → Act Unit
  | .stop => Act.modifyContext fun ctx => { ctx with stopped := true }
  | .set name e => do
    let v ← e.eval self
    Act.modifyContext fun ctx => { ctx with arguments := Table.insert name v ctx.arguments }
  | .push e => do
    let v ← e.eval self
    if (← Act.frame).context.target = .ledger then
      Act.lift (Program.update fun b => { b with ledger := b.ledger ++ [v] })
    else Act.fail (.text "target is not a ledger")
  | .fail message => Act.fail (.text message)
  | .on id selector priority source => bind self id selector priority source
  | .detach id => do
    let e ← Act.entry id
    let removed ← Act.lift (Program.detach self.dispatcher e)
    Act.modifyFrame fun frame => { frame with nested := .bool removed }
  | .clear => Act.lift (Program.clear self.dispatcher)
  | .trigger event => request self event
  | .choose left right equal different => do
    let a ← left.eval self
    let b ← right.eval self
    if a.same b then runAll self equal else runAll self different

/-- Does actions in order. -/
def runAll (self : Scripted) : List Action → Act Unit
  | [] => pure ()
  | a :: rest => do
    run self a
    runAll self rest

end

end Action

/-- The program of a scripted handler. -/
def Scripted.program : Bodies Scripted Target Bench := fun self ctx => do
  Program.update fun b => b.countCall self.id
  let act : Act Value := do
    Action.runAll self self.actions
    self.answer.eval self
  let (result, frame) ← act.run.run ⟨ctx, .null⟩
  return ⟨result, frame.context.arguments, frame.context.stopped⟩

end Switchboard
