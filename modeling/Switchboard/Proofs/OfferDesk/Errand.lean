import Switchboard.OfferDesk.Run
import Switchboard.Proofs.Dispatch.Cut
import Switchboard.Proofs.Selector.Matching

/-!
# Errands at the offer desk

An `Errand` is the turn of a task for an event. What it answers and what it writes into the ledger
are settled by the order and by the event, whatever has been bound around it: no task fails, and
none changes the arguments.

* `Order.errands`: the errands for events, given the tasks for each of them;
* `Order.invoke_eq`: what one errand does;
* `Order.walk_eq`: what a walk along entries does.
-/

namespace Switchboard.OfferDesk

/-! ### Parts of lists -/

section

variable {α : Type} {p : α → Bool}

/-- A list up to its first element with a property, and with that one; all if there is none. -/
def upTo (p : α → Bool) (as : List α) : List α := as.take (as.findIdx p + 1)

@[simp] theorem upTo_nil : upTo p [] = [] := rfl

theorem upTo_cons (a : α) (as : List α) :
    upTo p (a :: as) = if p a then [a] else a :: upTo p as := by
  unfold upTo
  rw [List.findIdx_cons]
  cases p a <;> rfl

@[simp] theorem upTo_false (as : List α) : upTo (fun _ => false) as = as := by
  induction as with
  | nil => rfl
  | cons a as ih => rw [upTo_cons, if_neg Bool.false_ne_true, ih]

end

/-! ### Orders -/

/-- The turn of a task for an event. -/
structure Errand where
  event : String
  task : Task

/-- Whether an answer is a text that contains another one. -/
def holds (part : String) : Value → Bool
  | .string s => decide (part.toList <:+: s.toList)
  | _ => false

/-- The ledger has got more lines; but for the log nothing else has changed. -/
structure Writes (w : World Task Ledger) (lines : List String) (w' : World Task Ledger) : Prop where
  pool : w'.pool = w.pool
  outside : w'.outside = w.outside ++ lines

namespace Writes

variable {w w' w'' : World Task Ledger} {lines lines' : List String}

theorem refl (w : World Task Ledger) : Writes w [] w := ⟨rfl, (List.append_nil _).symm⟩

theorem append (h : Writes w lines w') (h' : Writes w' lines' w'') :
    Writes w (lines ++ lines') w'' :=
  ⟨h'.pool.trans h.pool, by rw [h'.outside, h.outside, List.append_assoc]⟩

/-- The log does not matter. -/
theorem of_log {log log' : Log} (h : Writes { w with log := log } lines w') :
    Writes w lines { w' with log := log' } := ⟨h.pool, h.outside⟩

end Writes

namespace Order

/-- The lowest amount that is accepted. -/
def lowestAmount (o : Order) : Nat := o.lowest.getD usualLowest

/-- Whether the offered amount is below the lowest one. -/
def isLow (o : Order) : Bool := o.dollars < o.lowestAmount

/-- What an errand answers. -/
def answer (o : Order) (x : Errand) : Value :=
  match x.task with
  | .audit => .string ("logged " ++ Task.line x.event o.dollars)
  | .floor =>
    if o.isLow then .string (Task.counterOffer o.customer o.dollars o.lowestAmount) else .null
  | .accept => .string (o.customer ++ ", I have accepted your offer of " ++ Task.money o.dollars)
  | .decline => .string (o.customer ++ ", I must decline your offer of " ++ Task.money o.dollars)
  | .withdraw => .string (o.customer ++ " withdrew the offer")

/-- The line that an errand writes into the ledger, if it writes one. -/
def line? (o : Order) (x : Errand) : Option String :=
  match x.task with
  | .audit => some (Task.line x.event o.dollars)
  | _ => none

/-- Whether a task makes a counter-offer, which ends the walk. -/
def closes (o : Order) : Task → Bool
  | .floor => o.isLow
  | _ => false

/-- The tasks that have their turn, of those for an event: up to the first counter-offer if the
amount is too low, and otherwise all. -/
def attended (o : Order) (tasks : List Task) : List Task :=
  if o.isLow then upTo (· == .floor) tasks else tasks

/-- Whether a counter-offer ends the walk along tasks. -/
def isClosed (o : Order) (tasks : List Task) : Bool := o.isLow && tasks.contains .floor

/-- What an errand leaves behind: its answer, the arguments of the order, and a wish to stop if it
makes a counter-offer. -/
def outcome (o : Order) (x : Errand) : Outcome := ⟨.ok (o.answer x), o.arguments, o.closes x.task⟩

/-- The errands for events, given the tasks for each event. -/
def errands (o : Order) (tasks : String → List Task) (events : List String) : List Errand :=
  events.flatMap fun event => (o.attended (tasks event)).map (Errand.mk event)

/-- The amounts of the order are numbers of 32 bits. -/
structure Fits (o : Order) : Prop where
  dollars : o.dollars < Nat.pow 2 32
  lowest : ∀ n ∈ o.lowest, n < Nat.pow 2 32

/-- The context of an event of the order, in a walk that nobody has asked to stop. -/
structure Frames (o : Order) (ctx : Context Subject) : Prop where
  arguments : ctx.arguments = o.arguments
  target : ctx.target = .customer ⟨o.customer⟩
  stopped : ctx.stopped = false

variable {o : Order}

/-- The lines of the ledger are what the audits have answered, without the word in front. -/
theorem answer_audits (o : Order) (done : List Errand) :
    (done.filter (·.task == .audit)).map o.answer =
      (done.filterMap o.line?).map fun line => Value.string ("logged " ++ line) := by
  induction done with
  | nil => rfl
  | cons x done ih =>
    obtain ⟨event, t⟩ := x
    cases t with
    | audit => exact congrArg (List.cons _) ih
    | floor | accept | decline | withdraw => exact ih

theorem errands_cons (o : Order) (tasks : String → List Task) (event : String)
    (events : List String) :
    o.errands tasks (event :: events) =
      (o.attended (tasks event)).map (Errand.mk event) ++ o.errands tasks events := rfl

/-- The tasks end with the first that makes a counter-offer. -/
theorem attended_eq (o : Order) (tasks : List Task) : o.attended tasks = upTo o.closes tasks := by
  have hcloses : o.closes = fun t => o.isLow && t == .floor := by
    funext t
    cases t <;> cases hlow : o.isLow <;> simp [closes, hlow]
  rw [hcloses, attended]
  cases o.isLow with
  | false => exact (upTo_false tasks).symm
  | true => rfl

/-- The predicate of an order only looks at the answer. -/
theorem containsText_eq (part : String) : containsText part = judging (holds part) := by
  funext v ledger
  cases v with
  | string s =>
    refine Prod.ext (Bool.eq_iff_iff.2 ?_) rfl
    exact Matcher.hasInfix_iff.trans decide_eq_true_iff.symm
  | _ => rfl

theorem Fits.lowestAmount (h : o.Fits) : o.lowestAmount < Nat.pow 2 32 := by
  unfold Order.lowestAmount
  cases hlowest : o.lowest with
  | none => decide
  | some n => exact h.lowest n hlowest

/-! ### One errand -/

/-- A number of 32 bits is read as it is. -/
theorem nat32_of_lt {n : Nat} (h : n < Nat.pow 2 32) : Shape.nat32 (.int n) = .ok n := by
  unfold Shape.nat32 Shape.int
  simp only
  rw [if_pos (by omega)]

namespace Frames

variable {ctx : Context Subject}

theorem dollars (h : o.Frames ctx) (hfits : o.Fits) : Task.dollars ctx = .ok o.dollars := by
  have hget : ctx.argument? "dollars" = some (.int o.dollars) := by
    simp [Context.argument?, h.arguments, Order.arguments, Table.ofList, Table.get?_insert]
  simp only [Task.dollars, Context.argumentAs, hget, nat32_of_lt hfits.dollars]

theorem customer (h : o.Frames ctx) : Task.customer ctx = .ok ⟨o.customer⟩ := by
  rw [Task.customer, h.target]

theorem lowest (h : o.Frames ctx) (hfits : o.Fits) : Task.lowest ctx = .ok o.lowestAmount := by
  have hget : ctx.argument? "floor" = some (.int o.lowestAmount) := by
    simp [Context.argument?, h.arguments, Order.arguments, Table.ofList, lowestAmount]
  simp only [Task.lowest, Context.argumentAs, hget, nat32_of_lt hfits.lowestAmount]

theorem stopped_after (h : o.Frames ctx) (x : Errand) :
    (ctx.after (o.outcome x)).stopped = o.closes x.task := by
  rw [Context.after, h.stopped, Bool.false_or]
  rfl

/-- Behind an errand that makes no counter-offer the walk stands as before it. -/
theorem after (h : o.Frames ctx) {x : Errand} (hx : o.closes x.task = false) :
    o.Frames (ctx.after (o.outcome x)) :=
  ⟨rfl, h.target, (h.stopped_after x).trans hx⟩

end Frames

/-- An errand comes to its outcome and writes its line. -/
theorem invoke_eq (hfits : o.Fits) {ctx : Context Subject} (hctx : o.Frames ctx)
    (nested : Request Subject Ledger → World Task Ledger → Nested × World Task Ledger)
    (e : Entry Task) (w : World Task Ledger) :
    ∃ w', Writes w (o.line? ⟨ctx.event, e.handler.body⟩).toList w' ∧
      Task.program.invoke nested e ctx w = (o.outcome ⟨ctx.event, e.handler.body⟩, w') := by
  have hdollars := hctx.dollars hfits
  have hlowest := hctx.lowest hfits
  have hcustomer := hctx.customer
  unfold Bodies.invoke outcome
  rw [← hctx.arguments]
  cases e.handler.body with
  | audit =>
    refine ⟨{ w with outside := w.outside ++ [Task.line ctx.event o.dollars] }, ⟨rfl, rfl⟩, ?_⟩
    have hline : Task.auditLine ctx = .ok (Task.line ctx.event o.dollars) := by
      rw [Task.auditLine, hdollars, hcustomer]
      rfl
    simp only [Task.program, hline]
    rfl
  | floor =>
    refine ⟨w, Writes.refl w, ?_⟩
    have hanswer : Task.floorAnswer ctx =
        .ok (o.answer ⟨ctx.event, .floor⟩, o.closes .floor) := by
      rw [Task.floorAnswer, hdollars, hlowest, hcustomer]
      by_cases hlow : o.dollars < o.lowestAmount
      · have hle : ¬ (o.lowestAmount : Int) ≤ o.dollars := by omega
        simp [answer, closes, isLow, hlow, hle, bind, Except.bind, pure, Except.pure]
      · have hle : (o.lowestAmount : Int) ≤ o.dollars := by omega
        simp [answer, closes, isLow, hlow, hle, bind, Except.bind, pure, Except.pure]
    simp only [Task.program, hanswer]
    rfl
  | accept | decline =>
    refine ⟨w, Writes.refl w, ?_⟩
    simp only [Task.program, Task.amountAnswer, hdollars, hcustomer]
    rfl
  | withdraw =>
    refine ⟨w, Writes.refl w, ?_⟩
    simp only [Task.program, hcustomer]
    rfl

/-! ### Walks -/

/-- The errands for an event, up to the first answer that is accepted. -/
def served (o : Order) (P : Value → Bool) (event : String) (tasks : List Task) : List Errand :=
  upTo (fun x => P (o.answer x)) ((o.attended tasks).map (Errand.mk event))

@[simp] theorem served_nil (o : Order) (P : Value → Bool) (event : String) :
    o.served P event [] = [] := by
  unfold served
  rw [attended_eq]
  rfl

/-- A walk goes on behind an errand that makes no counter-offer and whose answer is not accepted. -/
theorem served_cons (o : Order) (P : Value → Bool) (event : String) (t : Task)
    (tasks : List Task) :
    o.served P event (t :: tasks) = ⟨event, t⟩ ::
      if o.closes t || P (o.answer ⟨event, t⟩) then [] else o.served P event tasks := by
  unfold served
  rw [attended_eq, attended_eq, upTo_cons]
  cases o.closes t <;> cases hP : P (o.answer ⟨event, t⟩) <;> simp [upTo_cons, hP]

theorem lines_cons (o : Order) (x : Errand) (done : List Errand) :
    (x :: done).filterMap o.line? = (o.line? x).toList ++ done.filterMap o.line? := by
  simp only [List.filterMap_eq_flatMap_toList, List.flatMap_cons]

theorem isClosed_cons (o : Order) (t : Task) (tasks : List Task) :
    o.isClosed (t :: tasks) = (o.closes t || o.isClosed tasks) := by
  cases t <;> cases hlow : o.isLow <;> simp [isClosed, closes, hlow]

/-- The walk along entries serves their tasks. It does not fail, whatever the entries are, and
leaves the lines of its errands in the ledger. -/
theorem walk_eq (hfits : o.Fits) (P : Value → Bool)
    (nested : Request Subject Ledger → World Task Ledger → Nested × World Task Ledger)
    (es : List (Entry Task)) (position : Nat) (collected : List Value) {ctx : Context Subject}
    (hctx : o.Frames ctx) (w : World Task Ledger) :
    let tasks := es.map fun e => e.handler.body
    let done := o.served P ctx.event tasks
    ∃ w', Writes w (done.filterMap o.line?) w' ∧
      walk (Task.program.invoke nested) (judging P) es position collected ctx w =
        (.ok ⟨collected ++ done.map o.answer,
          o.isClosed tasks || done.any fun x => P (o.answer x)⟩, w') := by
  induction es generalizing position collected ctx w with
  | nil =>
    simp only [List.map_nil, served_nil, List.filterMap_nil]
    refine ⟨w, Writes.refl w, ?_⟩
    simp [walk, isClosed]
  | cons e rest ih =>
    obtain ⟨x, hx⟩ : ∃ x : Errand, x = ⟨ctx.event, e.handler.body⟩ := ⟨_, rfl⟩
    obtain ⟨w', hwrites, hinvoke⟩ := invoke_eq hfits hctx nested e
      (w.note (.invoking e.handler.name e.selector.text e.priority position))
    replace hwrites : Writes w (o.line? x).toList w' := hx ▸ hwrites.of_log
    rw [← hx] at hinvoke
    have hafter : (ctx.after (o.outcome x)).stopped = o.closes e.handler.body := by
      rw [hctx.stopped_after, hx]
    simp only [walk_cons, hinvoke, List.map_cons, served_cons, isClosed_cons, lines_cons, ← hx]
    -- a counter-offer halts the walk before the answer is judged
    rcases turn_cases (judging P) e position collected ctx (o.outcome x) w' with
      ⟨cause, hresult, -⟩ | ⟨v, hresult, hstopped, hturn⟩ |
      ⟨v, hresult, hstopped, haccept, hturn⟩ | ⟨v, hresult, hstopped, haccept, hturn⟩
    · cases hresult
    · cases hresult
      refine ⟨w'.note (.propagationStopped e.handler.name), ?_, ?_⟩
      · rw [← hafter, hstopped]
        exact (hwrites.append (Writes.refl w')).of_log
      · rw [hturn, ← hafter, hstopped]
        simp
    · cases hresult
      have hP : P (o.answer x) = true := haccept
      refine ⟨w'.note (.predicateAccepted e.handler.name), ?_, ?_⟩
      · rw [← hafter, hstopped, hP]
        exact (hwrites.append (Writes.refl w')).of_log
      · rw [hturn, ← hafter, hstopped, hP]
        simp [hP, World.judge, judging]
    · cases hresult
      have hP : P (o.answer x) = false := haccept
      -- the next handler finds the arguments of the order, as this one has
      have hctx' : o.Frames (ctx.after (o.outcome x)) :=
        hctx.after (hx ▸ hafter.symm.trans hstopped)
      obtain ⟨w'', hwrites', hwalk⟩ := ih (position + 1) (collected ++ [o.answer x]) hctx' w'
      refine ⟨w'', ?_, ?_⟩
      · rw [← hafter, hstopped, hP]
        exact hwrites.append hwrites'
      · rw [hturn, ← hafter, hstopped, hP]
        refine hwalk.trans ?_
        simp [hP]

end Order

end Switchboard.OfferDesk
