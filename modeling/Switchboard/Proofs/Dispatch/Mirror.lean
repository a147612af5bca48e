import Switchboard.Proofs.Dispatch.Record
import Switchboard.Proofs.Dispatch.Step

/-!
# Runs beside a record

A program is `recorded` by having it write down each operation that it performs. Run beside a
record it comes to what it comes to without, and leaves the same world; the record has grown by
deeds that explain how the dispatchers have changed. `Mirrors` says this of a computation.

* `Program.mirrors_run`: programs, given that the triggers inside them do so;
* `mirrors_walk`, `mirrors_dispatch`: walks and dispatches, given that the handlers do so;
* `Bodies.mirrors_nested`: triggers inside handlers, at any depth.

The record says which handlers a walk has invoked, and `Walked` how these lie in the list that it
has been given, and why there are no more of them.
-/

namespace Switchboard

variable {α β κ τ σ ρ : Type}

/-- The same program beside a record, in which it writes down its operations. -/
def Program.recorded : Program β τ σ ρ → Program β τ (σ × Record β) ρ
  | done r => done r
  | look next => look fun s => (next s.1).recorded
  | store s next => look fun old => store (s, old.2) next.recorded
  | perform op next => perform op fun reply =>
      look fun s => store (s.1, s.2 ++ [.performed op reply]) (next reply).recorded
  | trigger q next => trigger (q.beside (Record β)) fun reply => (next reply).recorded

/-- The same bodies, each of which writes down its operations. -/
def Bodies.recorded (bodies : Bodies β τ σ) : Bodies β τ (σ × Record β) :=
  fun b ctx => (bodies b ctx).recorded

/-- Beside a record the computation comes to the same and leaves the same world. What it has added
to the record explains what has become of the dispatchers, and shows the visits that it should. -/
def Mirrors (beside : World β (σ × Record β) → α × World β (σ × Record β))
    (plain : World β σ → α × World β σ) (w : World β σ)
    (Shows : α → List (Entry β × Outcome) → Prop) : Prop :=
  ∀ k, ∃ record, beside (w.beside k) = ((plain w).1, (plain w).2.beside (k ++ record)) ∧
    Record.Explains record w.pool (plain w).2.pool ∧ Shows (plain w).1 (Record.visits record)

/-- Shows just these visits, whatever comes out. -/
def showing (visits : List (Entry β × Outcome)) : α → List (Entry β × Outcome) → Prop :=
  fun _ shown => shown = visits

/-- A program shows no visit if the triggers inside it show none. -/
theorem Program.mirrors_run {nested : Request τ σ → World β σ → Nested × World β σ}
    {nested' : Request τ (σ × Record β) → World β (σ × Record β) → Nested × World β (σ × Record β)}
    (h : ∀ q w, Mirrors (nested' (q.beside (Record β))) (nested q) w (showing []))
    (p : Program β τ σ ρ) (w : World β σ) :
    Mirrors (run nested' p.recorded) (run nested p) w (showing []) := by
  induction p generalizing w with
  | done r =>
    intro k
    refine ⟨[], ?_, Record.Explains.refl w.pool, rfl⟩
    rw [List.append_nil]
    rfl
  | look next ih => exact ih w.outside w
  | store s next ih => exact ih { w with outside := s }
  | perform op next ih =>
    -- the deed is written down before the program goes on
    intro k
    obtain ⟨record, hrun, hexplains, hvisits⟩ :=
      ih (op.run w).1 (op.run w).2 (k ++ [.performed op (op.run w).1])
    refine ⟨.performed op (op.run w).1 :: record, ?_,
      (Record.Explains.performed op w).append hexplains, hvisits⟩
    rw [List.append_assoc] at hrun
    simp only [recorded, run, Operation.run_beside]
    exact hrun
  | trigger q next ih =>
    intro k
    obtain ⟨first, hfirst, hexplains, hvisits⟩ := h q w k
    obtain ⟨second, hsecond, hexplains', hvisits'⟩ :=
      ih (nested q w).1 (nested q w).2 (k ++ first)
    refine ⟨first ++ second, ?_, hexplains.append hexplains', ?_⟩
    · rw [List.append_assoc] at hsecond
      simp only [recorded, run, hfirst]
      exact hsecond
    · rw [showing] at hvisits hvisits' ⊢
      rw [Record.visits_append, hvisits, hvisits']
      rfl

/-! ### Walks -/

/-- The outcome of a handler ends a walk before the end of its list, and with this result. -/
inductive Cuts (accept : Value → σ → Bool × σ) : Except EngineError Responses → Outcome → Prop where
  /-- The handler has failed. -/
  | failed {e : EngineError} {o : Outcome} {cause : HandlerError} (h : o.result = .error cause) :
    Cuts accept (.error e) o
  /-- The handler has asked for the walk to stop. -/
  | stopped {r : Responses} {o : Outcome} {v : Value} (h : o.result = .ok v)
    (hr : r.stopped = true) (ho : o.stops = true) : Cuts accept (.ok r) o
  /-- The predicate has accepted the answer. -/
  | accepted {r : Responses} {o : Outcome} {v : Value} {s : σ} (h : o.result = .ok v)
    (hr : r.stopped = true) (ha : (accept v s).1 = true) : Cuts accept (.ok r) o

/-- The visits of a walk are to the first entries of its list, in order and each once. They are to
all of them, unless the outcome of the last one has ended the walk. -/
def Walked (accept : Value → σ → Bool × σ) (es : List (Entry β))
    (r : Except EngineError Responses) (visits : List (Entry β × Outcome)) : Prop :=
  visits.map Prod.fst <+: es ∧
    ((∃ responses, r = .ok responses ∧ responses.stopped = false ∧ visits.map Prod.fst = es) ∨
      ∃ front last, visits = front ++ [last] ∧ Cuts accept r last.2)

namespace Walked

variable {accept : Value → σ → Bool × σ} {es : List (Entry β)} {r : Except EngineError Responses}

/-- A walk that ends with its first visit. -/
theorem single {e : Entry β} {o : Outcome} (h : Cuts accept r o) :
    Walked accept (e :: es) r [(e, o)] :=
  ⟨List.cons_prefix_cons.2 ⟨rfl, List.nil_prefix⟩, Or.inr ⟨[], (e, o), rfl, h⟩⟩

/-- A walk that goes on behind its first visit. -/
theorem cons {visits : List (Entry β × Outcome)} (h : Walked accept es r visits) (e : Entry β)
    (o : Outcome) : Walked accept (e :: es) r ((e, o) :: visits) := by
  obtain ⟨halong, hend⟩ := h
  refine ⟨List.cons_prefix_cons.2 ⟨rfl, halong⟩, ?_⟩
  rcases hend with ⟨responses, hr, hstopped, hall⟩ | ⟨front, last, hvisits, hcuts⟩
  · exact Or.inl ⟨responses, hr, hstopped, congrArg (List.cons e) hall⟩
  · exact Or.inr ⟨(e, o) :: front, last, congrArg (List.cons (e, o)) hvisits, hcuts⟩

end Walked

/-- The same turn in a world with something beside the state outside. -/
def Turn.beside (k : κ) : Turn β σ → Turn β (σ × κ)
  | halt r w => halt r (w.beside k)
  | next v w => next v (w.beside k)

/-- A turn does not look at what stands beside the state outside. -/
theorem turn_beside (q : Request τ σ) (e : Entry β) (position : Nat) (collected : List Value)
    (ctx : Context τ) (o : Outcome) (w : World β σ) (k : κ) :
    turn (q.beside κ).accept e position collected ctx o (w.beside k) =
      (turn q.accept e position collected ctx o w).beside k := by
  unfold turn
  cases o.result with
  | error err => rfl
  | ok v =>
    by_cases hstopped : (ctx.after o).stopped = true
    · simp only [hstopped, if_true]
      rfl
    · by_cases hjudge : (w.judge q.accept v).1 = true
      · have hbeside : ((w.beside k).judge (q.beside κ).accept v).1 = true := hjudge
        simp only [hstopped, hjudge, hbeside, if_true]
        rfl
      · have hbeside : ¬ ((w.beside k).judge (q.beside κ).accept v).1 = true := hjudge
        simp only [hstopped, hjudge, hbeside]
        rfl

/-- A walk shows what the visits show that it makes. -/
theorem mirrors_walk {invoke : Invoke β τ σ} {invoke' : Invoke β τ (σ × Record β)}
    (shown : Entry β × Outcome → List (Entry β × Outcome))
    (h : ∀ e ctx w, Mirrors (invoke' e ctx) (invoke e ctx) w fun o visits => visits = shown (e, o))
    (q : Request τ σ) (es : List (Entry β)) (position : Nat) (collected : List Value)
    (ctx : Context τ) (hctx : ctx.stopped = false) (w : World β σ) :
    Mirrors (walk invoke' (q.beside (Record β)).accept es position collected ctx)
      (walk invoke q.accept es position collected ctx) w fun r visits =>
        ∃ made, Walked q.accept es r made ∧ visits = made.flatMap shown := by
  induction es generalizing position collected ctx w with
  | nil =>
    intro k
    refine ⟨[], ?_, Record.Explains.refl w.pool, [], ⟨List.nil_prefix, Or.inl ?_⟩, rfl⟩
    · rw [List.append_nil]
      rfl
    · exact ⟨_, rfl, rfl, rfl⟩
  | cons e rest ih =>
    intro k
    obtain ⟨first, hfirst, hexplains, hvisits⟩ :=
      h e ctx (w.note (.invoking e.handler.name e.selector.text e.priority position)) k
    rcases hdone : invoke e ctx
      (w.note (.invoking e.handler.name e.selector.text e.priority position)) with ⟨o, w'⟩
    rw [hdone] at hfirst hexplains hvisits
    have hone : Record.visits first = [(e, o)].flatMap shown := by
      rw [List.flatMap_singleton]
      exact hvisits
    -- no handler before this one has asked for the walk to stop
    have hstops : (ctx.after o).stopped = o.stops := by
      rw [Context.after, hctx, Bool.false_or]
    simp only [walk_cons, World.note_beside, hfirst, hdone, turn_beside]
    rcases turn_cases q.accept e position collected ctx o w' with
      ⟨cause, hresult, hturn⟩ | ⟨v, hresult, hstopped, hturn⟩ |
      ⟨v, hresult, -, haccept, hturn⟩ | ⟨v, hresult, hstopped, -, hturn⟩
    · rw [hturn]
      exact ⟨first, rfl, hexplains, [(e, o)], Walked.single (.failed hresult), hone⟩
    · rw [hturn]
      have hcuts : Cuts q.accept (.ok ⟨collected ++ [v], true⟩) o :=
        .stopped hresult rfl (hstops.symm.trans hstopped)
      exact ⟨first, rfl, hexplains, [(e, o)], Walked.single hcuts, hone⟩
    · rw [hturn]
      have hcuts : Cuts q.accept (.ok ⟨collected ++ [v], true⟩) o :=
        .accepted hresult rfl haccept
      exact ⟨first, rfl, hexplains, [(e, o)], Walked.single hcuts, hone⟩
    · rw [hturn]
      obtain ⟨second, hsecond, hexplains', made, hwalked, hrest⟩ :=
        ih (position + 1) (collected ++ [v]) (ctx.after o) hstopped (w'.judge q.accept v).2
          (k ++ first)
      refine ⟨first ++ second, ?_, hexplains.append hexplains', (e, o) :: made, hwalked.cons e o, ?_⟩
      · rw [List.append_assoc] at hsecond
        exact hsecond
      · rw [Record.visits_append, hone, hrest]
        exact List.flatMap_append.symm

/-- A dispatch of an event walks along the entries that its registry has for the event at the start
of the dispatch. -/
theorem mirrors_dispatch {invoke : Invoke β τ σ} {invoke' : Invoke β τ (σ × Record β)}
    (shown : Entry β × Outcome → List (Entry β × Outcome))
    (h : ∀ e ctx w, Mirrors (invoke' e ctx) (invoke e ctx) w fun o visits => visits = shown (e, o))
    (q : Request τ σ) {name : Selector} (hname : Selector.eventName q.event = .ok name)
    (w : World β σ) :
    Mirrors (dispatch invoke' (q.beside (Record β))) (dispatch invoke q) w fun r visits =>
      ∃ made, Walked q.accept ((w.registry q.dispatcher).resolve name.name) r made ∧
        visits = made.flatMap shown := by
  intro k
  have hname' : Selector.eventName (q.beside (Record β)).event = .ok name := hname
  let entered : World β σ := { w with log := w.log.enter (.dispatch name.text) }
  obtain ⟨record, hwalk, hexplains, hvisits⟩ :=
    mirrors_walk shown h q ((w.registry q.dispatcher).resolve name.name) 0 []
      (Context.start name.name q.target q.arguments) rfl
      (entered.note (.resolved ((w.registry q.dispatcher).resolve name.name).length)) k
  simp only [dispatch, hname, hname']
  refine ⟨record, ?_, hexplains, hvisits⟩
  exact congrArg (fun done => (done.1, { done.2 with log := done.2.log.leave })) hwalk

namespace Bodies

/-- Triggers inside handlers write down their operations and show no visit. -/
theorem mirrors_nested (bodies : Bodies β τ σ) (depth : Nat) (q : Request τ σ) (w : World β σ) :
    Mirrors (bodies.recorded.nested depth (q.beside (Record β))) (bodies.nested depth q) w
      (showing []) := by
  induction depth generalizing q w with
  | zero =>
    intro k
    refine ⟨[], ?_, Record.Explains.refl w.pool, rfl⟩
    rw [List.append_nil]
    rfl
  | succ depth ih =>
    have hinvoke : ∀ e ctx w, Mirrors (bodies.recorded.invoke (bodies.recorded.nested depth) e ctx)
        (bodies.invoke (bodies.nested depth) e ctx) w (showing []) :=
      fun e ctx w => Program.mirrors_run ih (bodies e.handler.body ctx) w
    intro k
    cases hname : Selector.eventName q.event with
    | error err =>
      have hname' : Selector.eventName (q.beside (Record β)).event = .error err := hname
      refine ⟨[], ?_, ?_, rfl⟩
      · simp only [nested, dispatch, hname, hname', List.append_nil]
      · simp only [nested, dispatch, hname]
        exact Record.Explains.refl w.pool
    | ok name =>
      obtain ⟨record, hrun, hexplains, made, -, hvisits⟩ :=
        mirrors_dispatch (fun _ => []) hinvoke q hname w k
      refine ⟨record, ?_, hexplains, ?_⟩
      · simp only [nested, hrun]
      · rw [showing, hvisits, List.flatMap_eq_nil_iff]
        exact fun _ _ => rfl

end Bodies

end Switchboard
