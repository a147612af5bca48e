import Switchboard.Proofs.Dispatch.Mirror

/-!
# The course of a walk

The calls that a walk makes can be written down as it makes them: handlers and predicate are run as
they are, with a list beside the state outside to which every call is added. The list is told in
`Visit`s, each of them an invoked handler with what the predicate has said behind it, and `Course`
says how visits follow on each other and what the walk comes to. Together with what its handler
writes to the log a visit is a `Stage`, and `Passes` says how the log comes through the stages.

* `walk_stages`: every walk makes its calls stage by stage;
* `walk_course`: the calls of every walk are those of a course;
* `Course.entries`, `Course.inTurn`, `Course.goesOn`, `Course.asked`: which calls there are;
* `Course.fails_iff`, `Course.of_error`, `Course.of_ok`, `Course.stopped_iff`: what they come to;
* `walk_outcome`: all of this for the walk of a dispatch.
-/

namespace Switchboard

variable {β κ τ σ : Type}

/-! ### Writing down calls -/

/-- A call that a walk makes. -/
inductive Call (β τ : Type) where
  /-- The handler of an entry is invoked on a context and leaves an outcome. -/
  | handler (e : Entry β) (ctx : Context τ) (o : Outcome)
  /-- The predicate is asked about an answer. -/
  | predicate (answer : Value) (accepted : Bool)

/-- The same world without what stands beside the state outside. -/
def World.plain (w : World β (σ × κ)) : World β σ := ⟨w.pool, w.outside.1, w.log⟩

/-- The same handlers; each invocation is written down as soon as it is over. -/
def Invoke.traced (invoke : Invoke β τ σ) : Invoke β τ (σ × List (Call β τ)) := fun e ctx w =>
  let done := invoke e ctx w.plain
  (done.1, done.2.beside (w.outside.2 ++ [.handler e ctx done.1]))

/-- The same predicate; each question is written down with what it has said. -/
def tracedAccept (accept : Value → σ → Bool × σ) :
    Value → σ × List (Call β τ) → Bool × (σ × List (Call β τ)) := fun v s =>
  let verdict := accept v s.1
  (verdict.1, (verdict.2, s.2 ++ [.predicate v verdict.1]))

/-- An invoked handler: its entry, the context that it has found, the outcome that it has left, and
what the predicate has been asked behind it and has said, if it has been asked. -/
structure Visit (β τ : Type) where
  entry : Entry β
  context : Context τ
  outcome : Outcome
  asked : Option (Value × Bool)

namespace Visit

/-- The calls of a visit. -/
def calls (v : Visit β τ) : List (Call β τ) :=
  .handler v.entry v.context v.outcome ::
    (v.asked.map fun question => .predicate question.1 question.2).toList

/-- Whether the walk is asked to stop once the handler has returned. -/
def flagged (v : Visit β τ) : Bool := (v.context.after v.outcome).stopped

/-- The answer of a handler that has not failed and does not leave a wish to stop. -/
def offer? (v : Visit β τ) : Option Value :=
  match v.outcome.result with
  | .ok answer => if v.flagged then none else some answer
  | .error _ => none

/-- Each visit finds the context that the one before it has left. -/
def InTurn : Context τ → List (Visit β τ) → Prop
  | _, [] => True
  | ctx, v :: rest => v.context = ctx ∧ InTurn (ctx.after v.outcome) rest

/-- The walk goes on behind the visit: there is an answer, nobody wishes to stop, and the predicate
has not accepted the answer. -/
def GoesOn (v : Visit β τ) : Prop :=
  ∃ answer, v.outcome.result = .ok answer ∧ v.flagged = false ∧ v.asked = some (answer, false)

/-- The walk is stopped behind the visit, by the wish of a handler or by the predicate. -/
def Stops (v : Visit β τ) : Prop :=
  v.flagged = true ∨ ∃ answer, v.asked = some (answer, true)

theorem GoesOn.not_stops {v : Visit β τ} (h : v.GoesOn) : ¬ v.Stops := by
  obtain ⟨answer, -, hflag, hasked⟩ := h
  rintro (hstop | ⟨answer', hstop⟩)
  · rw [hflag] at hstop
    cases hstop
  · rw [hasked] at hstop
    cases hstop

/-- If nobody has wished to stop before, each wish is the handler's own. -/
theorem InTurn.flagged_eq {ctx : Context τ} {visits : List (Visit β τ)} (h : InTurn ctx visits)
    (hctx : ctx.stopped = false) (hgo : ∀ v ∈ visits.dropLast, v.GoesOn) :
    ∀ v ∈ visits, v.flagged = v.outcome.stops := by
  induction visits generalizing ctx with
  | nil => simp
  | cons v rest ih =>
    obtain ⟨hv, hrest⟩ := h
    have hfirst : v.flagged = v.outcome.stops := by
      rw [flagged, hv, Context.after, hctx, Bool.false_or]
    cases rest with
    | nil => simpa using hfirst
    | cons u rest =>
      rw [List.dropLast_cons_cons] at hgo
      obtain ⟨⟨answer, -, hflag, -⟩, hgo'⟩ := List.forall_mem_cons.1 hgo
      rw [← hv] at hrest
      exact List.forall_mem_cons.2 ⟨hfirst, ih hrest hflag hgo'⟩

end Visit

/-! ### Courses -/

/-- The visits of a walk along entries, from a context on and with some answers collected before it,
and what the walk comes to. -/
inductive Course : List (Entry β) → Nat → List Value → Context τ → List (Visit β τ) →
    Except EngineError Responses → Prop where
  /-- There is no entry left. -/
  | done (position : Nat) (collected : List Value) (ctx : Context τ) :
    Course [] position collected ctx [] (.ok ⟨collected, false⟩)
  /-- The handler fails. -/
  | failed (e : Entry β) (rest : List (Entry β)) (position : Nat) (collected : List Value)
    (ctx : Context τ) (o : Outcome) {cause : HandlerError} (h : o.result = .error cause) :
    Course (e :: rest) position collected ctx [⟨e, ctx, o, none⟩]
      (.error (.handlerFailed ctx.event position ⟨collected, false⟩ cause))
  /-- The handler answers, and somebody has wished to stop. -/
  | stopped (e : Entry β) (rest : List (Entry β)) (position : Nat) (collected : List Value)
    (ctx : Context τ) (o : Outcome) {answer : Value} (h : o.result = .ok answer)
    (hflag : (ctx.after o).stopped = true) :
    Course (e :: rest) position collected ctx [⟨e, ctx, o, none⟩]
      (.ok ⟨collected ++ [answer], true⟩)
  /-- The predicate accepts the answer. -/
  | accepted (e : Entry β) (rest : List (Entry β)) (position : Nat) (collected : List Value)
    (ctx : Context τ) (o : Outcome) {answer : Value} (h : o.result = .ok answer)
    (hflag : (ctx.after o).stopped = false) :
    Course (e :: rest) position collected ctx [⟨e, ctx, o, some (answer, true)⟩]
      (.ok ⟨collected ++ [answer], true⟩)
  /-- The walk goes on with the entries behind. -/
  | next (e : Entry β) {rest : List (Entry β)} {position : Nat} {collected : List Value}
    {ctx : Context τ} {o : Outcome} {answer : Value} {visits : List (Visit β τ)}
    {r : Except EngineError Responses} (h : o.result = .ok answer)
    (hflag : (ctx.after o).stopped = false)
    (hrest : Course rest (position + 1) (collected ++ [answer]) (ctx.after o) visits r) :
    Course (e :: rest) position collected ctx (⟨e, ctx, o, some (answer, false)⟩ :: visits) r

/-! ### Stages -/

/-- A visit, and what its handler has written to the log while it was running. -/
structure Stage (β τ : Type) where
  visit : Visit β τ
  lines : List LogLine

/-- The lines that are in a later log only. -/
def Log.since (log later : Log) : List LogLine := later.lines.toList.drop log.lines.size

/-- The same handlers; something is written down of each invocation as soon as it is over, with the
lines that have come to the log meanwhile. -/
def Invoke.observed (see : Call β τ → List LogLine → κ) (invoke : Invoke β τ σ) :
    Invoke β τ (σ × List κ) := fun e ctx w =>
  let done := invoke e ctx w.plain
  (done.1, done.2.beside (w.outside.2 ++ [see (.handler e ctx done.1) (w.log.since done.2.log)]))

/-- The same predicate; something is written down of each question. A predicate writes nothing to
the log. -/
def observedAccept (see : Call β τ → List LogLine → κ) (accept : Value → σ → Bool × σ) :
    Value → σ × List κ → Bool × (σ × List κ) := fun v s =>
  let verdict := accept v s.1
  (verdict.1, (verdict.2, s.2 ++ [see (.predicate v verdict.1) []]))

namespace Visit

/-- The notice in front of a visit. -/
def opening (v : Visit β τ) (position : Nat) : Notice :=
  .invoking v.entry.handler.name v.entry.selector.text v.entry.priority position

/-- The notice behind a visit that ends the walk. -/
def closing? (v : Visit β τ) (position : Nat) : Option Notice :=
  match v.outcome.result with
  | .error cause => some (.handlerFailed position cause.message)
  | .ok _ =>
    if v.flagged then some (.propagationStopped v.entry.handler.name)
    else if v.asked.any Prod.snd then some (.predicateAccepted v.entry.handler.name)
    else none

end Visit

/-- What is written down of a stage. -/
def Stage.seen (see : Call β τ → List LogLine → κ) (s : Stage β τ) : List κ :=
  see (.handler s.visit.entry s.visit.context s.visit.outcome) s.lines ::
    (s.visit.asked.map fun question => see (.predicate question.1 question.2) []).toList

/-- How a log comes through the stages of a walk. The walk notes that it invokes the handler, which
may then write its own lines; a stage that ends the walk is followed by one more notice. -/
inductive Passes (invoke : Invoke β τ σ) : Nat → Log → List (Stage β τ) → Log → Prop where
  | done (position : Nat) (log : Log) : Passes invoke position log [] log
  | stage {position : Nat} {log final : Log} {s : Stage β τ} {rest : List (Stage β τ)}
    {w w' : World β σ} (hfound : w.log = log.note (s.visit.opening position))
    (hrun : invoke s.visit.entry s.visit.context w = (s.visit.outcome, w'))
    (hlines : s.lines = w.log.since w'.log)
    (hrest : Passes invoke (position + 1)
      (((s.visit.closing? position).map fun n => w'.log.note n).getD w'.log) rest final) :
    Passes invoke position log (s :: rest) final

/-- What is written down of the predicate behind an outcome. -/
def questions (accept : Value → σ → Bool × σ) (ctx : Context τ) (o : Outcome) (s : σ) :
    List (Call β τ) :=
  match o.result with
  | .ok answer =>
    if (ctx.after o).stopped then [] else [.predicate answer (accept answer s).1]
  | .error _ => []

/-- A turn comes to the same if something is written down of the predicate. -/
theorem turn_observed (see : Call β τ → List LogLine → κ) (accept : Value → σ → Bool × σ)
    (e : Entry β) (position : Nat) (collected : List Value) (ctx : Context τ) (o : Outcome)
    (w : World β σ) (k : List κ) :
    turn (observedAccept see accept) e position collected ctx o (w.beside k) =
      (turn accept e position collected ctx o w).beside
        (k ++ (questions accept ctx o w.outside).map fun call => see call []) := by
  unfold turn questions
  cases o.result with
  | error cause =>
    rw [List.map_nil, List.append_nil]
    rfl
  | ok answer =>
    cases hflag : (ctx.after o).stopped with
    | true =>
      simp only [if_true, List.map_nil, List.append_nil]
      rfl
    | false =>
      simp only [Bool.false_eq_true, if_false]
      by_cases haccept : (w.judge accept answer).1 = true
      · have hbeside : ((w.beside k).judge (observedAccept see accept) answer).1 = true := haccept
        rw [if_pos hbeside, if_pos haccept]
        rfl
      · have hbeside : ¬ ((w.beside k).judge (observedAccept see accept) answer).1 = true := haccept
        rw [if_neg hbeside, if_neg haccept]
        rfl

/-- A walk makes its calls stage by stage. -/
theorem walk_stages (see : Call β τ → List LogLine → κ) (invoke : Invoke β τ σ)
    (accept : Value → σ → Bool × σ) (es : List (Entry β)) (position : Nat) (collected : List Value)
    (ctx : Context τ) (w : World β σ) (k : List κ) :
    let done := walk invoke accept es position collected ctx w
    ∃ stages : List (Stage β τ),
      walk (invoke.observed see) (observedAccept see accept) es position collected ctx
          (w.beside k) = (done.1, done.2.beside (k ++ stages.flatMap (Stage.seen see))) ∧
        Course es position collected ctx (stages.map Stage.visit) done.1 ∧
        Passes invoke position w.log stages done.2.log := by
  induction es generalizing position collected ctx w k with
  | nil =>
    refine ⟨[], ?_, Course.done position collected ctx, Passes.done position w.log⟩
    rw [List.flatMap_nil, List.append_nil]
    rfl
  | cons e rest ih =>
    simp only [walk_cons, World.note_beside]
    generalize hfound :
      w.note (.invoking e.handler.name e.selector.text e.priority position) = found
    have hopening : found.log =
        w.log.note (.invoking e.handler.name e.selector.text e.priority position) := hfound ▸ rfl
    rcases hdone : invoke e ctx found with ⟨o, w'⟩
    have hobserved : invoke.observed see e ctx (found.beside k) =
        (o, w'.beside (k ++ [see (.handler e ctx o) (found.log.since w'.log)])) :=
      congrArg (fun done => (done.1, done.2.beside
        (k ++ [see (.handler e ctx done.1) (found.log.since done.2.log)]))) hdone
    simp only [hobserved, turn_observed]
    rcases turn_cases accept e position collected ctx o w' with
      ⟨cause, hresult, hturn⟩ | ⟨v, hresult, hflag, hturn⟩ |
      ⟨v, hresult, hflag, haccept, hturn⟩ | ⟨v, hresult, hflag, haccept, hturn⟩
    · rw [hturn]
      refine ⟨[⟨⟨e, ctx, o, none⟩, found.log.since w'.log⟩], ?_,
        Course.failed e rest position collected ctx o hresult,
        Passes.stage hopening hdone rfl ?_⟩
      · simp [Turn.beside, questions, hresult, Stage.seen]
      · simp only [Visit.closing?, hresult]
        exact .done _ _
    · rw [hturn]
      refine ⟨[⟨⟨e, ctx, o, none⟩, found.log.since w'.log⟩], ?_,
        Course.stopped e rest position collected ctx o hresult hflag,
        Passes.stage hopening hdone rfl ?_⟩
      · simp [Turn.beside, questions, hresult, hflag, Stage.seen]
      · simp only [Visit.closing?, hresult, Visit.flagged, hflag]
        exact .done _ _
    · rw [hturn]
      refine ⟨[⟨⟨e, ctx, o, some (v, true)⟩, found.log.since w'.log⟩], ?_,
        Course.accepted e rest position collected ctx o hresult hflag,
        Passes.stage hopening hdone rfl ?_⟩
      · simp [Turn.beside, questions, hresult, hflag, haccept, Stage.seen]
      · simp only [Visit.closing?, hresult, Visit.flagged, hflag]
        exact .done _ _
    · rw [hturn]
      obtain ⟨stages, hwalk, hcourse, hpasses⟩ := ih (position + 1) (collected ++ [v])
        (ctx.after o) (w'.judge accept v).2
        (k ++ [see (.handler e ctx o) (found.log.since w'.log)] ++
          (questions accept ctx o w'.outside).map fun call => see call [])
      refine ⟨⟨⟨e, ctx, o, some (v, false)⟩, found.log.since w'.log⟩ :: stages, ?_,
        Course.next e hresult hflag hcourse, Passes.stage hopening hdone rfl ?_⟩
      · refine hwalk.trans ?_
        simp [questions, hresult, hflag, haccept, Stage.seen]
      · simp only [Visit.closing?, hresult, Visit.flagged, hflag]
        exact hpasses

/-- The calls that a walk makes are those of a course. -/
theorem walk_course (invoke : Invoke β τ σ) (accept : Value → σ → Bool × σ) (es : List (Entry β))
    (position : Nat) (collected : List Value) (ctx : Context τ) (w : World β σ)
    (k : List (Call β τ)) :
    let done := walk invoke accept es position collected ctx w
    ∃ visits,
      walk invoke.traced (tracedAccept accept) es position collected ctx (w.beside k) =
          (done.1, done.2.beside (k ++ visits.flatMap Visit.calls)) ∧
        Course es position collected ctx visits done.1 := by
  obtain ⟨stages, hwalk, hcourse, -⟩ :=
    walk_stages (fun call _ => call) invoke accept es position collected ctx w k
  refine ⟨stages.map Stage.visit, ?_, hcourse⟩
  rw [List.flatMap_map]
  exact hwalk

namespace Course

variable {es : List (Entry β)} {position : Nat} {collected : List Value} {ctx : Context τ}
  {visits : List (Visit β τ)} {r : Except EngineError Responses}

/-- The entries that are visited are the first ones, each once and in order. -/
theorem entries (h : Course es position collected ctx visits r) :
    visits.map Visit.entry <+: es := by
  induction h with
  | done => exact List.nil_prefix
  | failed | stopped | accepted => exact List.cons_prefix_cons.2 ⟨rfl, List.nil_prefix⟩
  | next e _ _ _ ih => exact List.cons_prefix_cons.2 ⟨rfl, ih⟩

theorem inTurn (h : Course es position collected ctx visits r) : Visit.InTurn ctx visits := by
  induction h with
  | done => trivial
  | failed | stopped | accepted => exact ⟨rfl, trivial⟩
  | next _ _ _ _ ih => exact ⟨rfl, ih⟩

/-- Behind every visit but the last one the walk has gone on. -/
theorem goesOn (h : Course es position collected ctx visits r) :
    ∀ v ∈ visits.dropLast, v.GoesOn := by
  induction h with
  | done | failed | stopped | accepted => simp
  | @next _ _ _ _ _ _ answer visits _ hresult hflag hrest ih =>
    cases visits with
    | nil => simp
    | cons v rest =>
      rw [List.dropLast_cons_cons]
      exact List.forall_mem_cons.2 ⟨⟨answer, hresult, hflag, rfl⟩, ih⟩

/-- The predicate is asked about an answer that is offered, and about nothing else. -/
theorem asked (h : Course es position collected ctx visits r) :
    ∀ v ∈ visits, v.asked.map Prod.fst = v.offer? := by
  induction h with
  | done => simp
  | failed _ _ _ _ _ _ hresult => simp [Visit.offer?, hresult]
  | stopped _ _ _ _ _ _ hresult hflag => simp [Visit.offer?, Visit.flagged, hresult, hflag]
  | accepted _ _ _ _ _ _ hresult hflag => simp [Visit.offer?, Visit.flagged, hresult, hflag]
  | next _ hresult hflag _ ih =>
    refine List.forall_mem_cons.2 ⟨?_, ih⟩
    simp [Visit.offer?, Visit.flagged, hresult, hflag]

/-- A walk that fails has got the answers of all its visits but the last one, whose handler has
failed. -/
theorem of_error (h : Course es position collected ctx visits r) {err : EngineError}
    (hr : r = .error err) :
    ∃ own cause, visits.map (fun v => v.outcome.result) = own.map .ok ++ [.error cause] ∧
      err = .handlerFailed ctx.event (position + own.length) ⟨collected ++ own, false⟩ cause := by
  induction h with
  | done | stopped | accepted => cases hr
  | @failed _ _ _ _ _ _ cause hresult =>
    cases hr
    exact ⟨[], cause, by simp [hresult], by simp⟩
  | @next _ _ _ _ _ _ answer _ _ hresult _ _ ih =>
    obtain ⟨own, cause, hown, rfl⟩ := ih hr
    refine ⟨answer :: own, cause, ?_, ?_⟩
    · rw [List.map_cons, hown, hresult]
      rfl
    · rw [Context.event_after, List.length_cons, List.append_assoc, List.singleton_append]
      congr 1
      omega

/-- A walk that succeeds has got the answers of all its visits. -/
theorem of_ok (h : Course es position collected ctx visits r) {responses : Responses}
    (hr : r = .ok responses) :
    ∃ own, visits.map (fun v => v.outcome.result) = own.map .ok ∧
      responses.values = collected ++ own := by
  induction h with
  | done =>
    cases hr
    exact ⟨[], rfl, by simp⟩
  | failed => cases hr
  | @stopped _ _ _ _ _ _ answer hresult | @accepted _ _ _ _ _ _ answer hresult =>
    cases hr
    exact ⟨[answer], by simp [hresult], rfl⟩
  | @next _ _ _ _ _ _ answer _ _ hresult _ _ ih =>
    obtain ⟨own, hown, hvalues⟩ := ih hr
    refine ⟨answer :: own, ?_, ?_⟩
    · rw [List.map_cons, hown, hresult]
      rfl
    · rw [hvalues, List.append_assoc, List.singleton_append]

/-- A walk that succeeds has been stopped if it was stopped behind its last visit. -/
theorem stopped_iff (h : Course es position collected ctx visits r) {responses : Responses}
    (hr : r = .ok responses) :
    responses.stopped = true ↔ ∃ last, visits.getLast? = some last ∧ last.Stops := by
  induction h with
  | done =>
    cases hr
    simp
  | failed => cases hr
  | stopped _ _ _ _ _ _ _ hflag =>
    cases hr
    simpa [Visit.Stops, Visit.flagged] using hflag
  | accepted =>
    cases hr
    simp [Visit.Stops]
  | @next e _ _ _ ctx o answer visits _ hresult hflag _ ih =>
    rw [ih hr]
    cases visits with
    | nil =>
      have hgo : Visit.GoesOn ⟨e, ctx, o, some (answer, false)⟩ := ⟨answer, hresult, hflag, rfl⟩
      simpa using hgo.not_stops
    | cons v rest => rw [List.getLast?_cons_cons]

/-- A walk that has not been stopped has visited all entries. -/
theorem complete (h : Course es position collected ctx visits r) {responses : Responses}
    (hr : r = .ok responses) (hstopped : responses.stopped = false) :
    visits.map Visit.entry = es := by
  induction h with
  | done => rfl
  | failed => cases hr
  | stopped | accepted =>
    cases hr
    cases hstopped
  | next e _ _ _ ih => exact congrArg (List.cons e) (ih hr)

/-- A walk fails exactly if a handler that it has invoked has failed. -/
theorem fails_iff (h : Course es position collected ctx visits r) :
    (∃ err, r = .error err) ↔ ∃ v ∈ visits, ∃ cause, v.outcome.result = .error cause := by
  constructor
  · rintro ⟨err, hr⟩
    obtain ⟨own, cause, hresults, -⟩ := h.of_error hr
    have hmem : Except.error cause ∈ visits.map fun v => v.outcome.result := by
      rw [hresults]
      exact List.mem_append_right _ (List.mem_singleton_self _)
    obtain ⟨v, hv, hresult⟩ := List.mem_map.1 hmem
    exact ⟨v, hv, cause, hresult⟩
  · rintro ⟨v, hv, cause, hresult⟩
    cases r with
    | error err => exact ⟨err, rfl⟩
    | ok responses =>
      -- all handlers of a walk that succeeds have answered
      obtain ⟨own, hresults, -⟩ := h.of_ok rfl
      have hmem : v.outcome.result ∈ own.map Except.ok :=
        hresults ▸ List.mem_map_of_mem hv
      obtain ⟨answer, -, hok⟩ := List.mem_map.1 hmem
      rw [hresult] at hok
      cases hok

end Course

/-- What a walk comes to. It calls handlers and predicate as its visits say and makes no other call:
the first entries of the list are visited in order and each once, each handler finds the context
that the one before it has left, and all visits but the last one go on. The predicate is asked, once
and right behind the handler, about each answer behind which nobody has wished to stop, and about
nothing else.

The walk fails if an invoked handler has failed; this is then the last one, and the error has its
position and the answers before it, not stopped whatever that handler has wished for. Otherwise the
walk has all answers in order; it has been stopped exactly if its last visit has stopped it, and if
not, every entry has been visited. Unless somebody has wished to stop before the walk, a wish is one
of the handler just invoked. -/
theorem walk_outcome (invoke : Invoke β τ σ) (accept : Value → σ → Bool × σ) (es : List (Entry β))
    (ctx : Context τ) (w : World β σ) :
    let done := walk invoke accept es 0 [] ctx w
    ∃ visits : List (Visit β τ),
      walk invoke.traced (tracedAccept accept) es 0 [] ctx (w.beside []) =
          (done.1, done.2.beside (visits.flatMap Visit.calls)) ∧
        visits.map Visit.entry <+: es ∧ Visit.InTurn ctx visits ∧
        (∀ v ∈ visits.dropLast, v.GoesOn) ∧
        (∀ v ∈ visits, v.asked.map Prod.fst = v.offer?) ∧
        ((∃ err, done.1 = .error err) ↔
          ∃ v ∈ visits, ∃ cause, v.outcome.result = .error cause) ∧
        (∀ err, done.1 = .error err → ∃ earlier cause,
          visits.map (fun v => v.outcome.result) = earlier.map .ok ++ [.error cause] ∧
            err = .handlerFailed ctx.event earlier.length ⟨earlier, false⟩ cause) ∧
        (∀ r, done.1 = .ok r →
          visits.map (fun v => v.outcome.result) = r.values.map .ok ∧
            (r.stopped = true ↔ ∃ last, visits.getLast? = some last ∧ last.Stops) ∧
            (r.stopped = false → visits.map Visit.entry = es)) ∧
        (ctx.stopped = false → ∀ v ∈ visits, v.flagged = v.outcome.stops) := by
  intro done
  obtain ⟨visits, htraced, hcourse⟩ := walk_course invoke accept es 0 [] ctx w []
  refine ⟨visits, htraced, hcourse.entries, hcourse.inTurn, hcourse.goesOn, hcourse.asked,
    hcourse.fails_iff, fun err herr => ?_, fun r hr => ?_,
    fun hctx => hcourse.inTurn.flagged_eq hctx hcourse.goesOn⟩
  · obtain ⟨earlier, cause, hresults, rfl⟩ := hcourse.of_error herr
    exact ⟨earlier, cause, hresults, by rw [Nat.zero_add, List.nil_append]⟩
  · obtain ⟨own, hresults, hvalues⟩ := hcourse.of_ok hr
    rw [List.nil_append] at hvalues
    exact ⟨hvalues ▸ hresults, hcourse.stopped_iff hr, hcourse.complete hr⟩

/-- A handler of one kind answers; one of the other kind wishes to stop, and fails. -/
def answerOrGiveUp : Invoke Bool Unit Unit := fun e ctx w =>
  if e.handler.body then (⟨.ok .null, ctx.arguments, false⟩, w)
  else (⟨.error (.text "closed"), ctx.arguments, true⟩, w)

/-- Three entries for an event; the handler of the second one gives up. -/
def givingUpSecond : List (Entry Bool) :=
  let offer : Selector := ⟨.exact, "offer", Selector.isName_offer⟩
  [⟨⟨0, 0⟩, offer, 1, .ofBody "open" true⟩, ⟨⟨0, 1⟩, offer, 1, .ofBody "closed" false⟩,
    ⟨⟨0, 2⟩, offer, 1, .ofBody "open" true⟩]

theorem walk_outcome_givingUp :
    (walk answerOrGiveUp Request.never givingUpSecond 0 [] (Context.start "offer" () [])
        ⟨Pool.empty, (), Log.empty⟩).1 =
      .error (.handlerFailed "offer" 1 ⟨[.null], false⟩ (.text "closed")) ∧
    ∃ visits : List (Visit Bool Unit),
      visits.map Visit.entry = givingUpSecond.take 2 ∧
        visits.map (fun v => v.outcome.result) = [.ok .null, .error (.text "closed")] ∧
        ∀ v ∈ visits, v.flagged = v.outcome.stops := by
  have hdone : (walk answerOrGiveUp Request.never givingUpSecond 0 [] (Context.start "offer" () [])
      ⟨Pool.empty, (), Log.empty⟩).1 =
        .error (.handlerFailed "offer" 1 ⟨[.null], false⟩ (.text "closed")) := rfl
  obtain ⟨visits, -, hentries, -, -, -, -, herror, -, hflagged⟩ :=
    walk_outcome answerOrGiveUp Request.never givingUpSecond (Context.start "offer" () [])
      ⟨Pool.empty, (), Log.empty⟩
  obtain ⟨earlier, cause, hresults, herr⟩ := herror _ hdone
  injection herr with _ _ hpartial hcause
  injection hpartial with hearlier
  subst hearlier hcause
  have hlength : visits.length = 2 := by simpa using congrArg List.length hresults
  refine ⟨hdone, visits, ?_, hresults, hflagged rfl⟩
  rw [List.prefix_iff_eq_take.1 hentries, List.length_map, hlength]

end Switchboard
