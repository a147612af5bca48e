import Switchboard.Proofs.Dispatch.Step
import Switchboard.Proofs.Selector.Grammar

/-!
# A predicate cuts a trigger short

A trigger may be given a predicate that ends its walk behind the first answer that it accepts. As
long as the predicate only looks at answers, the trigger runs as it would without one, up to that
answer, and there it ends.

* `turn_judging`: one turn with a predicate and without one;
* `walk_judging`: a walk with a predicate and without one;
* `dispatch_judging`: a trigger with a predicate and without one.
-/

namespace Switchboard

variable {β τ σ : Type}

/-- Accepts answers by themselves, and leaves the state outside alone. -/
def judging (P : Value → Bool) : Value → σ → Bool × σ := fun v s => (P v, s)

/-- The answers that have been collected, be it that the dispatch has come to its end or that a
handler has failed. -/
def answers : Except EngineError Responses → List Value
  | .ok r => r.values
  | .error e => (e.collected?.map Responses.values).getD []

/-! ### Turns and walks -/

/-- A turn with a predicate is the turn without one, unless that goes on behind an answer that the
predicate accepts. -/
theorem turn_judging (P : Value → Bool) (e : Entry β) (position : Nat) (collected : List Value)
    (ctx : Context τ) (o : Outcome) (w : World β σ) :
    turn (judging P) e position collected ctx o w =
      match turn Request.never e position collected ctx o w with
      | .halt r w => .halt r w
      | .next v w =>
        if P v then .halt (.ok ⟨collected ++ [v], true⟩) (w.note (.predicateAccepted e.handler.name))
        else .next v w := by
  unfold turn
  cases o.result with
  | error err => rfl
  | ok v =>
    cases (ctx.after o).stopped with
    | true => rfl
    | false => cases hv : P v <;> simp [World.judge, judging, Request.never, hv]

/-- A turn without a predicate halts behind a failure, with no further answer, or behind an answer
whose handler has asked for it. Otherwise it goes on. -/
theorem turn_never_cases (e : Entry β) (position : Nat) (collected : List Value) (ctx : Context τ)
    (o : Outcome) (w : World β σ) :
    (∃ r w', turn Request.never e position collected ctx o w = .halt r w' ∧
      answers r = collected) ∨
    (∃ v w', turn Request.never e position collected ctx o w =
      .halt (.ok ⟨collected ++ [v], true⟩) w') ∨
    ∃ v w', turn Request.never e position collected ctx o w = .next v w' := by
  rcases turn_cases Request.never e position collected ctx o w with
    ⟨cause, -, hturn⟩ | ⟨v, -, -, hturn⟩ | ⟨v, -, -, haccept, -⟩ | ⟨v, -, -, -, hturn⟩
  · exact Or.inl ⟨_, _, hturn, rfl⟩
  · exact Or.inr (Or.inl ⟨v, _, hturn⟩)
  · cases haccept
  · exact Or.inr (Or.inr ⟨v, _, hturn⟩)

/-- Up to the log the second world is the first one. -/
def World.Alike (w w' : World β σ) : Prop := w.pool = w'.pool ∧ w.outside = w'.outside

/-- A walk with a predicate ends behind the first new answer that is accepted, in the world that the
walk without it would have reached there. If no answer is accepted, both walks are the same. -/
theorem walk_judging (invoke : Invoke β τ σ) (P : Value → Bool) (es : List (Entry β))
    (position : Nat) (collected : List Value) (ctx : Context τ) (w : World β σ) :
    ∃ own, answers (walk invoke Request.never es position collected ctx w).1 = collected ++ own ∧
      match own.findIdx? P with
      | none =>
        walk invoke (judging P) es position collected ctx w =
          walk invoke Request.never es position collected ctx w
      | some j =>
        (walk invoke (judging P) es position collected ctx w).1 =
            .ok ⟨collected ++ own.take (j + 1), true⟩ ∧
          World.Alike (walk invoke (judging P) es position collected ctx w).2
            (walk invoke Request.never (es.take (j + 1)) position collected ctx w).2 := by
  induction es generalizing position collected ctx w with
  | nil => exact ⟨[], (List.append_nil _).symm, rfl⟩
  | cons e rest ih =>
    simp only [List.take_succ_cons, walk_cons, turn_judging]
    rcases invoke e ctx (w.note (.invoking e.handler.name e.selector.text e.priority position)) with
      ⟨o, w'⟩
    simp only
    rcases turn_never_cases e position collected ctx o w' with
      ⟨r, w'', hturn, hr⟩ | ⟨v, w'', hturn⟩ | ⟨v, w'', hturn⟩
    · -- the failed handler has given no answer that could be judged
      refine ⟨[], ?_, ?_⟩
      · rw [hturn, List.append_nil]
        exact hr
      · rw [hturn]
        rfl
    · refine ⟨[v], by rw [hturn]; rfl, ?_⟩
      rw [hturn, List.findIdx?_singleton]
      cases P v with
      | true => exact ⟨rfl, rfl, rfl⟩
      | false => rfl
    · simp only [hturn]
      obtain ⟨own, hown, hrest⟩ := ih (position + 1) (collected ++ [v]) (ctx.after o) w''
      refine ⟨v :: own, by rw [hown, List.append_assoc, List.singleton_append], ?_⟩
      rw [List.findIdx?_cons]
      cases hv : P v with
      | true => exact ⟨rfl, rfl, rfl⟩
      | false =>
        rw [if_neg Bool.false_ne_true]
        cases hj : own.findIdx? P with
        | none =>
          rw [hj] at hrest
          exact hrest
        | some j =>
          rw [hj] at hrest
          refine ⟨hrest.1.trans ?_, hrest.2⟩
          rw [List.take_succ_cons, List.append_assoc, List.singleton_append]

/-! ### Triggers -/

/-- The world in which the walk of a dispatch starts. -/
def World.entered (w : World β σ) (q : Request τ σ) (name : Selector) : World β σ :=
  World.note { w with log := w.log.enter (.dispatch name.text) }
    (.resolved ((w.registry q.dispatcher).resolve name.name).length)

theorem dispatch_of_eventName (invoke : Invoke β τ σ) {q : Request τ σ} {name : Selector}
    (hname : Selector.eventName q.event = .ok name) (w : World β σ) :
    dispatch invoke q w =
      let done := walk invoke q.accept ((w.registry q.dispatcher).resolve name.name) 0 []
        (Context.start name.name q.target q.arguments) (w.entered q name)
      (done.1, { done.2 with log := done.2.log.leave }) := by
  unfold dispatch
  rw [hname]
  rfl

/-- A trigger with a predicate on answers, beside the same trigger without one. Let an answer that
the latter has collected, by its end or before a handler has failed, be the first that the predicate
accepts. Then the trigger with it comes to the answers up to that one and has been stopped, whatever
becomes of the other trigger later; and the handlers up to that one have run, and no others. If there
is no such answer, both triggers come to the same and leave the same world. -/
theorem dispatch_judging (invoke : Invoke β τ σ) (P : Value → Bool) (q : Request τ σ)
    (w : World β σ) :
    let plain := dispatch invoke { q with accept := Request.never } w
    let cut := dispatch invoke (q.stoppingAt (judging P)) w
    match (answers plain.1).findIdx? P with
    | none => cut = plain
    | some j =>
      cut.1 = .ok ⟨(answers plain.1).take (j + 1), true⟩ ∧
        ∀ name, Selector.eventName q.event = .ok name →
          cut.2.Alike (walk invoke Request.never
            (((w.registry q.dispatcher).resolve name.name).take (j + 1)) 0 []
            (Context.start name.name q.target q.arguments) (w.entered q name)).2 := by
  intro plain cut
  cases hname : Selector.eventName q.event with
  | error e =>
    -- the text is refused before anything else happens, with a predicate or without one
    have hplain : plain = (.error e, w) := by simp only [plain, dispatch, hname]
    have hcut : cut = (.error e, w) := by simp only [cut, dispatch, Request.stoppingAt, hname]
    have hnone : answers plain.1 = [] := by
      rw [hplain, Selector.eq_of_eventName_eq_error hname]
      rfl
    rw [hnone]
    exact hcut.trans hplain.symm
  | ok name =>
    have hplain := dispatch_of_eventName invoke (q := { q with accept := Request.never }) hname w
    have hcut := dispatch_of_eventName invoke (q := q.stoppingAt (judging P)) hname w
    obtain ⟨own, hown, hwalk⟩ := walk_judging invoke P
      ((w.registry q.dispatcher).resolve name.name) 0 []
      (Context.start name.name q.target q.arguments) (w.entered q name)
    have hanswers : answers plain.1 = own := by
      show answers (dispatch invoke { q with accept := Request.never } w).1 = own
      rw [hplain]
      exact hown
    rw [hanswers]
    cases hj : own.findIdx? P with
    | none =>
      rw [hj] at hwalk
      exact hcut.trans ((congrArg (fun done => (done.1, { done.2 with log := done.2.log.leave }))
        hwalk).trans hplain.symm)
    | some j =>
      rw [hj] at hwalk
      refine ⟨(congrArg Prod.fst hcut).trans hwalk.1, fun name' hname' => ?_⟩
      cases hname'
      show World.Alike (dispatch invoke (q.stoppingAt (judging P)) w).2 _
      rw [hcut]
      exact hwalk.2

/-- A handler answers its number, and the one of number zero fails. -/
def countOrFail : Invoke Nat Unit Unit := fun e ctx w =>
  if e.handler.body = 0 then (⟨.error (.text "closed"), ctx.arguments, false⟩, w)
  else (⟨.ok (.int e.handler.body), ctx.arguments, false⟩, w)

/-- Two handlers that answer, and a third one that fails. -/
def twoThenFail : World Nat Unit :=
  let offer : Selector := ⟨.exact, "offer", Selector.isName_offer⟩
  let w : World Nat Unit := ⟨Pool.empty, (), Log.empty⟩
  let w := (w.bind 0 offer (.ofBody "first" 1) none).2
  let w := (w.bind 0 offer (.ofBody "second" 2) none).2
  (w.bind 0 offer (.ofBody "closed" 0) none).2

unseal Merge.toList in
theorem dispatch_judging_before_failure :
    (dispatch countOrFail (.ofEvent 0 "offer" ()) twoThenFail).1 =
        .error (.handlerFailed "offer" 2 ⟨[.int 1, .int 2], false⟩ (.text "closed")) ∧
      (dispatch countOrFail
        ((Request.ofEvent 0 "offer" ()).stoppingAt (judging fun v => v.same (.int 2))) twoThenFail).1 =
        .ok ⟨[.int 1, .int 2], true⟩ := by
  have hplain : (dispatch countOrFail (.ofEvent 0 "offer" ()) twoThenFail).1 =
      .error (.handlerFailed "offer" 2 ⟨[.int 1, .int 2], false⟩ (.text "closed")) := rfl
  have hcut := dispatch_judging countOrFail (fun v => v.same (.int 2)) (.ofEvent 0 "offer" ())
    twoThenFail
  have hfirst : (answers (dispatch countOrFail (.ofEvent 0 "offer" ()) twoThenFail).1).findIdx?
      (fun v => v.same (.int 2)) = some 1 := by
    rw [hplain]
    rfl
  refine ⟨hplain, ?_⟩
  simp only at hcut
  split at hcut
  next hnone => cases hnone.symm.trans hfirst
  next j hj =>
    cases hj.symm.trans hfirst
    exact hcut.1

end Switchboard
