import Switchboard.Dispatch.Walk

/-!
# One step of a walk

A walk invokes the handler of its first entry and then takes its `turn`: it halts, or it goes on
with the entries behind. `walk_cons` says that this is what a walk does, and `turn_cases` tells the
four ways in which a turn can be taken, with all that is left behind in each of them.
-/

namespace Switchboard

variable {β τ σ : Type}

/-- What becomes of a walk once a handler has left an outcome. -/
inductive Turn (β σ : Type) where
  /-- The walk is over. -/
  | halt (result : Except EngineError Responses) (w : World β σ)
  /-- The walk goes on, with one more answer. -/
  | next (answer : Value) (w : World β σ)

/-- The turn that a walk takes behind an entry, given its outcome and the world that it has left. -/
def turn (accept : Value → σ → Bool × σ) (e : Entry β) (position : Nat) (collected : List Value)
    (ctx : Context τ) (o : Outcome) (w : World β σ) : Turn β σ :=
  match o.result with
  | .error err =>
    .halt (.error (.handlerFailed ctx.event position ⟨collected, false⟩ err))
      (w.note (.handlerFailed position err.message))
  | .ok v =>
    if (ctx.after o).stopped then
      .halt (.ok ⟨collected ++ [v], true⟩) (w.note (.propagationStopped e.handler.name))
    else
      let judged := w.judge accept v
      if judged.1 then
        .halt (.ok ⟨collected ++ [v], true⟩) (judged.2.note (.predicateAccepted e.handler.name))
      else .next v judged.2

/-- A walk invokes its first entry and takes its turn. -/
theorem walk_cons (invoke : Invoke β τ σ) (accept : Value → σ → Bool × σ) (e : Entry β)
    (rest : List (Entry β)) (position : Nat) (collected : List Value) (ctx : Context τ)
    (w : World β σ) :
    walk invoke accept (e :: rest) position collected ctx w =
      let done := invoke e ctx
        (w.note (.invoking e.handler.name e.selector.text e.priority position))
      match turn accept e position collected ctx done.1 done.2 with
      | .halt r w => (r, w)
      | .next v w =>
        walk invoke accept rest (position + 1) (collected ++ [v]) (ctx.after done.1) w := by
  simp only [walk, turn]
  rcases invoke e ctx (w.note (.invoking e.handler.name e.selector.text e.priority position)) with
    ⟨o, w'⟩
  simp only
  cases o.result with
  | error err => rfl
  | ok v =>
    simp only
    split
    next => rfl
    next =>
      rcases w'.judge accept v with ⟨accepted, w''⟩
      cases accepted <;> rfl

/-- A turn looks at the failure of the handler first, then at its wish to stop, and at the predicate
last. -/
theorem turn_cases (accept : Value → σ → Bool × σ) (e : Entry β) (position : Nat)
    (collected : List Value) (ctx : Context τ) (o : Outcome) (w : World β σ) :
    (∃ err, o.result = .error err ∧
      turn accept e position collected ctx o w =
        .halt (.error (.handlerFailed ctx.event position ⟨collected, false⟩ err))
          (w.note (.handlerFailed position err.message))) ∨
    (∃ v, o.result = .ok v ∧ (ctx.after o).stopped = true ∧
      turn accept e position collected ctx o w =
        .halt (.ok ⟨collected ++ [v], true⟩) (w.note (.propagationStopped e.handler.name))) ∨
    (∃ v, o.result = .ok v ∧ (ctx.after o).stopped = false ∧ (accept v w.outside).1 = true ∧
      turn accept e position collected ctx o w =
        .halt (.ok ⟨collected ++ [v], true⟩)
          ((w.judge accept v).2.note (.predicateAccepted e.handler.name))) ∨
    ∃ v, o.result = .ok v ∧ (ctx.after o).stopped = false ∧ (accept v w.outside).1 = false ∧
      turn accept e position collected ctx o w = .next v (w.judge accept v).2 := by
  unfold turn
  cases hresult : o.result with
  | error err => exact Or.inl ⟨err, rfl, rfl⟩
  | ok v =>
    refine Or.inr ?_
    cases hstopped : (ctx.after o).stopped with
    | true => exact Or.inl ⟨v, rfl, rfl, rfl⟩
    | false =>
      refine Or.inr ?_
      have hjudge : (w.judge accept v).1 = (accept v w.outside).1 := rfl
      cases haccept : (accept v w.outside).1 with
      | true =>
        refine Or.inl ⟨v, rfl, rfl, haccept, ?_⟩
        simp only [hjudge, haccept, Bool.false_eq_true, if_true, if_false]
      | false =>
        refine Or.inr ⟨v, rfl, rfl, haccept, ?_⟩
        simp only [hjudge, haccept, Bool.false_eq_true, if_false]

end Switchboard
