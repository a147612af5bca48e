import Switchboard.Proofs.Dispatch.Record

/-!
# Registrations that are refused

A registry refuses a handler that cannot be invoked, and refuses nothing else: a pattern can always
be made ready for matching. A registration that is refused might as well not have been tried.

* `Handler.wrapped`: a handler under names around names;
* `Registry.isRefusal_apply`, `Registry.apply_of_fails`: one change that is refused;
* `Registry.run_filter_fails`: a run with refused registrations, and the run without them;
* `refused_registrations`: both together, and the same for a dispatcher with its log.
-/

namespace Switchboard

variable {β σ : Type}

namespace Handler

/-- The handler under names around names, the outermost first. -/
def wrapped (names : List String) (h : Handler β) : Handler β := names.foldr named h

/-- A name around a handler does not make it invocable or the contrary. -/
@[simp] theorem invocable_wrapped (names : List String) (h : Handler β) :
    (h.wrapped names).invocable = h.invocable := by
  induction names with
  | nil => rfl
  | cons name names ih => exact ih

theorem name_wrapped (names : List String) (h : Handler β) :
    (h.wrapped names).name = names.headD h.name := by
  cases names <;> rfl

end Handler

/-- Whether the change registers a handler that cannot be invoked. -/
def Change.fails : Change β → Bool
  | .register _ h _ => !h.invocable
  | _ => false

/-- Whether the answer is that of a refused registration. -/
def Answer.isRefusal : Answer β → Bool
  | .registered (.error _) => true
  | _ => false

namespace Registry

theorem isRefusal_apply (r : Registry β) (c : Change β) : (r.apply c).1.isRefusal = c.fails := by
  cases c with
  | register s h p =>
    rw [apply_register, Change.fails]
    cases h.invocable <;> rfl
  | unregister e => rfl
  | clear => rfl

theorem apply_of_fails (r : Registry β) {c : Change β} (h : c.fails = true) : (r.apply c).2 = r := by
  cases c with
  | register s hd p =>
    have hinvocable : hd.invocable = false := by simpa [Change.fails] using h
    rw [apply_register, hinvocable]
    rfl
  | unregister e => cases h
  | clear => cases h

/-- Without its refused registrations a run leaves the same registry, and gives the same answers but
for the refusals. -/
theorem run_filter_fails (r : Registry β) (changes : List (Change β)) :
    r.run (changes.filter fun c => !c.fails) =
      ((r.run changes).1.filter fun a => !a.isRefusal, (r.run changes).2) := by
  induction changes generalizing r with
  | nil => rfl
  | cons c changes ih =>
    have hanswer := isRefusal_apply r c
    rw [run, List.filter_cons]
    cases hc : c.fails with
    | true =>
      rw [hc] at hanswer
      rw [apply_of_fails r hc, List.filter_cons, hanswer]
      exact ih r
    | false =>
      rw [hc] at hanswer
      rw [List.filter_cons, hanswer]
      simp only [Bool.not_false, if_true, run, ih]

end Registry

/-- A registration fails exactly if the handler cannot be invoked, whatever the selector and under
however many names. The error is then that of the handler under its outermost name; no other error
is possible. The registry stays as it was, and so does the world of a dispatcher with its log. A run
in which registrations have failed leaves the registry that the run without these leaves, and all
other changes have got the same answers, so the same numbers have been given away. -/
theorem refused_registrations :
    (∀ (s : Selector) (h : Handler β) (names : List String),
      let refusal : EngineError := .invalidCallback (.notInvocable (names.headD h.name) s.text)
      (∀ (r : Registry β) p e, (r.register s (h.wrapped names) p).1 = .error e ↔
        h.invocable = false ∧ e = refusal) ∧
      (h.invocable = false →
        (∀ (r : Registry β) p,
          r.apply (.register s (h.wrapped names) p) = (.registered (.error refusal), r)) ∧
        ∀ (w : World β σ) id priority,
          w.bind id s (h.wrapped names) priority = (.error refusal, w))) ∧
    ∀ (r : Registry β) changes,
      r.run (changes.filter fun c => !c.fails) =
        ((r.run changes).1.filter fun a => !a.isRefusal, (r.run changes).2) := by
  refine ⟨fun s h names => ?_, Registry.run_filter_fails⟩
  intro refusal
  have hrefusal : refusal = .invalidCallback (.notInvocable (h.wrapped names).name s.text) := by
    rw [Handler.name_wrapped]
  rw [hrefusal, ← Handler.invocable_wrapped names h]
  refine ⟨fun r p e => ?_, fun hinvocable => ⟨fun r p => ?_, fun w id priority => ?_⟩⟩
  · rw [Registry.register_eq]
    cases (h.wrapped names).invocable <;> simp [eq_comm]
  · rw [Registry.apply_register, hinvocable]
    rfl
  · exact w.bind_of_not_invocable id s hinvocable priority

/-- A handler that cannot be invoked. -/
def closedHandler : Handler Unit := ⟨"closed", false, ()⟩

/-- The handler is tried twice, for a pattern under two names and for a plain name under none, around
a registration that succeeds. -/
def closedChanges : List (Change Unit) :=
  [.register ⟨.endsWith, "offer", Selector.isName_offer⟩ (closedHandler.wrapped ["front", "back"]) 3,
    .register ⟨.exact, "offer", Selector.isName_offer⟩ (.ofBody "open" ()) 1,
    .register ⟨.exact, "offer", Selector.isName_offer⟩ closedHandler 5]

theorem refused_registrations_closed :
    closedHandler.invocable = false ∧
      ((Registry.empty 0).register ⟨.endsWith, "offer", Selector.isName_offer⟩
        (closedHandler.wrapped ["front", "back"]) 3).1 =
          .error (.invalidCallback (.notInvocable "front" "$=offer")) ∧
      ((Registry.empty 0).run closedChanges).2.nextSequence = 1 ∧
      (((Registry.empty 0).run closedChanges).2.resolve "offer").map Entry.token = [⟨0, 0⟩] := by
  obtain ⟨hone, hrun⟩ := refused_registrations (β := Unit) (σ := Unit)
  have hclosed : closedHandler.invocable = false := rfl
  -- the run with both attempts is that of the other registration alone
  have halone : ((Registry.empty 0).run closedChanges).2 = ((Registry.empty 0).run
      [.register ⟨.exact, "offer", Selector.isName_offer⟩ (.ofBody "open" ()) 1]).2 :=
    (congrArg Prod.snd (hrun (Registry.empty 0) closedChanges)).symm
  refine ⟨hclosed, ((hone _ closedHandler ["front", "back"]).1 _ 3 _).2 ⟨hclosed, rfl⟩, ?_, ?_⟩
  · rw [halone]
    rfl
  · rw [halone]
    decide +kernel

end Switchboard
