import Switchboard.Proofs.Dispatch.Mirror
import Switchboard.Proofs.Registry.Numbers
import Switchboard.Proofs.Selector.Grammar

/-!
# A trigger walks along the entries that it finds at its start

Handlers may bind, remove and clear while a trigger runs, on any dispatcher, and trigger events in
turn. `trigger_snapshot` says that its walk does not notice, and that they alone change the
dispatchers. The events that handlers trigger run inside each other up to some depth; a run that
ends is one at every depth that is great enough, and the theorem is about all depths.

* `Bodies.triggerRecorded`: a trigger beside a record, which gets the visits of its own walk and all
  operations of handlers, also of those that run inside others;
* `World.Reachable`: the registries have come about from empty ones.
-/

namespace Switchboard

variable {β τ σ : Type}

namespace Bodies

/-- How handlers are invoked outside of any other handler: beside a record, to which the visit is
added as soon as it is over. -/
def invokeRecorded (bodies : Bodies β τ σ) (depth : Nat) : Invoke β τ (σ × Record β) :=
  fun e ctx w =>
    let done := bodies.recorded.invokeAt depth e ctx w
    (done.1, done.2.write (.invoked e done.1))

/-- Triggers an event beside a record. -/
def triggerRecorded (bodies : Bodies β τ σ) (depth : Nat) (q : Request τ σ)
    (w : World β (σ × Record β)) : Except EngineError Responses × World β (σ × Record β) :=
  dispatch (bodies.invokeRecorded depth) (q.beside (Record β)) w

/-- Each visit shows itself. -/
theorem mirrors_invokeRecorded (bodies : Bodies β τ σ) (depth : Nat) (e : Entry β)
    (ctx : Context τ) (w : World β σ) :
    Mirrors (bodies.invokeRecorded depth e ctx) (bodies.invokeAt depth e ctx) w
      fun o visits => visits = [(e, o)] := by
  intro k
  obtain ⟨record, hrun, hexplains, hvisits⟩ :=
    Program.mirrors_run (bodies.mirrors_nested depth) (bodies e.handler.body ctx) w k
  have hinvoke : bodies.recorded.invokeAt depth e ctx (w.beside k) =
      ((bodies.invokeAt depth e ctx w).1,
        (bodies.invokeAt depth e ctx w).2.beside (k ++ record)) := hrun
  refine ⟨record ++ [.invoked e (bodies.invokeAt depth e ctx w).1], ?_,
    hexplains.append (Record.Explains.invoked e _ _), ?_⟩
  · simp only [invokeRecorded, hinvoke, World.write_beside, List.append_assoc]
  · rw [Record.visits_append, hvisits]
    rfl

end Bodies

/-- Every registry of the world has come about from an empty one. -/
def World.Reachable (w : World β σ) : Prop :=
  ∀ id, ∃ changes, w.registry id = ((Registry.empty id).run changes).2

namespace World.Reachable

variable {w w' : World β σ}

theorem id_registry (h : w.Reachable) (id : Nat) : (w.registry id).id = id := by
  obtain ⟨changes, hchanges⟩ := h id
  rw [hchanges, Registry.id_run]
  rfl

theorem numbered (h : w.Reachable) (id : Nat) : (w.registry id).Numbered := by
  obtain ⟨changes, hchanges⟩ := h id
  rw [hchanges]
  exact (Registry.numbered_empty id).run changes

/-- A world whose dispatchers have not been set up yet. -/
theorem initial (s : σ) (log : Log) : World.Reachable (⟨Pool.empty, s, log⟩ : World β σ) :=
  fun _ => ⟨[], rfl⟩

/-- A world stays reachable if a record explains what has become of it. -/
theorem explained (h : w.Reachable) {record : Record β}
    (hrecord : record.Explains w.pool w'.pool) : w'.Reachable := by
  intro id
  obtain ⟨changes, hchanges⟩ := h id
  refine ⟨changes ++ record.changesOn id (w.dispatcher id).defaultPriority, ?_⟩
  rw [Registry.run_append, ← hchanges]
  exact congrArg Dispatcher.registry (hrecord.dispatcher id)

theorem run (h : w.Reachable) (op : Operation β) : (op.run w).2.Reachable :=
  h.explained (Record.Explains.performed op w)

/-- An entry that is made later is none of those that were found before. -/
theorem ne_of_registered (h : w.Reachable) {record : Record β}
    (hrecord : record.Explains w.pool w'.pool) {id : Nat} {event : String} {e f : Entry β}
    (he : e ∈ record.registered) (hf : f ∈ (w.registry id).resolve event) : e ≠ f := by
  rintro rfl
  obtain ⟨other, hid, hnext⟩ := hrecord.fresh e he
  obtain ⟨hid', hnext'⟩ := h.numbered id e (Registry.stores_of_mem_resolve hf)
  have hother : (w.pool other).registry.id = other := h.id_registry other
  rw [h.id_registry] at hid'
  rw [hid', hother] at hid
  subst hid
  exact absurd hnext' (Nat.not_lt.2 hnext)

end World.Reachable

/-- A trigger comes to the same beside a record, whatever the handlers do. The record shows that its
walk has made its visits along the entries for the event as the registry held them at the start:
the first of them in order, and all of them unless a visit has ended the walk. It also tells what has
become of every dispatcher: the operations of handlers have changed it, in their order, and nothing
else has. No entry that was made on the way has been visited. -/
theorem trigger_snapshot (bodies : Bodies β τ σ) (depth : Nat) (q : Request τ σ) (w : World β σ)
    {name : Selector} (hname : Selector.eventName q.event = .ok name) :
    let done := bodies.trigger depth q w
    ∃ record : Record β,
      bodies.triggerRecorded depth q (w.beside []) = (done.1, done.2.beside record) ∧
        Walked q.accept ((w.registry q.dispatcher).resolve name.name) done.1 record.visits ∧
        (∀ id, done.2.dispatcher id = (w.dispatcher id).changed
          (record.changesOn id (w.dispatcher id).defaultPriority)) ∧
        (w.Reachable → done.2.Reachable ∧ ∀ e ∈ record.registered, e ∉ record.invoked) := by
  intro done
  obtain ⟨record, hrun, hexplains, made, hwalked, hvisits⟩ :=
    mirrors_dispatch (fun visit => [visit]) (bodies.mirrors_invokeRecorded depth) q hname w []
  have hmade : record.visits = made := by
    rw [hvisits, List.flatMap_singleton']
  rw [← hmade] at hwalked
  refine ⟨record, hrun, hwalked, hexplains.dispatcher, fun hreach => ?_⟩
  refine ⟨hreach.explained hexplains, fun e he hinvoked => ?_⟩
  exact hreach.ne_of_registered hexplains he (hwalked.1.subset hinvoked) rfl

/-- The selector of a plain event. -/
def offerMade : Selector := ⟨.exact, "offer", Selector.isName_offer⟩

/-- Handlers of two kinds: one removes every binding and makes a new one for the running event, the
other only answers. -/
def unruly : Bodies Bool Unit Unit := fun clears ctx => do
  let answered : Outcome := ⟨.ok (.bool clears), ctx.arguments, false⟩
  if clears then
    Program.clear 0
    let _ ← Program.register 0 offerMade (.ofBody "late" false) none
    return answered
  else return answered

/-- A dispatcher with one handler of each kind. -/
def unrulyWorld : World Bool Unit :=
  let w : World Bool Unit := ⟨Pool.empty, (), Log.empty⟩
  ((w.bind 0 offerMade (.ofBody "unruly" true) none).2.bind 0 offerMade (.ofBody "calm" false) none).2

theorem trigger_snapshot_unruly :
    Selector.eventName "offer" = .ok offerMade ∧ unrulyWorld.Reachable ∧
      ∃ record : Record Bool,
        record.visits.map (fun visit => visit.1.handler.name) = ["unruly", "calm"] ∧
          (record.registered.map fun e => e.handler.name) = ["late"] ∧
          (∀ id, (unruly.trigger 0 (.ofEvent 0 "offer" ()) unrulyWorld).2.dispatcher id =
            (unrulyWorld.dispatcher id).changed
              (record.changesOn id (unrulyWorld.dispatcher id).defaultPriority)) ∧
          ∀ e ∈ record.registered, e ∉ record.invoked := by
  have hname : Selector.eventName "offer" = .ok offerMade := rfl
  have hreach : unrulyWorld.Reachable :=
    ((World.Reachable.initial () Log.empty).run (.bind 0 offerMade (.ofBody "unruly" true) none)).run
      (.bind 0 offerMade (.ofBody "calm" false) none)
  obtain ⟨record, hrun, -, hchanged, hnew⟩ :=
    trigger_snapshot unruly 0 (.ofEvent 0 "offer" ()) unrulyWorld hname
  have hrecord : record =
      (unruly.triggerRecorded 0 (.ofEvent 0 "offer" ()) (unrulyWorld.beside [])).2.outside.2 :=
    (congrArg (fun done => done.2.outside.2) hrun).symm
  refine ⟨hname, hreach, record, ?_, ?_, hchanged, (hnew hreach).2⟩
  · rw [hrecord]
    decide +kernel
  · rw [hrecord]
    decide +kernel

end Switchboard
