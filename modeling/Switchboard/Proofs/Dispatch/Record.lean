import Switchboard.Dispatch.Walk
import Switchboard.Proofs.Registry.Roster

/-!
# Keeping a record of what handlers do

The state outside the dispatchers is a parameter of every definition about dispatching. So the very
same definitions can be run on a state with a `Record` beside it, in which handlers write down what
they do: no operation and no predicate can tell the difference.

* `Deed`, `Record`: an entry whose handler is invoked, an operation that a handler performs;
* `Operation.dispatcher_run`: what an operation does to the dispatchers, as changes of registries;
* `Record.Explains`: the dispatchers have changed by the operations of the record, in their order,
  and by nothing else.
-/

namespace Switchboard

variable {α β κ τ σ ρ : Type}

/-- Something that is written down. -/
inductive Deed (β : Type) where
  /-- The handler of an entry has been invoked and has left an outcome. -/
  | invoked (e : Entry β) (outcome : Outcome)
  /-- A handler has performed an operation and got a reply. -/
  | performed (op : Operation β) (reply : op.Reply)

/-- What has been written down, in order. -/
abbrev Record (β : Type) := List (Deed β)

/-! ### Worlds with a record beside the state outside -/

namespace World

/-- The same world with something beside the state outside. -/
def beside (w : World β σ) (k : κ) : World β (σ × κ) := ⟨w.pool, (w.outside, k), w.log⟩

/-- Writes a deed down. -/
def write (w : World β (σ × Record β)) (deed : Deed β) : World β (σ × Record β) :=
  { w with outside := (w.outside.1, w.outside.2 ++ [deed]) }

@[simp] theorem dispatcher_beside (w : World β σ) (k : κ) (id : Nat) :
    (w.beside k).dispatcher id = w.dispatcher id := rfl

@[simp] theorem registry_beside (w : World β σ) (k : κ) (id : Nat) :
    (w.beside k).registry id = w.registry id := rfl

@[simp] theorem note_beside (w : World β σ) (k : κ) (n : Notice) :
    (w.beside k).note n = (w.note n).beside k := rfl

@[simp] theorem write_beside (w : World β σ) (k : Record β) (deed : Deed β) :
    (w.beside k).write deed = w.beside (k ++ [deed]) := rfl

theorem dispatcher_setRegistry (w : World β σ) (id other : Nat) (r : Registry β) :
    (w.setRegistry id r).dispatcher other =
      if other = id then { w.dispatcher other with registry := r } else w.dispatcher other := by
  unfold setRegistry setDispatcher
  simp only [dispatcher, Pool.set_apply]
  split
  next h => rw [h]
  next => rfl

end World

/-- The same request; its predicate leaves alone what stands beside the state. -/
def Request.beside (κ : Type) (q : Request τ σ) : Request τ (σ × κ) :=
  ⟨q.dispatcher, q.event, q.target, q.arguments,
    fun v s => ((q.accept v s.1).1, ((q.accept v s.1).2, s.2))⟩

/-- No operation looks at the state outside. -/
theorem Operation.run_beside (op : Operation β) (w : World β σ) (k : κ) :
    op.run (w.beside k) = ((op.run w).1, (op.run w).2.beside k) := by
  cases op with
  | bind d s h p =>
    simp only [run, World.bind, World.dispatcher_beside]
    split <;> rfl
  | detach d e =>
    simp only [run, World.detach, World.registry_beside]
    split <;> rfl
  | clear d => rfl
  | count d => rfl
  | holds d e => rfl

/-! ### What a record says -/

/-- The dispatcher after changes of its registry. -/
def Dispatcher.changed (d : Dispatcher β) (changes : List (Change β)) : Dispatcher β :=
  { d with registry := (d.registry.run changes).2 }

/-- The changes that an operation makes to the registry of one dispatcher, with the priority of
bindings that name none. -/
def Operation.changesOn (id : Nat) (standard : Int) : Operation β → List (Change β)
  | bind d s h p => if d = id then [.register s h (p.getD standard)] else []
  | detach d e => if d = id then [.unregister e] else []
  | clear d => if d = id then [.clear] else []
  | count _ => []
  | holds .. => []

namespace Deed

/-- The entry that is invoked, with the outcome. -/
def visit? : Deed β → Option (Entry β × Outcome)
  | invoked e o => some (e, o)
  | performed .. => none

/-- The entry that an operation has made. -/
def registered? : Deed β → Option (Entry β)
  | performed (.bind ..) (.ok e) => some e
  | _ => none

/-- The changes that are made to the registry of one dispatcher. -/
def changesOn (id : Nat) (standard : Int) : Deed β → List (Change β)
  | invoked .. => []
  | performed op _ => op.changesOn id standard

end Deed

namespace Record

/-- The entries that are invoked, with their outcomes, in order. -/
def visits (record : Record β) : List (Entry β × Outcome) := record.filterMap Deed.visit?

/-- The entries that are invoked, in order. -/
def invoked (record : Record β) : List (Entry β) := (visits record).map Prod.fst

/-- The entries that are made, in order. -/
def registered (record : Record β) : List (Entry β) := record.filterMap Deed.registered?

/-- The changes that are made to the registry of one dispatcher, in order. -/
def changesOn (id : Nat) (standard : Int) (record : Record β) : List (Change β) :=
  record.flatMap (Deed.changesOn id standard)

theorem visits_append (first second : Record β) :
    visits (first ++ second) = visits first ++ visits second := List.filterMap_append

theorem registered_append (first second : Record β) :
    registered (first ++ second) = registered first ++ registered second := List.filterMap_append

theorem changesOn_append (id : Nat) (standard : Int) (first second : Record β) :
    changesOn id standard (first ++ second) =
      changesOn id standard first ++ changesOn id standard second := List.flatMap_append

end Record

/-! ### What an operation does -/

theorem Dispatcher.changed_append (d : Dispatcher β) (first second : List (Change β)) :
    (d.changed first).changed second = d.changed (first ++ second) := by
  unfold changed
  rw [Registry.run_append]

namespace World

/-- A dispatcher that refuses a registration notes nothing and leaves the world as it is. -/
theorem bind_of_not_invocable (w : World β σ) (id : Nat) (s : Selector) {h : Handler β}
    (hinvocable : h.invocable = false) (priority : Option Int) :
    w.bind id s h priority = (.error (.invalidCallback (.notInvocable h.name s.text)), w) := by
  rw [bind, Registry.register_eq, hinvocable]
  exact congrArg _ (w.setRegistry_self id)

/-- A change of one registry changes the dispatcher of that registry, and no other one. -/
theorem dispatcher_setRegistry_apply (w : World β σ) (id other : Nat) (c : Change β) :
    (w.setRegistry id ((w.registry id).apply c).2).dispatcher other =
      (w.dispatcher other).changed (if id = other then [c] else []) := by
  rw [dispatcher_setRegistry]
  by_cases hid : id = other
  · subst hid
    rw [if_pos rfl, if_pos rfl]
    rfl
  · rw [if_neg (Ne.symm hid), if_neg hid]
    rfl

theorem dispatcher_bind (w : World β σ) (id other : Nat) (s : Selector) (h : Handler β)
    (p : Option Int) :
    (w.bind id s h p).2.dispatcher other = (w.dispatcher other).changed
      (if id = other then
        [.register s h (p.getD (w.dispatcher id).defaultPriority)] else []) := by
  rw [← dispatcher_setRegistry_apply, Registry.apply, bind]
  simp only [registry]
  split
  next hr => rw [hr]; rfl
  next hr => rw [hr]

theorem dispatcher_detach (w : World β σ) (id other : Nat) (e : Entry β) :
    (w.detach id e).2.dispatcher other = (w.dispatcher other).changed
      (if id = other then [.unregister e] else []) := by
  rw [← dispatcher_setRegistry_apply, Registry.apply, detach]
  split
  next hr => rw [hr]; rfl
  next hr => rw [hr]; rfl

end World

/-- An operation makes its own changes to the dispatchers and no others. -/
theorem Operation.dispatcher_run (op : Operation β) (w : World β σ) (id : Nat) :
    (op.run w).2.dispatcher id = (w.dispatcher id).changed
      (op.changesOn id (w.dispatcher id).defaultPriority) := by
  cases op with
  | bind d s h p =>
    refine (w.dispatcher_bind d id s h p).trans ?_
    by_cases hid : d = id
    · rw [hid, changesOn]
    · rw [if_neg hid, changesOn, if_neg hid]
  | detach d e => exact w.dispatcher_detach d id e
  | clear d => exact w.dispatcher_setRegistry_apply d id .clear
  | count d => rfl
  | holds d e => rfl

/-- An entry that an operation makes gets a number which its registry has not yet given away. -/
theorem Operation.fresh_run (op : Operation β) (w : World β σ) {e : Entry β}
    (h : (Deed.performed op (op.run w).1).registered? = some e) :
    ∃ id, e.token = ⟨(w.registry id).id, (w.registry id).nextSequence⟩ := by
  cases op with
  | bind d s hd p =>
    refine ⟨d, ?_⟩
    simp only [run, World.bind, Registry.register_eq] at h
    cases hinv : hd.invocable with
    | false =>
      rw [hinv] at h
      cases h
    | true =>
      rw [hinv] at h
      cases h
      rfl
  | detach d e => cases h
  | clear d => cases h
  | count d => cases h
  | holds d e => cases h

/-! ### What a record explains -/

namespace Record

/-- Every dispatcher has changed by the operations of the record, in their order, and by nothing
else; and every entry that the record says was made has got a number that was not yet in use. -/
structure Explains (record : Record β) (p p' : Pool β) : Prop where
  dispatcher : ∀ id, p' id = (p id).changed (changesOn id (p id).defaultPriority record)
  fresh : ∀ e ∈ registered record, ∃ id, e.token.registry = (p id).registry.id ∧
    (p id).registry.nextSequence ≤ e.sequence

namespace Explains

variable {p p' p'' : Pool β} {record record' : Record β}

theorem refl (p : Pool β) : Explains [] p p where
  dispatcher _ := rfl
  fresh := by simp [registered]

/-- One record after the other explains both changes together. -/
theorem append (h : Explains record p p') (h' : Explains record' p' p'') :
    Explains (record ++ record') p p'' where
  dispatcher id := by
    have hpriority : (p' id).defaultPriority = (p id).defaultPriority := by
      rw [h.dispatcher id]
      rfl
    rw [h'.dispatcher id, hpriority, h.dispatcher id, Dispatcher.changed_append, changesOn_append]
  fresh e he := by
    rw [registered_append] at he
    rcases List.mem_append.1 he with he | he
    · exact h.fresh e he
    · obtain ⟨id, hid, hnext⟩ := h'.fresh e he
      -- numbers only grow, so what was free later has been free before
      rw [h.dispatcher id] at hid hnext
      refine ⟨id, hid.trans (Registry.id_run _ _), ?_⟩
      exact (Registry.nextSequence_le_run _ _).trans hnext

/-- That a handler has been invoked changes nothing by itself. -/
theorem invoked (e : Entry β) (o : Outcome) (p : Pool β) : Explains [.invoked e o] p p where
  dispatcher _ := rfl
  fresh := by simp [registered, Deed.registered?]

theorem performed (op : Operation β) (w : World β σ) :
    Explains [.performed op (op.run w).1] w.pool (op.run w).2.pool where
  dispatcher id := by
    rw [changesOn, List.flatMap_singleton]
    exact op.dispatcher_run w id
  fresh e he := by
    rw [registered, List.filterMap_cons] at he
    split at he
    next => cases he
    next f hf =>
      obtain rfl := List.mem_singleton.1 he
      obtain ⟨id, hid⟩ := op.fresh_run w hf
      refine ⟨id, congrArg Token.registry hid, ?_⟩
      exact (congrArg Token.sequence hid).ge

end Explains

end Record

end Switchboard
