import Switchboard.Proofs.Dispatch.Record
import Switchboard.Proofs.Selector.Grammar
import Switchboard.Wiring

/-!
# What becomes of a configured binding

Whether a binding can be registered is settled by the binding and the catalog; what is registered
already does not count. `BindingConfig.fate` says what becomes of it: nothing if it is disabled, a
reason if it is refused, and otherwise the `Draft` of an entry, which only lacks its number.

* `BindingConfig.fate_eq_bound_iff`: when a binding is bound, and to what;
* `World.wireOne_of_refused`, `World.wireOne_of_bound`: one binding is registered by its fate;
* `World.wireFrom_cons`: one step of wiring, for each fate.
-/

namespace Switchboard

variable {β σ : Type}

/-- What a binding asks for. -/
structure Draft (β : Type) where
  selector : Selector
  priority : Int
  handler : Handler β

/-- The entry that has this identity. -/
def Draft.entry (d : Draft β) (token : Token) : Entry β := ⟨token, d.selector, d.priority, d.handler⟩

/-- The entry without its identity. -/
def Entry.draft (e : Entry β) : Draft β := ⟨e.selector, e.priority, e.handler⟩

@[simp] theorem Draft.draft_entry (d : Draft β) (token : Token) : (d.entry token).draft = d := rfl

/-- What becomes of a binding. -/
inductive Fate (β : Type) where
  | disabled
  | refused (reason : EngineError)
  | bound (draft : Draft β)

namespace Fate

/-- What the binding asks for, if it is bound. -/
def draft? : Fate β → Option (Draft β)
  | bound d => some d
  | _ => none

/-- Why the binding is refused, if it is. -/
def reason? : Fate β → Option EngineError
  | refused e => some e
  | _ => none

@[simp] theorem draft?_eq_some_iff {f : Fate β} {d : Draft β} : f.draft? = some d ↔ f = bound d := by
  cases f <;> simp [draft?]

@[simp] theorem reason?_eq_some_iff {f : Fate β} {e : EngineError} :
    f.reason? = some e ↔ f = refused e := by
  cases f <;> simp [reason?]

end Fate

namespace BindingConfig

/-- What becomes of the binding, with the priority of bindings that name none: it has to pass its
check, its handler has to be in the catalog, and the handler has to be invocable. -/
def fate (b : BindingConfig) (catalog : Catalog β) (standard : Int) : Fate β :=
  if b.enabled then
    match b.lookUp catalog with
    | .error e => .refused e
    | .ok (selector, handler) =>
      if handler.invocable then .bound ⟨selector, b.priority.getD standard, handler⟩
      else .refused (.invalidCallback (.notInvocable handler.name selector.text))
  else .disabled

/-- The binding is enabled, and nothing stands against the entry that it asks for: its selector can
be read, and its handler has a name, is in the catalog and can be invoked. -/
structure Asks (b : BindingConfig) (catalog : Catalog β) (standard : Int) (d : Draft β) : Prop where
  enabled : b.enabled = true
  selector : Selector.parse b.selector = .ok d.selector
  named : Text.allBlank b.handler = false
  handler : Table.get? b.handler catalog = some d.handler
  invocable : d.handler.invocable = true
  priority : d.priority = b.priority.getD standard

theorem check_eq_ok_iff {b : BindingConfig} {s : Selector} :
    b.check = .ok s ↔ Selector.parse b.selector = .ok s ∧ Text.allBlank b.handler = false := by
  unfold check
  by_cases hempty : b.selector = ""
  · -- the empty text is refused by itself, and is no selector either
    rw [if_pos hempty, hempty]
    have hparse : Selector.parse "" = .error (.invalidSelector "") := rfl
    simp [hparse]
  · rw [if_neg hempty]
    cases hparse : Selector.parse b.selector with
    | error e => simp
    | ok t =>
      cases hblank : Text.allBlank b.handler with
      | true => simp
      | false => simp

theorem find_eq_ok_iff {catalog : Catalog β} {name : String} {h : Handler β} :
    catalog.find name = .ok h ↔ Table.get? name catalog = some h := by
  unfold Catalog.find
  cases Table.get? name catalog <;> simp

theorem lookUp_eq_ok_iff {b : BindingConfig} {catalog : Catalog β} {s : Selector} {h : Handler β} :
    b.lookUp catalog = .ok (s, h) ↔ b.check = .ok s ∧ Table.get? b.handler catalog = some h := by
  unfold lookUp
  rw [← find_eq_ok_iff]
  cases b.check with
  | error e => simp
  | ok t => cases catalog.find b.handler <;> simp

theorem Asks.lookUp {b : BindingConfig} {catalog : Catalog β} {standard : Int} {d : Draft β}
    (h : b.Asks catalog standard d) : b.lookUp catalog = .ok (d.selector, d.handler) :=
  lookUp_eq_ok_iff.2 ⟨check_eq_ok_iff.2 ⟨h.selector, h.named⟩, h.handler⟩

theorem fate_eq_disabled_iff {b : BindingConfig} {catalog : Catalog β} {standard : Int} :
    b.fate catalog standard = .disabled ↔ b.enabled = false := by
  unfold fate
  cases b.enabled with
  | false => simp
  | true =>
    simp only [if_true, Bool.true_eq_false, iff_false]
    split
    · simp
    · split <;> simp

theorem enabled_of_refused {b : BindingConfig} {catalog : Catalog β} {standard : Int}
    {e : EngineError} (h : b.fate catalog standard = .refused e) : b.enabled = true := by
  by_contra hnot
  rw [Bool.not_eq_true] at hnot
  rw [fate_eq_disabled_iff.2 hnot] at h
  cases h

/-- A binding is bound exactly if nothing stands against it. -/
theorem fate_eq_bound_iff {b : BindingConfig} {catalog : Catalog β} {standard : Int}
    {d : Draft β} : b.fate catalog standard = .bound d ↔ b.Asks catalog standard d := by
  constructor
  · intro h
    unfold fate at h
    split at h
    next henabled =>
      split at h
      next => cases h
      next s hd hlook =>
        split at h
        next hinvocable =>
          cases h
          obtain ⟨hcheck, hfind⟩ := lookUp_eq_ok_iff.1 hlook
          obtain ⟨hparse, hnamed⟩ := check_eq_ok_iff.1 hcheck
          exact ⟨henabled, hparse, hnamed, hfind, hinvocable, rfl⟩
        next => cases h
    next => cases h
  · intro h
    unfold fate
    simp only [h.enabled, h.lookUp, h.invocable, if_true, ← h.priority]

end BindingConfig

/-! ### One binding -/

/-- The registry with more entries. -/
def Registry.addAll (r : Registry β) (es : List (Entry β)) : Registry β := es.foldl Registry.add r

@[simp] theorem Registry.addAll_nil (r : Registry β) : r.addAll [] = r := rfl

@[simp] theorem Registry.addAll_cons (r : Registry β) (e : Entry β) (es : List (Entry β)) :
    r.addAll (e :: es) = (r.add e).addAll es := rfl

@[simp] theorem Registry.id_addAll (r : Registry β) (es : List (Entry β)) :
    (r.addAll es).id = r.id := by
  induction es generalizing r with
  | nil => rfl
  | cons e es ih => rw [addAll_cons, ih, id_add]

@[simp] theorem Registry.nextSequence_addAll (r : Registry β) (es : List (Entry β)) :
    (r.addAll es).nextSequence = r.nextSequence + es.length := by
  induction es generalizing r with
  | nil => rfl
  | cons e es ih =>
    rw [addAll_cons, ih, nextSequence_add, List.length_cons]
    omega

namespace World

/-- The entry that a draft becomes on a dispatcher. -/
def nextEntry (w : World β σ) (id : Nat) (d : Draft β) : Entry β :=
  d.entry ⟨(w.registry id).id, (w.registry id).nextSequence⟩

/-- The world in which a dispatcher has one more entry, which is noted. -/
def extended (w : World β σ) (id : Nat) (e : Entry β) : World β σ :=
  (w.setRegistry id ((w.registry id).add e)).note
    (.registered e.selector.text e.handler.name e.priority e.sequence)

@[simp] theorem dispatcher_note (w : World β σ) (n : Notice) (id : Nat) :
    (w.note n).dispatcher id = w.dispatcher id := rfl

theorem dispatcher_extended (w : World β σ) (id other : Nat) (e : Entry β) :
    (w.extended id e).dispatcher other =
      if other = id then { w.dispatcher id with registry := (w.registry id).add e }
      else w.dispatcher other := by
  unfold extended
  rw [dispatcher_note, dispatcher_setRegistry]
  split
  next h => rw [h]
  next => rfl

/-- A binding that is refused changes nothing. -/
theorem wireOne_of_refused {w : World β σ} {id : Nat} {catalog : Catalog β} {b : BindingConfig}
    {e : EngineError} (h : b.fate catalog (w.dispatcher id).defaultPriority = .refused e) :
    w.wireOne id catalog b = (.error e, w) := by
  have henabled := BindingConfig.enabled_of_refused h
  unfold BindingConfig.fate at h
  rw [if_pos henabled] at h
  unfold wireOne
  cases hlook : b.lookUp catalog with
  | error e' =>
    rw [hlook] at h
    cases h
    rfl
  | ok found =>
    obtain ⟨s, hd⟩ := found
    rw [hlook] at h
    by_cases hinvocable : hd.invocable = true
    · simp only [if_pos hinvocable] at h
      cases h
    · simp only [if_neg hinvocable] at h
      cases h
      exact w.bind_of_not_invocable id s (Bool.eq_false_iff.2 hinvocable) b.priority

/-- A binding that is bound becomes the next entry. -/
theorem wireOne_of_bound {w : World β σ} {id : Nat} {catalog : Catalog β} {b : BindingConfig}
    {d : Draft β} (h : b.fate catalog (w.dispatcher id).defaultPriority = .bound d) :
    w.wireOne id catalog b = (.ok (w.nextEntry id d), w.extended id (w.nextEntry id d)) := by
  have hasks := BindingConfig.fate_eq_bound_iff.1 h
  simp only [wireOne, hasks.lookUp, bind, Registry.register_eq, if_pos hasks.invocable,
    ← hasks.priority]
  rfl

/-- One step of wiring: a disabled binding is counted, a refused one ends the work or is skipped,
and a bound one becomes the next entry. -/
theorem wireFrom_cons (id : Nat) (catalog : Catalog β) (strict : Bool) (index : Nat)
    (b : BindingConfig) (rest : List BindingConfig) (report : WiringReport β) (w : World β σ) :
    wireFrom id catalog strict index (b :: rest) report w =
      match b.fate catalog (w.dispatcher id).defaultPriority with
      | .disabled =>
        wireFrom id catalog strict (index + 1) rest report.addDisabled
          (w.note (.bindingDisabled index b.selector))
      | .refused e =>
        if strict then (.error (.wiring index b.selector b.handler e), w)
        else
          wireFrom id catalog strict (index + 1) rest
            (report.addSkipped ⟨index, b.selector, b.handler, e⟩)
            (w.note (.bindingSkipped index b.selector b.handler e.message))
      | .bound d =>
        wireFrom id catalog strict (index + 1) rest (report.addBound (w.nextEntry id d))
          (w.extended id (w.nextEntry id d)) := by
  cases hfate : b.fate catalog (w.dispatcher id).defaultPriority with
  | disabled =>
    have henabled := BindingConfig.fate_eq_disabled_iff.1 hfate
    simp only [wireFrom, henabled, Bool.false_eq_true, if_false]
  | refused e =>
    have henabled := BindingConfig.enabled_of_refused hfate
    simp only [wireFrom, henabled, if_true, wireOne_of_refused hfate]
  | bound d =>
    have henabled := (BindingConfig.fate_eq_bound_iff.1 hfate).enabled
    simp only [wireFrom, henabled, if_true, wireOne_of_bound hfate]

end World

end Switchboard
