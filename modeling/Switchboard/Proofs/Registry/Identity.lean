import Mathlib.Logic.Function.Basic
import Switchboard.Proofs.Registry.Places

/-!
# Entries and the registries that have made them

Several registries are changed in any order. An interleaved run is on each of them a run of its own
changes, so what is said here of one registry and of all changes that it may meet later holds in
any company.

* `Registry.Used`: an identity has been given away, and what may still be stored under it;
* `Fleet.run_eq`: an interleaved run, seen from one registry;
* `issued_identity`: an entry belongs to the registry that has made it, and once it has left that
  registry it never comes back.

Two registries number their bindings alike, so an entry of one of them may have the selector, the
priority, the number and the handler of an entry that stands in the other. Its identity is the only
thing that tells them apart.
-/

namespace Switchboard

variable {β : Type}

/-! ### One registry -/

namespace Registry

variable {r : Registry β} {e : Entry β} {t : Token} {P : Entry β → Prop}

theorem exists_stores_of_contains (h : r.contains e = true) :
    ∃ f, r.Stores f ∧ f.token = e.token := by
  unfold contains at h
  split at h
  · obtain ⟨p, hp, ht⟩ := List.any_eq_true.1 h
    exact ⟨p.entry, Or.inr ⟨p, hp, rfl⟩, by simpa using ht⟩
  · obtain ⟨f, hf, ht⟩ := List.any_eq_true.1 h
    exact ⟨f, stores_of_mem_bucket hf, by simpa using ht⟩

/-- An entry that is not found cannot be removed. -/
theorem unregister_of_not_contains (h : r.contains e = false) : r.unregister e = (false, r) := by
  unfold unregister
  rw [h]
  rfl

/-- The registry has given this identity away, and an entry that is stored under it has a property.
-/
structure Used (r : Registry β) (t : Token) (P : Entry β → Prop) : Prop where
  registry : t.registry = r.id
  below : t.sequence < r.nextSequence
  stored : ∀ f, r.Stores f → f.token = t → P f

/-- An identity is given away once, so no change brings another entry under it. -/
theorem Used.apply (h : r.Used t P) (c : Change β) : (r.apply c).2.Used t P := by
  refine ⟨h.registry.trans (id_apply r c).symm, h.below.trans_le (nextSequence_le_apply r c), ?_⟩
  cases c with
  | register s hd p =>
    rw [apply_register]
    split
    · intro f hf ht
      rcases stores_add hf with rfl | hf
      · -- the new entry has a number that comes after that of the identity
        rw [← ht] at h
        exact absurd h.below (lt_irrefl _)
      · exact h.stored f hf ht
    · exact h.stored
  | unregister g => exact fun f hf => h.stored f (stores_unregister hf)
  | clear =>
    rintro f (⟨named, hn, -⟩ | ⟨p, hp, -⟩)
    · cases hn
    · cases hp

theorem Used.run (h : r.Used t P) (changes : List (Change β)) : (r.run changes).2.Used t P := by
  induction changes generalizing r with
  | nil => exact h
  | cons c rest ih => exact ih (h.apply c)

/-- A new entry is the only one under its identity. -/
theorem Numbered.used (h : r.Numbered) {s : Selector} {hd : Handler β} {p : Int}
    (he : (r.apply (.register s hd p)).1 = .registered (.ok e)) :
    (r.apply (.register s hd p)).2.Used e.token (· = e) := by
  obtain ⟨rfl, hadd⟩ := newEntry_of_registered he
  rw [hadd]
  refine ⟨(id_add r _).symm, Nat.lt_of_lt_of_eq (Nat.lt_succ_self _) (nextSequence_add r _).symm,
    fun f hf ht => ?_⟩
  rcases stores_add hf with rfl | hf
  · rfl
  · have hbelow := (h f hf).2
    rw [Entry.sequence, ht] at hbelow
    exact absurd hbelow (lt_irrefl _)

/-- Nothing is stored under the identity of an entry that is gone, so the entry is not found. -/
theorem Used.not_contains (h : r.Used e.token fun _ => False) : r.contains e = false := by
  by_contra hnot
  obtain ⟨f, hf, ht⟩ := exists_stores_of_contains (Bool.not_eq_false _ ▸ hnot)
  exact h.stored f hf ht

/-- An entry that is the only one under its identity is stored exactly if it is found. -/
theorem Used.contains_iff (h : r.Used e.token (· = e)) {live : List (Entry β)}
    (hlive : r.Represents live) : r.contains e = true ↔ r.Stores e := by
  constructor
  · intro hc
    obtain ⟨f, hf, ht⟩ := exists_stores_of_contains hc
    exact h.stored f hf ht ▸ hf
  · intro he
    have hmem := hlive.stores_iff.1 he
    exact (hlive.contains_iff (hlive.knows_of_mem hmem)).2 hmem

/-- An entry that is the only one under its identity and is not found is gone. -/
theorem Used.gone (h : r.Used e.token (· = e)) {live : List (Entry β)} (hlive : r.Represents live)
    (hc : r.contains e = false) : r.Used e.token fun _ => False := by
  refine ⟨h.registry, h.below, fun f hf ht => ?_⟩
  have hfound := (h.contains_iff hlive).2 (h.stored f hf ht ▸ hf)
  rw [hc] at hfound
  cases hfound

theorem not_contains_clear (r : Registry β) (e : Entry β) : r.clear.contains e = false := by
  cases hp : e.selector.isPattern <;> simp [contains, clear, bucket, hp]

/-- An entry that is the only one under its identity is not found once it has been removed. -/
theorem Used.not_contains_unregister (h : r.Used e.token (· = e)) {live : List (Entry β)}
    (hlive : r.Represents live) : (r.unregister e).2.contains e = false := by
  have hknows : Represents.Knows live e := fun f hf ht => h.stored f (hlive.stores_iff.2 hf) ht
  have hrest : Represents.Knows (live.filter fun f => f.token != e.token) e := fun f hf ht =>
    hknows f (List.mem_of_mem_filter hf) ht
  by_contra hnot
  have hmem := ((hlive.unregister hknows).contains_iff hrest).1 (Bool.not_eq_false _ ▸ hnot)
  simpa using (List.mem_filter.1 hmem).2

/-- An entry of a plain name that is the only one under its identity is found exactly if it stands
under its own key. -/
theorem Used.contains_iff_entryAt? (h : r.Used e.token (· = e)) {live : List (Entry β)}
    (hlive : r.Represents live) (hp : e.selector.isPattern = false) :
    r.contains e = true ↔ r.entryAt? (.plain e.selector.name e.priority e.sequence) = some e := by
  rw [h.contains_iff hlive, hlive.stores_iff]
  constructor
  · intro he
    refine hlive.entryAt?_of_mem_bucket ?_
    rw [hlive.bucket, Entry.mem_ranked, List.mem_filter]
    exact ⟨he, by simp [Selector.isPlainName, hp]⟩
  · intro he
    exact hlive.stores_iff.1 (stores_of_mem_bucket (List.mem_of_find?_eq_some he))

end Registry

/-! ### Several registries -/

/-- Registries by their numbers. -/
abbrev Fleet (β : Type) := Nat → Registry β

/-- Changes in any order, each with the number of the registry that is changed. -/
abbrev Interleaving (β : Type) := List (Nat × Change β)

namespace Interleaving

/-- The changes of one registry, in order. -/
def of (id : Nat) (steps : Interleaving β) : List (Change β) :=
  steps.filterMap fun step => if step.1 = id then some step.2 else none

theorem of_append (id : Nat) (first second : Interleaving β) :
    (first ++ second).of id = first.of id ++ second.of id := List.filterMap_append

end Interleaving

namespace Fleet

/-- Registries without bindings. -/
def empty : Fleet β := Registry.empty

/-- Makes a change in one of the registries. -/
def apply (fleet : Fleet β) (step : Nat × Change β) : Fleet β :=
  Function.update fleet step.1 ((fleet step.1).apply step.2).2

/-- Makes changes one after the other. -/
def run (fleet : Fleet β) (steps : Interleaving β) : Fleet β := steps.foldl apply fleet

/-- A change is one of its own registry and leaves the others alone. -/
theorem apply_eq (fleet : Fleet β) (step : Nat × Change β) (id : Nat) :
    fleet.apply step id = ((fleet id).run (Interleaving.of id [step])).2 := by
  unfold apply Interleaving.of
  by_cases h : step.1 = id
  · subst h
    simp [Registry.run]
  · simp [Function.update_of_ne (Ne.symm h), Registry.run, h]

/-- An interleaved run is on each registry a run of its own changes. -/
theorem run_eq (fleet : Fleet β) (steps : Interleaving β) (id : Nat) :
    fleet.run steps id = ((fleet id).run (steps.of id)).2 := by
  induction steps generalizing fleet with
  | nil => rfl
  | cons step rest ih =>
    rw [← List.singleton_append, Interleaving.of_append, Registry.run_append, ← apply_eq]
    exact ih (fleet.apply step)

theorem run_append (fleet : Fleet β) (first second : Interleaving β) (id : Nat) :
    fleet.run (first ++ second) id = ((fleet.run first id).run (second.of id)).2 := by
  rw [run_eq, run_eq, Interleaving.of_append, Registry.run_append]

/-- In the course of the run the registry has made the entry and given it out. -/
def Issued (steps : Interleaving β) (id : Nat) (e : Entry β) : Prop :=
  ∃ before s h p after, steps = before ++ (id, .register s h p) :: after ∧
    ((empty.run before id).apply (.register s h p)).1 = .registered (.ok e)

/-- The registries hold the bindings of flat lists, each of its own. -/
theorem represents_run (steps : Interleaving β) (id : Nat) :
    ∃ live, (empty.run steps id).Represents live := by
  rw [run_eq]
  exact (Registry.represents_empty id).run_any _

theorem numbered_run (steps : Interleaving β) (id : Nat) :
    (empty.run steps id).Numbered ∧ (empty.run steps id).id = id := by
  rw [run_eq]
  exact ⟨(Registry.numbered_empty id).run _, Registry.id_run _ _⟩

/-- An entry that has been given out is the only one that its registry ever stores under its
identity. -/
theorem Issued.used {steps : Interleaving β} {id : Nat} {e : Entry β} (h : Issued steps id e) :
    (empty.run steps id).Used e.token (· = e) := by
  obtain ⟨before, s, hd, p, after, rfl, he⟩ := h
  rw [← List.singleton_append, run_append, Interleaving.of_append, Registry.run_append]
  have hone : Interleaving.of id [(id, .register s hd p)] = [Change.register s hd p] := by
    simp [Interleaving.of]
  rw [hone]
  exact ((numbered_run before id).1.used he).run _

/-- A registry does not find an entry of another one. -/
theorem Issued.not_contains {steps : Interleaving β} {id other : Nat} {e : Entry β}
    (h : Issued steps id e) (hother : other ≠ id) : (empty.run steps other).contains e = false := by
  by_contra hnot
  obtain ⟨f, hf, ht⟩ := Registry.exists_stores_of_contains (Bool.not_eq_false _ ▸ hnot)
  have hregistry := ((numbered_run steps other).1 f hf).1
  rw [ht, h.used.registry, (numbered_run steps id).2, (numbered_run steps other).2] at hregistry
  exact hother hregistry.symm

/-- An entry that its registry does not find any more is never found there again. -/
theorem Issued.stays_lost {steps : Interleaving β} {id : Nat} {e : Entry β} (h : Issued steps id e)
    (hlost : (empty.run steps id).contains e = false) (later : Interleaving β) :
    (empty.run (steps ++ later) id).contains e = false := by
  obtain ⟨live, hlive⟩ := represents_run steps id
  rw [run_append]
  exact ((h.used.gone hlive hlost).run _).not_contains

theorem Issued.append {steps : Interleaving β} {id : Nat} {e : Entry β} (h : Issued steps id e)
    (later : Interleaving β) : Issued (steps ++ later) id e := by
  obtain ⟨before, s, hd, p, after, rfl, he⟩ := h
  refine ⟨before, s, hd, p, after ++ later, ?_, he⟩
  rw [List.append_assoc, List.cons_append]

/-- Removing an entry from its registry, or clearing that one, loses the entry. -/
theorem Issued.lost {steps : Interleaving β} {id : Nat} {e : Entry β} (h : Issued steps id e)
    {removal : Change β} (hremoval : removal = .unregister e ∨ removal = .clear) :
    (empty.run (steps ++ [(id, removal)]) id).contains e = false := by
  obtain ⟨live, hlive⟩ := represents_run steps id
  have hrun : empty.run (steps ++ [(id, removal)]) id = ((empty.run steps id).apply removal).2 := by
    rw [run_append]
    simp [Interleaving.of, Registry.run]
  rw [hrun]
  rcases hremoval with rfl | rfl
  · exact h.used.not_contains_unregister hlive
  · exact Registry.not_contains_clear _ e

end Fleet

/-- Registries are changed in any order, and one of them has given out an entry. No other registry
finds that entry, and being asked to remove it changes none of them. Its own registry finds it, if
it is one of a plain name, by its key and its identity. Once it has been removed there, or the
registry has been cleared, or it is not found for any other reason, it is never found or removed
again, whatever is done later. -/
theorem issued_identity (steps : Interleaving β) {id : Nat} {e : Entry β}
    (h : Fleet.Issued steps id e) :
    let now := Fleet.empty.run steps
    (∀ other, other ≠ id →
      (now other).contains e = false ∧ (now other).unregister e = (false, now other)) ∧
    (e.selector.isPattern = false → ((now id).contains e = true ↔
      (now id).entryAt? (.plain e.selector.name e.priority e.sequence) = some e)) ∧
    (∀ removal, removal = .unregister e ∨ removal = .clear → ∀ later,
      let r := Fleet.empty.run (steps ++ (id, removal) :: later) id
      r.contains e = false ∧ r.unregister e = (false, r)) ∧
    ((now id).contains e = false → ∀ later,
      let r := Fleet.empty.run (steps ++ later) id
      r.contains e = false ∧ r.unregister e = (false, r)) := by
  intro now
  refine ⟨fun other hother => ?_, fun hp => ?_, fun removal hremoval later => ?_,
    fun hlost later => ?_⟩
  · have hc := h.not_contains hother
    exact ⟨hc, Registry.unregister_of_not_contains hc⟩
  · obtain ⟨live, hlive⟩ := Fleet.represents_run steps id
    exact h.used.contains_iff_entryAt? hlive hp
  · have hc := (h.append [(id, removal)]).stays_lost (h.lost hremoval) later
    rw [List.append_assoc, List.singleton_append] at hc
    exact ⟨hc, Registry.unregister_of_not_contains hc⟩
  · have hc := h.stays_lost hlost later
    exact ⟨hc, Registry.unregister_of_not_contains hc⟩

/-- Two registries bind the same handler to the same name at the same priority. -/
def twinSteps : Interleaving Unit :=
  let plain : Selector := ⟨.exact, "offer", Selector.isName_offer⟩
  [(0, .register plain (.ofBody "audit" ()) 3), (1, .register plain (.ofBody "audit" ()) 3)]

/-- The entry that the first registry has given out. -/
def twinEntry : Entry Unit :=
  ⟨⟨0, 0⟩, ⟨.exact, "offer", Selector.isName_offer⟩, 3, .ofBody "audit" ()⟩

theorem issued_identity_twin :
    Fleet.Issued twinSteps 0 twinEntry ∧
      (Fleet.empty.run twinSteps 1).entryAt? (.plain "offer" 3 0) =
        some { twinEntry with token := ⟨1, 0⟩ } ∧
      (Fleet.empty.run twinSteps 0).contains twinEntry = true ∧
      (Fleet.empty.run twinSteps 1).contains twinEntry = false ∧
      (Fleet.empty.run (twinSteps ++ [(0, .clear),
        (0, .register twinEntry.selector twinEntry.handler 3)]) 0).contains twinEntry = false := by
  have h : Fleet.Issued twinSteps 0 twinEntry := ⟨[], _, _, _, _, rfl, rfl⟩
  obtain ⟨hothers, hkey, hremoved, -⟩ := issued_identity twinSteps h
  refine ⟨h, rfl, (hkey rfl).2 rfl, (hothers 1 (by decide)).1, ?_⟩
  exact (hremoved .clear (Or.inr rfl) [(0, .register twinEntry.selector twinEntry.handler 3)]).1

end Switchboard
