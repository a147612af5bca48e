import Switchboard.Proofs.Registry.Roster

/-!
# The numbers of stored entries

An entry is stored if it stands in the list of some plain name or among the patterns. A change may
bring the entry that it makes and nothing else, so whatever a registry stores it has numbered
itself: `Registry.Numbered` holds after every run, also after one that removes entries which nobody
was given.
-/

namespace Switchboard

variable {β : Type}

namespace Registry

/-- The entry stands in one of the two stores. -/
def Stores (r : Registry β) (e : Entry β) : Prop :=
  (∃ named ∈ r.exact, e ∈ named.2) ∨ ∃ p ∈ r.patterns, p.entry = e

/-- The registry has numbered all that it stores. -/
def Numbered (r : Registry β) : Prop :=
  ∀ e, r.Stores e → e.token.registry = r.id ∧ e.sequence < r.nextSequence

variable {r : Registry β} {e f : Entry β}

theorem stores_of_mem_bucket {name : String} (h : f ∈ r.bucket name) : r.Stores f := by
  obtain ⟨named, hn, -, hf⟩ := exists_mem_exact_of_mem_bucket h
  exact Or.inl ⟨named, hn, hf⟩

/-- What is found for an event is stored. -/
theorem stores_of_mem_resolve {event : String} (h : f ∈ r.resolve event) : r.Stores f := by
  unfold resolve acceptedPatterns at h
  rw [(Merge.toList_perm _).mem_iff, List.mem_append, (Entry.sort_perm _).mem_iff, List.mem_map] at h
  rcases h with h | ⟨p, hp, rfl⟩
  · exact stores_of_mem_bucket h
  · exact Or.inr ⟨p, List.mem_of_mem_filter hp, rfl⟩

theorem stores_add (h : (r.add e).Stores f) : f = e ∨ r.Stores f := by
  unfold Stores at h
  rw [exact_add, patterns_add] at h
  rcases h with ⟨named, hn, hf⟩ | ⟨p, hp, rfl⟩
  · split at hn
    next => exact Or.inr (Or.inl ⟨named, hn, hf⟩)
    next =>
      -- the list under the name of the entry is the only one that has changed
      rcases Table.eq_or_mem_of_mem_insert hn with rfl | hn
      · rcases List.mem_cons.1 ((Entry.insertInOrder_perm e _).mem_iff.1 hf) with rfl | hf
        · exact Or.inl rfl
        · exact Or.inr (stores_of_mem_bucket hf)
      · exact Or.inr (Or.inl ⟨named, hn, hf⟩)
  · rcases List.mem_append.1 hp with hp | hp
    · exact Or.inr (Or.inr ⟨p, hp, rfl⟩)
    · split at hp
      next => exact Or.inl (congrArg PatternEntry.entry (List.mem_singleton.1 hp))
      next => cases hp

theorem stores_setBucket {name : String} {entries : List (Entry β)}
    (hentries : ∀ g ∈ entries, r.Stores g) (h : (r.setBucket name entries).Stores f) :
    r.Stores f := by
  rcases h with ⟨named, hn, hf⟩ | h
  · unfold setBucket at hn
    split at hn
    next => exact Or.inl ⟨named, (Table.mem_erase.1 hn).1, hf⟩
    next =>
      rcases Table.eq_or_mem_of_mem_insert hn with rfl | hn
      · exact hentries f hf
      · exact Or.inl ⟨named, hn, hf⟩
  · exact Or.inr h

theorem stores_unregister (h : (r.unregister e).2.Stores f) : r.Stores f := by
  unfold unregister at h
  split at h
  · split at h
    · rcases h with h | ⟨p, hp, rfl⟩
      · exact Or.inl h
      · exact Or.inr ⟨p, List.mem_of_mem_filter hp, rfl⟩
    · exact stores_setBucket (fun g hg => stores_of_mem_bucket (List.mem_of_mem_filter hg)) h
  · exact h

theorem numbered_empty (id : Nat) : (empty id : Registry β).Numbered := by
  rintro e (⟨named, hn, -⟩ | ⟨p, hp, -⟩)
  · cases hn
  · cases hp

theorem Numbered.apply (h : r.Numbered) (c : Change β) : (r.apply c).2.Numbered := by
  cases c with
  | register s hd p =>
    rw [apply_register]
    split
    · intro f hf
      simp only [id_add, nextSequence_add]
      rcases stores_add hf with rfl | hf
      · exact ⟨rfl, Nat.lt_succ_self _⟩
      · exact (h f hf).imp_right Nat.lt_succ_of_lt
    · exact h
  | unregister e =>
    intro f hf
    have hstored := h f (stores_unregister hf)
    rwa [← id_unregister r e, ← nextSequence_unregister r e] at hstored
  | clear =>
    rintro f (⟨named, hn, -⟩ | ⟨p, hp, -⟩)
    · cases hn
    · cases hp

/-- After every run the registry has numbered all that it stores. -/
theorem Numbered.run (h : r.Numbered) (changes : List (Change β)) :
    (r.run changes).2.Numbered := by
  induction changes generalizing r with
  | nil => exact h
  | cons c rest ih => exact ih (h.apply c)

end Registry

end Switchboard
