import Switchboard.Proofs.Registry.Numbers

/-!
# Where a registry keeps its entries

A `Registry.Place` is where an entry can stand: in the list of a plain name under a priority and a
number, or at a position among the patterns. `Registry.WellFormed` says how the entries of a
registry stand at their places.

* `Represents.wellFormed`: a registry that holds the bindings of a flat list is well formed;
* `Represents.unregister_any`: removing keeps a flat list, whatever entry is to be removed;
* `run_wellFormed`: every run from an empty registry leaves a well-formed one, in which each entry
  has exactly one place.

Other than in `run_refines_roster` nothing is asked of the entries that a run removes. One that was
made up, with the token of some binding and another selector, may remove that binding or not.
-/

namespace Switchboard

variable {β : Type}

theorem Selector.operator_eq_exact {s : Selector} (h : s.isPattern = false) :
    s.operator = .exact := by
  simpa [isPattern, Operator.isPattern] using h

/-- The text of a plain selector is its name. -/
theorem Selector.text_of_not_isPattern {s : Selector} (h : s.isPattern = false) :
    s.text = s.name := by
  simp [text, operator_eq_exact h, Operator.token]

namespace Registry

/-- Where a registry can keep an entry. -/
inductive Place where
  /-- In the list of a plain name, under the key made of a priority and a number. -/
  | plain (name : String) (priority : Int) (sequence : Nat)
  /-- At a position among the patterns. -/
  | pattern (index : Nat)
deriving DecidableEq

/-- The entry at a place. -/
def entryAt? (r : Registry β) : Place → Option (Entry β)
  | .plain name priority sequence =>
    (r.bucket name).find? fun e => e.priority == priority && e.sequence == sequence
  | .pattern index => r.patterns[index]?.map PatternEntry.entry

/-- All entries of both stores. -/
def entries (r : Registry β) : List (Entry β) :=
  r.exact.flatMap Prod.snd ++ r.patterns.map PatternEntry.entry

/-- How a registry keeps its entries. -/
structure WellFormed (r : Registry β) : Prop where
  /-- Every name has one list. -/
  names : r.exact.Sorted
  nonempty : ∀ named ∈ r.exact, named.2 ≠ []
  plain : ∀ named ∈ r.exact, ∀ e ∈ named.2,
    e.selector.isPattern = false ∧ e.selector.text = named.1
  /-- The keys grow along the list of a name. -/
  ordered : ∀ named ∈ r.exact, Entry.Ordered named.2
  keyed : ∀ named ∈ r.exact, ∀ e ∈ named.2,
    r.entryAt? (.plain named.1 e.priority e.sequence) = some e
  matchers : ∀ p ∈ r.patterns,
    p.entry.selector.isPattern = true ∧
      p.matcher = ⟨p.entry.selector.operator, p.entry.selector.name⟩
  ascending : r.patterns.Pairwise fun p q => p.entry.sequence < q.entry.sequence
  below : ∀ e ∈ r.entries, e.token.registry = r.id ∧ e.sequence < r.nextSequence
  /-- No two entries have the same number, in whichever store they are. -/
  distinct : (r.entries.map Entry.sequence).Nodup

theorem mem_entries {r : Registry β} {e : Entry β} : e ∈ r.entries ↔ r.Stores e := by
  simp [entries, Stores]

/-! ### The flat list once more -/

namespace Represents

variable {r : Registry β} {live : List (Entry β)} {e f : Entry β}

/-- A live binding is the only one with its token. -/
theorem knows_of_mem (h : r.Represents live) (he : e ∈ live) : Knows live e := by
  intro f hf ht
  exact h.ascending.eq_of_sequence hf he (congrArg Token.sequence ht)

/-- The two stores together hold each live binding once. -/
theorem entries_perm (h : r.Represents live) : r.entries.Perm live := by
  have hpatterns : r.patterns.map PatternEntry.entry =
      live.filter fun e => e.selector.isPattern := by
    rw [h.patterns, List.map_map]
    exact List.map_id _
  unfold entries
  rw [hpatterns]
  calc
    (r.exact.flatMap Prod.snd ++ live.filter fun e => e.selector.isPattern).Perm
        ((live.filter fun e => !e.selector.isPattern) ++
          live.filter fun e => e.selector.isPattern) := h.flatMap_perm.append_right _
    _ |>.Perm ((live.filter fun e => e.selector.isPattern) ++
          live.filter fun e => !e.selector.isPattern) := List.perm_append_comm
    _ |>.Perm live := List.filter_append_perm _ live

theorem stores_iff (h : r.Represents live) : r.Stores e ↔ e ∈ live := by
  rw [← mem_entries, h.entries_perm.mem_iff]

/-- An entry in the list of a name is found there under its own key. -/
theorem entryAt?_of_mem_bucket (h : r.Represents live) {name : String} (he : e ∈ r.bucket name) :
    r.entryAt? (.plain name e.priority e.sequence) = some e := by
  have hmem : ∀ g ∈ r.bucket name, g ∈ live := by
    intro g hg
    exact h.stores_iff.1 (stores_of_mem_bucket hg)
  show (r.bucket name).find? (fun g => g.priority == e.priority && g.sequence == e.sequence) = some e
  cases hfind : (r.bucket name).find? fun g =>
      g.priority == e.priority && g.sequence == e.sequence with
  | none =>
    have hnone := List.find?_eq_none.1 hfind e he
    simp at hnone
  | some g =>
    have hkey := List.find?_some hfind
    simp only [Bool.and_eq_true, beq_iff_eq] at hkey
    have hg := hmem g (List.mem_of_find?_eq_some hfind)
    rw [h.ascending.eq_of_sequence hg (hmem e he) hkey.2]

theorem wellFormed (h : r.Represents live) : r.WellFormed where
  names := h.sorted
  nonempty := h.nonempty
  plain named hn e he := by
    obtain ⟨-, hplain, hname⟩ := h.mem_of_mem_exact hn he
    rw [hname]
    exact ⟨hplain, Selector.text_of_not_isPattern hplain⟩
  ordered named hn := by
    rw [h.eq_ranked_of_mem_exact hn]
    exact Entry.ordered_ranked (h.ascending.filter _)
  keyed named hn e he := by
    refine h.entryAt?_of_mem_bucket ?_
    rw [h.bucket, ← h.eq_ranked_of_mem_exact hn]
    exact he
  matchers p hp := by
    rw [h.patterns] at hp
    obtain ⟨e, he, rfl⟩ := List.mem_map.1 hp
    exact ⟨(List.mem_filter.1 he).2, rfl⟩
  ascending := by
    rw [h.patterns]
    exact List.pairwise_map.2 (h.ascending.filter _)
  below e he := h.numbered e (h.entries_perm.mem_iff.1 he)
  distinct := by
    have hperm := h.entries_perm.map Entry.sequence
    rw [hperm.nodup_iff]
    exact List.pairwise_map.2 (h.ascending.imp fun hab => Nat.ne_of_lt hab)

/-! ### Removing whatever entry -/

/-- If an entry is found, some live binding has its token and is looked for in the same list. -/
theorem exists_of_contains (h : r.Represents live) (hc : r.contains e = true) :
    ∃ f ∈ live, f.token = e.token ∧ f.selector.isPattern = e.selector.isPattern ∧
      (e.selector.isPattern = false → f.selector.name = e.selector.name) := by
  unfold Registry.contains at hc
  cases hp : e.selector.isPattern with
  | true =>
    simp only [hp, if_true, h.patterns, List.any_map, List.any_eq_true, List.mem_filter,
      Function.comp_apply, beq_iff_eq] at hc
    obtain ⟨f, ⟨hf, hfp⟩, ht⟩ := hc
    exact ⟨f, hf, ht, hfp, by simp⟩
  | false =>
    simp only [hp, Bool.false_eq_true, if_false, h.bucket, List.any_eq_true, Entry.mem_ranked,
      List.mem_filter, beq_iff_eq] at hc
    obtain ⟨f, ⟨hf, hfp⟩, ht⟩ := hc
    simp only [Selector.isPlainName, Bool.and_eq_true, Bool.not_eq_true', beq_iff_eq] at hfp
    exact ⟨f, hf, ht, hfp.1, fun _ => hfp.2.symm⟩

/-- Removing looks at the token of an entry and at the list that it would stand in. -/
theorem unregister_congr (r : Registry β) (ht : f.token = e.token)
    (hp : f.selector.isPattern = e.selector.isPattern)
    (hn : e.selector.isPattern = false → f.selector.name = e.selector.name) :
    r.unregister f = r.unregister e := by
  unfold Registry.unregister Registry.contains
  rw [ht, hp]
  cases hpe : e.selector.isPattern with
  | true => simp
  | false => rw [hn hpe]

/-- Removing an entry, be it made up, leaves the bindings of a flat list. -/
theorem unregister_any (h : r.Represents live) (e : Entry β) :
    ∃ rest, (r.unregister e).2.Represents rest := by
  by_cases hc : r.contains e = true
  · obtain ⟨f, hf, ht, hp, hn⟩ := h.exists_of_contains hc
    rw [← unregister_congr r ht hp hn]
    exact ⟨_, h.unregister (h.knows_of_mem hf)⟩
  · refine ⟨live, ?_⟩
    unfold Registry.unregister
    rw [if_neg hc]
    exact h

/-- Every change leaves the bindings of a flat list. -/
theorem apply_any (h : r.Represents live) (c : Change β) :
    ∃ rest, (r.apply c).2.Represents rest := by
  cases c with
  | register s hd p =>
    rw [apply_register]
    split
    · exact ⟨_, h.add rfl rfl⟩
    · exact ⟨live, h⟩
  | unregister e => exact h.unregister_any e
  | clear => exact ⟨[], represents_clear r⟩

theorem run_any (h : r.Represents live) (changes : List (Change β)) :
    ∃ rest, (r.run changes).2.Represents rest := by
  induction changes generalizing r live with
  | nil => exact ⟨live, h⟩
  | cons c rest ih =>
    obtain ⟨left, hleft⟩ := h.apply_any c
    exact ih hleft

end Represents

/-! ### Places -/

namespace WellFormed

variable {r : Registry β} {e : Entry β}

theorem plain_of_mem_bucket (h : r.WellFormed) {name : String} (he : e ∈ r.bucket name) :
    e.selector.isPattern = false ∧ e.selector.name = name := by
  obtain ⟨named, hn, rfl, hmem⟩ := exists_mem_exact_of_mem_bucket he
  obtain ⟨hplain, htext⟩ := h.plain named hn e hmem
  rw [Selector.text_of_not_isPattern hplain] at htext
  exact ⟨hplain, htext⟩

/-- The place of an entry of a plain name is its own name and key. -/
theorem eq_of_entryAt?_plain (h : r.WellFormed) {name : String} {priority : Int} {sequence : Nat}
    (he : r.entryAt? (.plain name priority sequence) = some e) :
    e.selector.isPattern = false ∧ name = e.selector.name ∧ priority = e.priority ∧
      sequence = e.sequence := by
  obtain ⟨hplain, hname⟩ := h.plain_of_mem_bucket (List.mem_of_find?_eq_some he)
  have hkey := List.find?_some he
  simp only [Bool.and_eq_true, beq_iff_eq] at hkey
  exact ⟨hplain, hname.symm, hkey.1.symm, hkey.2.symm⟩

theorem isPattern_of_entryAt?_pattern (h : r.WellFormed) {index : Nat}
    (he : r.entryAt? (.pattern index) = some e) : e.selector.isPattern = true := by
  obtain ⟨p, hp, rfl⟩ := Option.map_eq_some_iff.1 he
  exact (h.matchers p (List.mem_of_getElem? hp)).1

/-- Two positions among the patterns do not hold one entry. -/
theorem index_unique (h : r.WellFormed) {i j : Nat} (hi : r.entryAt? (.pattern i) = some e)
    (hj : r.entryAt? (.pattern j) = some e) : i = j := by
  obtain ⟨p, hp, hpe⟩ := Option.map_eq_some_iff.1 hi
  obtain ⟨q, hq, hqe⟩ := Option.map_eq_some_iff.1 hj
  obtain ⟨hpi, rfl⟩ := List.getElem?_eq_some_iff.1 hp
  obtain ⟨hqj, rfl⟩ := List.getElem?_eq_some_iff.1 hq
  have hsequence : r.patterns[i].entry.sequence = r.patterns[j].entry.sequence := by
    rw [hpe, hqe]
  rcases Nat.lt_trichotomy i j with hlt | heq | hgt
  · have := List.pairwise_iff_getElem.1 h.ascending i j hpi hqj hlt
    omega
  · exact heq
  · have := List.pairwise_iff_getElem.1 h.ascending j i hqj hpi hgt
    omega

theorem place_unique (h : r.WellFormed) {p q : Place} (hp : r.entryAt? p = some e)
    (hq : r.entryAt? q = some e) : p = q := by
  cases p with
  | plain name priority sequence =>
    obtain ⟨hplain, rfl, rfl, rfl⟩ := h.eq_of_entryAt?_plain hp
    cases q with
    | plain name priority sequence =>
      obtain ⟨-, rfl, rfl, rfl⟩ := h.eq_of_entryAt?_plain hq
      rfl
    | pattern j =>
      rw [h.isPattern_of_entryAt?_pattern hq] at hplain
      cases hplain
  | pattern i =>
    have hpattern := h.isPattern_of_entryAt?_pattern hp
    cases q with
    | plain name priority sequence =>
      rw [(h.eq_of_entryAt?_plain hq).1] at hpattern
      cases hpattern
    | pattern j => rw [h.index_unique hp hq]

/-- An entry is stored exactly if some place holds it, and then no other place does. -/
theorem stores_iff_unique_place (h : r.WellFormed) :
    r.Stores e ↔ ∃! place, r.entryAt? place = some e := by
  constructor
  · rintro (⟨named, hn, he⟩ | ⟨p, hp, rfl⟩)
    · exact ⟨_, h.keyed named hn e he, fun q hq => h.place_unique hq (h.keyed named hn e he)⟩
    · obtain ⟨i, hi⟩ := List.mem_iff_getElem?.1 hp
      have hplace : r.entryAt? (.pattern i) = some p.entry := by
        simp [entryAt?, hi]
      exact ⟨_, hplace, fun q hq => h.place_unique hq hplace⟩
  · rintro ⟨place, hplace, -⟩
    cases place with
    | plain name priority sequence =>
      exact stores_of_mem_bucket (List.mem_of_find?_eq_some hplace)
    | pattern i =>
      obtain ⟨p, hp, hpe⟩ := Option.map_eq_some_iff.1 hplace
      exact Or.inr ⟨p, List.mem_of_getElem? hp, hpe⟩

end WellFormed

end Registry

/-! ### The next number -/

/-- Whether a change has made a new entry. -/
def Answer.isNew : Answer β → Bool
  | .registered (.ok _) => true
  | _ => false

/-- A change uses a number exactly if it makes an entry. -/
theorem Registry.nextSequence_apply (r : Registry β) (c : Change β) :
    (r.apply c).2.nextSequence = r.nextSequence + (r.apply c).1.isNew.toNat := by
  cases c with
  | register s h p =>
    rw [apply_register]
    split <;> simp [Answer.isNew]
  | unregister e => exact nextSequence_unregister r e
  | clear => rfl

/-- A run uses as many numbers as it makes entries. -/
theorem Registry.nextSequence_run (r : Registry β) (changes : List (Change β)) :
    (r.run changes).2.nextSequence = r.nextSequence + (r.run changes).1.countP Answer.isNew := by
  induction changes generalizing r with
  | nil => rfl
  | cons c rest ih =>
    show ((r.apply c).2.run rest).2.nextSequence = _ + List.countP _ (_ :: _)
    rw [ih, nextSequence_apply, List.countP_cons]
    cases (r.apply c).1.isNew with
    | true => simp; omega
    | false => simp

/-- Every run from an empty registry, with whatever removals, leaves a well-formed registry. Each
entry that is stored has exactly one place; if the run removes genuine entries only, these are the
live bindings. The next number is the number of entries that have been made, and no change lowers
it. -/
theorem run_wellFormed (id : Nat) (changes : List (Change β)) :
    let done := (Registry.empty id).run changes
    let r := done.2
    r.WellFormed ∧
      (∀ e, r.Stores e ↔ ∃! place, r.entryAt? place = some e) ∧
      ((Roster.empty id).Admits changes → ∀ e,
        e ∈ ((Roster.empty id).run changes).2.live ↔ ∃! place, r.entryAt? place = some e) ∧
      r.nextSequence = done.1.countP Answer.isNew ∧
      ∀ c, r.nextSequence ≤ (r.apply c).2.nextSequence := by
  intro done r
  obtain ⟨live, hlive⟩ := (Registry.represents_empty id).run_any changes
  have hplace : ∀ e, r.Stores e ↔ ∃! place, r.entryAt? place = some e := fun e =>
    hlive.wellFormed.stores_iff_unique_place
  refine ⟨hlive.wellFormed, hplace, ?_, ?_, Registry.nextSequence_le_apply r⟩
  · intro hadmits e
    rw [← hplace e, ((Roster.keeps_empty id).run hadmits).2.represents.stores_iff]
  · have hnext := Registry.nextSequence_run (Registry.empty id) changes
    rw [show (Registry.empty id : Registry β).nextSequence = 0 from rfl, Nat.zero_add] at hnext
    exact hnext

/-- A plain name and a pattern are bound and a handler is refused; the plain binding is removed;
after a clearing the name is bound anew. -/
def clearedChanges : List (Change Unit) :=
  let plain : Selector := ⟨.exact, "offer", Selector.isName_offer⟩
  let pattern : Selector := ⟨.endsWith, "fer", by decide⟩
  [.register plain (.ofBody "first" ()) 3, .register pattern (.ofBody "audit" ()) 5,
    .register plain ⟨"closed", false, ()⟩ 7,
    .unregister ⟨⟨0, 0⟩, plain, 3, .ofBody "first" ()⟩, .clear,
    .register plain (.ofBody "again" ()) (-3)]

theorem run_wellFormed_cleared :
    (Roster.empty 0).Admits clearedChanges ∧
      ((Registry.empty 0).run clearedChanges).2.nextSequence = 3 ∧
      ∃! place, ((Registry.empty 0).run clearedChanges).2.entryAt? place =
        some ⟨⟨0, 2⟩, ⟨.exact, "offer", by decide⟩, -3, .ofBody "again" ()⟩ := by
  have h : (Roster.empty 0).Admits clearedChanges := by
    simp [clearedChanges, Roster.Admits, Roster.apply, Roster.Genuine, Roster.empty, Handler.ofBody]
  obtain ⟨-, -, hlive, hnext, -⟩ := run_wellFormed 0 clearedChanges
  refine ⟨h, hnext.trans (by decide), (hlive h _).1 ?_⟩
  simp [clearedChanges, Roster.run, Roster.apply, Roster.empty, Handler.ofBody]

end Switchboard
