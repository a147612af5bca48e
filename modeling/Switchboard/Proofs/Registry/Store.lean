import Switchboard.Proofs.Registry.Order
import Switchboard.Proofs.Selector.Matching
import Switchboard.Proofs.Table.Sorted
import Switchboard.Registry.Basic

/-!
# What a registry stores

A registry keeps its bindings in two places, the plain names in a table of lists in order and the
patterns in a list beside their matchers. `Registry.Represents` says that together they hold the
bindings of one flat list, which stands in the order of registration.

* `Represents.add`, `Represents.unregister`, `represents_clear`: what becomes of the flat list;
* `Represents.contains_iff`, `Represents.resolve_eq`, `Represents.exactCount_eq`: what is read off
  a registry, in terms of the flat list.
-/

namespace Switchboard

variable {β : Type}

namespace Selector

/-- Whether an event is one of those that the selector stands for: the event of its own name, or
one whose name fits the pattern. -/
def accepts (s : Selector) (event : String) : Bool :=
  if s.isPattern then (Matcher.mk s.operator s.name).accepts event else event == s.name

/-- Whether the selector is a plain name, and this one. -/
def isPlainName (s : Selector) (name : String) : Bool := !s.isPattern && name == s.name

theorem accepts_of_isPattern {s : Selector} (h : s.isPattern = true) (event : String) :
    s.accepts event = (Matcher.mk s.operator s.name).accepts event := by
  simp [accepts, h]

theorem accepts_of_not_isPattern {s : Selector} (h : s.isPattern = false) (event : String) :
    s.accepts event = (event == s.name) := by
  simp [accepts, h]

end Selector

/-- The entry of a pattern with the matcher of its selector. -/
def PatternEntry.ofEntry (e : Entry β) : PatternEntry β := ⟨e, ⟨e.selector.operator, e.selector.name⟩⟩

namespace Registry

/-! ### The operations -/

/-- The entry that the next registration makes. -/
def newEntry (r : Registry β) (s : Selector) (h : Handler β) (p : Int) : Entry β :=
  ⟨⟨r.id, r.nextSequence⟩, s, p, h⟩

/-- The registry with one more entry. -/
def add (r : Registry β) (e : Entry β) : Registry β :=
  let counted := { r with nextSequence := r.nextSequence + 1 }
  if e.selector.isPattern then counted.storePattern e ⟨e.selector.operator, e.selector.name⟩
  else counted.storeExact e

/-- Every selector can be compiled. -/
theorem compile_eq (s : Selector) :
    compile s = .ok (if s.isPattern then some ⟨s.operator, s.name⟩ else none) := by
  unfold compile
  split
  next hs => rw [Matcher.ofSelector_of_isPattern hs]; rfl
  next => rfl

/-- A registration is refused for a handler that cannot be invoked, and for nothing else. Then it
leaves the registry as it is, with the number that it would have given away. -/
theorem register_eq (r : Registry β) (s : Selector) (h : Handler β) (p : Int) :
    r.register s h p =
      if h.invocable then (.ok (r.newEntry s h p), r.add (r.newEntry s h p))
      else (.error (.invalidCallback (.notInvocable h.name s.text)), r) := by
  unfold register
  rw [compile_eq]
  split
  · cases hs : s.isPattern with
    | true => simp [newEntry, add, hs]
    | false => simp [newEntry, add, hs]
  · rfl

@[simp] theorem id_add (r : Registry β) (e : Entry β) : (r.add e).id = r.id := by
  unfold add; split <;> rfl

@[simp] theorem nextSequence_add (r : Registry β) (e : Entry β) :
    (r.add e).nextSequence = r.nextSequence + 1 := by
  unfold add; split <;> rfl

theorem bucket_storeExact (r : Registry β) (e : Entry β) (name : String) :
    (r.storeExact e).bucket name =
      if name = e.selector.name then e.insertInOrder (r.bucket name) else r.bucket name := by
  simp only [bucket, storeExact, Table.get?_insert]
  split
  next h => simp [h]
  next => rfl

theorem exact_add (r : Registry β) (e : Entry β) :
    (r.add e).exact = if e.selector.isPattern then r.exact else (r.storeExact e).exact := by
  unfold add; split <;> rfl

theorem patterns_add (r : Registry β) (e : Entry β) :
    (r.add e).patterns =
      r.patterns ++ if e.selector.isPattern then [PatternEntry.ofEntry e] else [] := by
  unfold add
  split
  · rfl
  · exact (List.append_nil _).symm

theorem bucket_add (r : Registry β) (e : Entry β) (name : String) :
    (r.add e).bucket name =
      if e.selector.isPlainName name then e.insertInOrder (r.bucket name) else r.bucket name := by
  have h : (r.add e).bucket name =
      if e.selector.isPattern then r.bucket name else (r.storeExact e).bucket name := by
    unfold Registry.bucket
    rw [exact_add]
    split <;> rfl
  rw [h, bucket_storeExact]
  cases hp : e.selector.isPattern <;> simp [Selector.isPlainName, hp]

theorem exists_mem_exact_of_mem_bucket {r : Registry β} {name : String} {e : Entry β}
    (h : e ∈ r.bucket name) : ∃ named ∈ r.exact, named.1 = name ∧ e ∈ named.2 := by
  unfold bucket at h
  cases hget : Table.get? name r.exact with
  | none => simp [hget] at h
  | some entries =>
    rw [hget] at h
    exact ⟨_, Table.mem_of_get? hget, rfl, h⟩

/-- A name without entries is read as one that is not there. -/
theorem bucket_setBucket (r : Registry β) (name other : String) (entries : List (Entry β)) :
    (r.setBucket name entries).bucket other = if other = name then entries else r.bucket other := by
  simp only [bucket, setBucket]
  split
  next h =>
    rw [Table.get?_erase, List.isEmpty_iff.1 h]
    split <;> rfl
  next =>
    rw [Table.get?_insert]
    split <;> rfl

@[simp] theorem id_unregister (r : Registry β) (e : Entry β) : (r.unregister e).2.id = r.id := by
  unfold unregister
  split
  · split <;> rfl
  · rfl

@[simp] theorem nextSequence_unregister (r : Registry β) (e : Entry β) :
    (r.unregister e).2.nextSequence = r.nextSequence := by
  unfold unregister
  split
  · split <;> rfl
  · rfl

/-! ### The flat list -/

/-- The registry holds the bindings of a list in order of registration: those of each plain name
ranked under that name, those of patterns in a list as they stand. -/
structure Represents (r : Registry β) (live : List (Entry β)) : Prop where
  sorted : r.exact.Sorted
  nonempty : ∀ named ∈ r.exact, named.2 ≠ []
  bucket : ∀ name,
    r.bucket name = Entry.ranked (live.filter fun e => e.selector.isPlainName name)
  patterns :
    r.patterns = (live.filter fun e => e.selector.isPattern).map PatternEntry.ofEntry
  ascending : Entry.Ascending live
  numbered : ∀ e ∈ live, e.token.registry = r.id ∧ e.sequence < r.nextSequence

theorem represents_empty (id : Nat) : (empty id : Registry β).Represents [] where
  sorted := Table.sorted_nil
  nonempty := by simp [empty]
  bucket name := by simp [empty, Registry.bucket, Entry.ranked]
  patterns := rfl
  ascending := List.Pairwise.nil
  numbered := by simp

theorem represents_clear (r : Registry β) : r.clear.Represents [] where
  sorted := Table.sorted_nil
  nonempty := by simp [clear]
  bucket name := by simp [clear, Registry.bucket, Entry.ranked]
  patterns := rfl
  ascending := List.Pairwise.nil
  numbered := by simp

namespace Represents

variable {r : Registry β} {live : List (Entry β)}

/-- A new entry has a greater number than all the others. -/
theorem ascending_append (h : r.Represents live) {e : Entry β} (he : e.sequence = r.nextSequence) :
    Entry.Ascending (live ++ [e]) := by
  refine List.pairwise_append.2 ⟨h.ascending, List.pairwise_singleton _ _, fun f hf g hg => ?_⟩
  rw [List.mem_singleton.1 hg, he]
  exact (h.numbered f hf).2

theorem numbered_append (h : r.Represents live) {e : Entry β} (hid : e.token.registry = r.id)
    (he : e.sequence = r.nextSequence) :
    ∀ f ∈ live ++ [e], f.token.registry = (r.add e).id ∧ f.sequence < (r.add e).nextSequence := by
  intro f hf
  rw [id_add, nextSequence_add]
  rcases List.mem_append.1 hf with hf | hf
  · have := h.numbered f hf
    omega
  · rw [List.mem_singleton.1 hf]
    omega

/-- A new entry is one more binding at the end of the flat list. -/
theorem add (h : r.Represents live) {e : Entry β} (hid : e.token.registry = r.id)
    (he : e.sequence = r.nextSequence) : (r.add e).Represents (live ++ [e]) := by
  have hasc := h.ascending_append he
  have hnum := h.numbered_append hid he
  refine ⟨?_, ?_, fun name => ?_, ?_, hasc, hnum⟩
  · rw [exact_add]
    split
    · exact h.sorted
    · exact Table.sorted_insert h.sorted _ _
  · intro named hn
    rw [exact_add] at hn
    split at hn
    · exact h.nonempty named hn
    · rcases Table.eq_or_mem_of_mem_insert hn with rfl | hn
      · exact List.ne_nil_of_mem ((Entry.insertInOrder_perm e _).mem_iff.2 List.mem_cons_self)
      · exact h.nonempty named hn
  · have hfilter := hasc.filter fun f => f.selector.isPlainName name
    rw [List.filter_append, List.filter_singleton] at hfilter ⊢
    rw [bucket_add, h.bucket]
    cases hname : e.selector.isPlainName name with
    | true =>
      rw [hname] at hfilter
      exact Entry.insertInOrder_ranked hfilter
    | false => simp
  · rw [patterns_add, h.patterns, List.filter_append, List.filter_singleton, List.map_append]
    cases e.selector.isPattern <;> rfl

/-- Whoever holds an entry of a binding that is live holds that binding. -/
def Knows (live : List (Entry β)) (e : Entry β) : Prop := ∀ f ∈ live, f.token = e.token → f = e

theorem mem_iff_token {e : Entry β} (he : Knows live e) :
    e ∈ live ↔ ∃ f ∈ live, f.token = e.token := by
  constructor
  · exact fun h => ⟨e, h, rfl⟩
  · rintro ⟨f, hf, ht⟩
    exact he f hf ht ▸ hf

/-- An entry is stored exactly if its binding is live. -/
theorem contains_iff (h : r.Represents live) {e : Entry β} (he : Knows live e) :
    r.contains e = true ↔ e ∈ live := by
  rw [mem_iff_token he]
  unfold Registry.contains
  cases hp : e.selector.isPattern with
  | true =>
    simp only [if_true, h.patterns, List.any_map, List.any_eq_true, List.mem_filter,
      Function.comp_apply, beq_iff_eq]
    constructor
    · rintro ⟨f, ⟨hf, -⟩, ht⟩
      exact ⟨f, hf, ht⟩
    · rintro ⟨f, hf, ht⟩
      exact ⟨f, ⟨hf, he f hf ht ▸ hp⟩, ht⟩
  | false =>
    simp only [Bool.false_eq_true, if_false, h.bucket, List.any_eq_true, Entry.mem_ranked,
      List.mem_filter, beq_iff_eq]
    constructor
    · rintro ⟨f, ⟨hf, -⟩, ht⟩
      exact ⟨f, hf, ht⟩
    · rintro ⟨f, hf, ht⟩
      refine ⟨f, ⟨hf, ?_⟩, ht⟩
      rw [he f hf ht]
      simp [Selector.isPlainName, hp]

/-- Removing a binding does not show where it would not have been kept. -/
theorem filter_removed {e : Entry β} (he : Knows live e) {p : Entry β → Bool} (hp : p e = false) :
    (live.filter fun f => f.token != e.token).filter p = live.filter p := by
  rw [List.filter_filter]
  refine List.filter_congr fun f hf => ?_
  by_cases ht : f.token = e.token
  · simp [he f hf ht, hp]
  · simp [ht]

theorem unregister_pattern (h : r.Represents live) {e : Entry β} (he : Knows live e)
    (hp : e.selector.isPattern = true) :
    { r with patterns := r.patterns.filter fun p => p.entry.token != e.token }.Represents
      (live.filter fun f => f.token != e.token) where
  sorted := h.sorted
  nonempty := h.nonempty
  bucket name := by
    rw [filter_removed he (by simp [Selector.isPlainName, hp])]
    exact h.bucket name
  patterns := by
    rw [h.patterns, List.filter_map, List.filter_comm]
    rfl
  ascending := h.ascending.filter _
  numbered f hf := h.numbered f (List.mem_of_mem_filter hf)

theorem unregister_plain (h : r.Represents live) {e : Entry β} (he : Knows live e)
    (hp : e.selector.isPattern = false) :
    (r.setBucket e.selector.name
      ((r.bucket e.selector.name).filter fun f => f.token != e.token)).Represents
      (live.filter fun f => f.token != e.token) where
  sorted := by
    unfold setBucket
    split
    · exact Table.sorted_erase h.sorted _
    · exact Table.sorted_insert h.sorted _ _
  nonempty := by
    intro named hn
    unfold setBucket at hn
    split at hn
    next => exact h.nonempty named (Table.mem_erase.1 hn).1
    next hne =>
      rcases Table.eq_or_mem_of_mem_insert hn with rfl | hn
      · simpa using hne
      · exact h.nonempty named hn
  bucket name := by
    rw [bucket_setBucket]
    split
    next hname =>
      rw [h.bucket, Entry.filter_ranked (h.ascending.filter _), List.filter_comm, hname]
    next hname =>
      rw [filter_removed he (by simp [Selector.isPlainName, hname])]
      exact h.bucket name
  patterns := by
    rw [filter_removed he hp]
    exact h.patterns
  ascending := h.ascending.filter _
  numbered f hf := h.numbered f (List.mem_of_mem_filter hf)

/-- Removing an entry takes its binding out of the flat list. -/
theorem unregister (h : r.Represents live) {e : Entry β} (he : Knows live e) :
    (r.unregister e).2.Represents (live.filter fun f => f.token != e.token) := by
  unfold Registry.unregister
  split
  next hc =>
    cases hp : e.selector.isPattern with
    | true => exact h.unregister_pattern he hp
    | false => exact h.unregister_plain he hp
  next hc =>
    -- no live binding has the token, so there is nothing to leave out
    have hfilter : (live.filter fun f => f.token != e.token) = live := by
      refine List.filter_eq_self.2 fun f hf => ?_
      simp only [bne_iff_ne, ne_eq]
      exact fun ht => hc ((h.contains_iff he).2 ((mem_iff_token he).2 ⟨f, hf, ht⟩))
    rw [hfilter]
    exact h

/-- The flag tells whether the binding was live. -/
theorem unregister_flag (h : r.Represents live) {e : Entry β} (he : Knows live e) :
    (r.unregister e).1 = true ↔ e ∈ live := by
  rw [← h.contains_iff he]
  unfold Registry.unregister
  split
  next hc => cases hp : e.selector.isPattern <;> simp [hc]
  next hc => simp [hc]

/-- The patterns that a registry finds for an event are the live ones that accept it, ranked. -/
theorem acceptedPatterns_eq (h : r.Represents live) (event : String) :
    r.acceptedPatterns event = Entry.ranked
      ((live.filter fun e => e.selector.accepts event).filter fun e => e.selector.isPattern) := by
  have hfilter : (r.patterns.filter fun p => p.matcher.accepts event).map PatternEntry.entry =
      (live.filter fun e => e.selector.accepts event).filter fun e => e.selector.isPattern := by
    rw [h.patterns, List.filter_map, List.map_map, List.filter_comm, List.filter_filter,
      List.filter_filter]
    have hmap (l : List (Entry β)) :
        l.map (PatternEntry.entry ∘ PatternEntry.ofEntry) = l := List.map_id l
    rw [hmap]
    refine List.filter_congr fun e _ => ?_
    cases hp : e.selector.isPattern with
    | true => simp [Selector.accepts_of_isPattern hp, PatternEntry.ofEntry]
    | false => simp
  unfold acceptedPatterns
  rw [hfilter, Entry.sort_eq_ranked ((h.ascending.filter _).filter _)]

/-- The entries under the name of an event are the live plain ones that accept it, ranked. -/
theorem bucket_eq_accepted (h : r.Represents live) (event : String) :
    r.bucket event = Entry.ranked
      ((live.filter fun e => e.selector.accepts event).filter fun e => !e.selector.isPattern) := by
  rw [h.bucket, List.filter_filter]
  congr 1
  refine List.filter_congr fun e _ => ?_
  cases hp : e.selector.isPattern with
  | true => simp [Selector.isPlainName, hp]
  | false => simp [Selector.isPlainName, hp, Selector.accepts_of_not_isPattern hp]

/-- What a registry finds for an event are the live bindings that accept it, ranked. -/
theorem resolve_eq (h : r.Represents live) (event : String) :
    r.resolve event = Entry.ranked (live.filter fun e => e.selector.accepts event) := by
  have hlive := h.ascending.filter fun e => e.selector.accepts event
  unfold resolve
  rw [h.acceptedPatterns_eq, h.bucket_eq_accepted]
  refine Merge.toList_ranked hlive ?_ (hlive.filter _) (hlive.filter _)
  exact List.perm_append_comm.trans (List.filter_append_perm _ _)

theorem patternCount_eq (h : r.Represents live) :
    r.patternCount = (live.filter fun e => e.selector.isPattern).length := by
  rw [patternCount, h.patterns, List.length_map]

theorem eq_ranked_of_mem_exact (h : r.Represents live) {named : String × List (Entry β)}
    (hn : named ∈ r.exact) :
    named.2 = Entry.ranked (live.filter fun e => e.selector.isPlainName named.1) := by
  rw [← h.bucket, Registry.bucket, h.sorted.get?_eq_some_iff.2 hn]
  rfl

/-- An entry in the list of a name is a live binding of that plain name. -/
theorem mem_of_mem_exact (h : r.Represents live) {named : String × List (Entry β)}
    (hn : named ∈ r.exact) {e : Entry β} (he : e ∈ named.2) :
    e ∈ live ∧ e.selector.isPattern = false ∧ named.1 = e.selector.name := by
  rw [h.eq_ranked_of_mem_exact hn, Entry.mem_ranked] at he
  simpa [Selector.isPlainName] using he

/-- The lists of the plain names together hold each live binding of a plain name once. -/
theorem flatMap_perm (h : r.Represents live) :
    (r.exact.flatMap Prod.snd).Perm (live.filter fun e => !e.selector.isPattern) := by
  have hnodup : (r.exact.flatMap Prod.snd).Nodup := by
    refine List.nodup_flatMap.2 ⟨fun named hn => ?_, ?_⟩
    · rw [h.eq_ranked_of_mem_exact hn]
      exact (Entry.ordered_ranked (h.ascending.filter _)).nodup
    · refine List.Pairwise.imp_of_mem (fun {a b} ha hb hab e he he' => ?_) h.sorted
      rw [(h.mem_of_mem_exact ha he).2.2, (h.mem_of_mem_exact hb he').2.2] at hab
      exact lt_irrefl _ hab
  refine (List.perm_ext_iff_of_nodup hnodup (h.ascending.filter _).nodup).2 fun e => ?_
  rw [List.mem_flatMap, List.mem_filter, Bool.not_eq_true']
  constructor
  · rintro ⟨named, hn, he⟩
    exact ⟨(h.mem_of_mem_exact hn he).1, (h.mem_of_mem_exact hn he).2.1⟩
  · rintro ⟨he, hp⟩
    have hbucket : e ∈ r.bucket e.selector.name := by
      rw [h.bucket, Entry.mem_ranked, List.mem_filter]
      exact ⟨he, by simp [Selector.isPlainName, hp]⟩
    obtain ⟨named, hn, -, hmem⟩ := exists_mem_exact_of_mem_bucket hbucket
    exact ⟨named, hn, hmem⟩

theorem exactCount_eq (h : r.Represents live) :
    r.exactCount = (live.filter fun e => !e.selector.isPattern).length := by
  show (r.exact.map fun named => named.2.length).sum = _
  rw [← List.length_flatMap, h.flatMap_perm.length_eq]

theorem count_eq (h : r.Represents live) : r.count = live.length := by
  rw [count, h.exactCount_eq, h.patternCount_eq, Nat.add_comm, ← List.length_append]
  exact (List.filter_append_perm _ live).length_eq

end Represents

end Registry

end Switchboard
