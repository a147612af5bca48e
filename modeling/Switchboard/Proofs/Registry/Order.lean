import Mathlib.Data.List.Sort
import Switchboard.Registry.Merge

/-!
# Entries in order

`Entry.before` is a strict order on entries, total as soon as no two of them have the same number.
A list is `Entry.Ordered` if each entry comes before those behind it, and `Entry.Ascending` if the
numbers of the registrations grow along it.

* `Entry.ranked`: the entries by priority alone, those of one priority left as they stand;
* `Entry.ordered_ranked`: for entries in order of registration this is the order of entries;
* `Entry.eq_ranked`: a list in order is determined by its members, so that sorting, inserting,
  leaving out and merging can all be computed on lists that are not sorted;
* `Merge.toList_perm`, `Merge.ordered_toList`: a merge keeps every entry and the order.
-/

namespace Switchboard

variable {β : Type}

namespace Entry

theorem before_iff {a b : Entry β} :
    a.before b = true ↔
      b.priority < a.priority ∨ a.priority = b.priority ∧ a.sequence < b.sequence := by
  simp [before]

theorem before_trans {a b c : Entry β} (hab : a.before b = true) (hbc : b.before c = true) :
    a.before c = true := by
  rw [before_iff] at *
  omega

theorem before_asymm {a b : Entry β} (hab : a.before b = true) : ¬ b.before a = true := by
  rw [before_iff] at *
  omega

theorem before_irrefl (a : Entry β) : ¬ a.before a = true := fun h => before_asymm h h

/-- Of two entries with different keys one comes before the other. -/
theorem before_or_before {a b : Entry β}
    (h : a.priority = b.priority → a.sequence ≠ b.sequence) :
    a.before b = true ∨ b.before a = true := by
  rw [before_iff, before_iff]
  omega

/-- Each entry comes before all those behind it. -/
def Ordered (l : List (Entry β)) : Prop := l.Pairwise fun a b => a.before b = true

/-- The entries stand in the order of their registration. -/
def Ascending (l : List (Entry β)) : Prop := l.Pairwise fun a b => a.sequence < b.sequence

/-- Whether an entry has at least the priority of another one. -/
def atLeast (a b : Entry β) : Bool := b.priority ≤ a.priority

theorem atLeast_iff {a b : Entry β} : a.atLeast b = true ↔ b.priority ≤ a.priority := by
  simp [atLeast]

theorem atLeast_trans (a b c : Entry β) (hab : a.atLeast b = true) (hbc : b.atLeast c = true) :
    a.atLeast c = true := by
  rw [atLeast_iff] at *
  omega

theorem atLeast_total (a b : Entry β) : (a.atLeast b || b.atLeast a) = true := by
  rw [Bool.or_eq_true, atLeast_iff, atLeast_iff]
  omega

/-- The entries by priority, the highest first. Entries of one priority stay as they stand. -/
def ranked (l : List (Entry β)) : List (Entry β) := l.mergeSort atLeast

theorem Ordered.nodup {l : List (Entry β)} (h : Ordered l) : l.Nodup := by
  refine List.Pairwise.imp (fun {a b} hab => ?_) h
  rintro rfl
  exact before_irrefl a hab

/-- A list in order is determined by its members. -/
theorem Ordered.eq_of_perm {l m : List (Entry β)} (hl : Ordered l) (hm : Ordered m)
    (h : l.Perm m) : l = m :=
  h.eq_of_pairwise (fun _ _ _ _ hab hba => absurd hba (before_asymm hab)) hl hm

theorem Ascending.nodup {l : List (Entry β)} (h : Ascending l) : l.Nodup := by
  refine List.Pairwise.imp (fun {a b} hab => ?_) h
  rintro rfl
  exact Nat.lt_irrefl a.sequence hab

theorem Ascending.filter {l : List (Entry β)} (h : Ascending l) (p : Entry β → Bool) :
    Ascending (l.filter p) := List.Pairwise.filter p h

/-- In a list in order of registration an entry is determined by its number. -/
theorem Ascending.eq_of_sequence {l : List (Entry β)} (h : Ascending l) {a b : Entry β}
    (ha : a ∈ l) (hb : b ∈ l) (hs : a.sequence = b.sequence) : a = b := by
  have hnodup : (l.map sequence).Nodup := List.pairwise_map.2 (h.imp fun hab => Nat.ne_of_lt hab)
  exact List.inj_on_of_nodup_map hnodup ha hb hs

/-- In a list in order of registration the entry with the lesser number stands in front. -/
theorem Ascending.pair_sublist {l : List (Entry β)} (h : Ascending l) {a b : Entry β}
    (ha : a ∈ l) (hb : b ∈ l) (hab : a.sequence < b.sequence) : [a, b].Sublist l := by
  induction l with
  | nil => cases ha
  | cons c l ih =>
    obtain ⟨hc, hl⟩ := List.pairwise_cons.1 h
    rcases List.mem_cons.1 ha with rfl | ha'
    · rcases List.mem_cons.1 hb with rfl | hb'
      · exact absurd hab (Nat.lt_irrefl _)
      · exact (List.singleton_sublist.2 hb').cons_cons a
    · rcases List.mem_cons.1 hb with rfl | hb'
      · exact absurd hab (Nat.lt_asymm (hc a ha'))
      · exact (ih hl ha' hb').cons c

theorem ranked_perm (l : List (Entry β)) : (ranked l).Perm l := List.mergeSort_perm _ _

@[simp] theorem mem_ranked {e : Entry β} {l : List (Entry β)} : e ∈ ranked l ↔ e ∈ l :=
  (ranked_perm l).mem_iff

theorem atLeast_pairwise_ranked (l : List (Entry β)) :
    (ranked l).Pairwise fun a b => a.atLeast b = true :=
  List.pairwise_mergeSort atLeast_trans atLeast_total l

/-- Ranking entries that stand in the order of their registration puts them in order. -/
theorem ordered_ranked {l : List (Entry β)} (h : Ascending l) : Ordered (ranked l) := by
  induction l with
  | nil => simp [ranked, Ordered]
  | cons a l ih =>
    obtain ⟨ha, hl⟩ := List.pairwise_cons.1 h
    have hsorted := atLeast_pairwise_ranked (a :: l)
    obtain ⟨front, back, hcons, hrest, hfront⟩ :=
      List.mergeSort_cons atLeast_trans atLeast_total a l
    have hmem : ∀ e ∈ front ++ back, a.sequence < e.sequence := by
      intro e he
      rw [← hrest] at he
      exact ha e (List.mem_mergeSort.1 he)
    have hordered : Ordered (front ++ back) := hrest ▸ ih hl
    show Ordered (List.mergeSort (a :: l) atLeast)
    rw [ranked, hcons] at hsorted
    rw [hcons]
    obtain ⟨hf, hb, hfb⟩ := List.pairwise_append.1 hordered
    -- `a` has the least number: it comes behind higher priorities and in front of all others
    refine List.pairwise_append.2 ⟨hf, List.pairwise_cons.2 ⟨fun e he => ?_, hb⟩, ?_⟩
    · have hseq := hmem e (List.mem_append_right _ he)
      have hprio := (List.pairwise_cons.1 (List.pairwise_append.1 hsorted).2.1).1 e he
      rw [atLeast_iff] at hprio
      rw [before_iff]
      omega
    · intro e he f hf'
      rcases List.mem_cons.1 hf' with rfl | hf'
      · have hprio := hfront e he
        rw [Bool.not_eq_true', Bool.eq_false_iff, ne_eq, atLeast_iff] at hprio
        rw [before_iff]
        omega
      · exact hfb e he f hf'

/-- Whatever holds the same entries in order is their ranking. -/
theorem eq_ranked {l m : List (Entry β)} (hl : Ascending l) (hm : Ordered m) (h : m.Perm l) :
    m = ranked l :=
  hm.eq_of_perm (ordered_ranked hl) (h.trans (ranked_perm l).symm)

theorem filter_ranked {l : List (Entry β)} (h : Ascending l) (p : Entry β → Bool) :
    (ranked l).filter p = ranked (l.filter p) :=
  eq_ranked (h.filter p) (List.Pairwise.filter p (ordered_ranked h)) ((ranked_perm l).filter p)

theorem insertInOrder_perm (e : Entry β) (l : List (Entry β)) :
    (e.insertInOrder l).Perm (e :: l) := by
  induction l with
  | nil => exact List.Perm.refl _
  | cons f l ih =>
    unfold insertInOrder
    split
    · exact List.Perm.refl _
    · exact (ih.cons f).trans (List.Perm.swap e f l)

/-- Inserting keeps the order, if the entry is comparable with those that are there. -/
theorem ordered_insertInOrder {e : Entry β} {l : List (Entry β)} (hl : Ordered l)
    (he : ∀ f ∈ l, e.before f = true ∨ f.before e = true) : Ordered (e.insertInOrder l) := by
  induction l with
  | nil => simp [insertInOrder, Ordered]
  | cons f l ih =>
    obtain ⟨hf, hl'⟩ := List.pairwise_cons.1 hl
    unfold insertInOrder
    split
    next hef =>
      refine List.pairwise_cons.2 ⟨fun g hg => ?_, hl⟩
      rcases List.mem_cons.1 hg with rfl | hg
      · exact hef
      · exact before_trans hef (hf g hg)
    next hef =>
      have hfe : f.before e = true := (he f List.mem_cons_self).resolve_left hef
      refine List.pairwise_cons.2 ⟨fun g hg => ?_, ih hl' fun g hg => he g (List.mem_cons_of_mem f hg)⟩
      rcases List.mem_cons.1 ((insertInOrder_perm e l).mem_iff.1 hg) with rfl | hg
      · exact hfe
      · exact hf g hg

/-- A binding made later than all others takes its place among them. -/
theorem insertInOrder_ranked {e : Entry β} {l : List (Entry β)} (h : Ascending (l ++ [e])) :
    e.insertInOrder (ranked l) = ranked (l ++ [e]) := by
  obtain ⟨hl, -, hle⟩ := List.pairwise_append.1 h
  refine eq_ranked h (ordered_insertInOrder (ordered_ranked hl) fun f hf => ?_) ?_
  · have := hle f (mem_ranked.1 hf) e (List.mem_singleton.2 rfl)
    exact before_or_before fun _ => by omega
  · calc
      (e.insertInOrder (ranked l)).Perm (e :: ranked l) := insertInOrder_perm e _
      _ |>.Perm (e :: l) := (ranked_perm l).cons e
      _ |>.Perm (l ++ [e]) := (List.perm_append_singleton e l).symm

theorem sort_perm (l : List (Entry β)) : (sort l).Perm l := by
  induction l with
  | nil => exact List.Perm.refl _
  | cons e l ih => exact (insertInOrder_perm e (sort l)).trans (ih.cons e)

/-- Sorting entries with different numbers puts them in order. -/
theorem ordered_sort {l : List (Entry β)} (h : Ascending l) : Ordered (sort l) := by
  induction l with
  | nil => exact List.Pairwise.nil
  | cons e l ih =>
    obtain ⟨he, hl⟩ := List.pairwise_cons.1 h
    refine ordered_insertInOrder (ih hl) fun f hf => before_or_before fun _ => ?_
    exact Nat.ne_of_lt (he f ((sort_perm l).mem_iff.1 hf))

theorem sort_eq_ranked {l : List (Entry β)} (h : Ascending l) : sort l = ranked l :=
  eq_ranked h (ordered_sort h) (sort_perm l)

end Entry

namespace Merge

/-- The head that is taken leaves the rest behind, and nothing else is lost. -/
theorem next?_perm {m n : Merge β} {e : Entry β} (h : m.next? = some (e, n)) :
    (e :: (n.left ++ n.right)).Perm (m.left ++ m.right) := by
  unfold next? at h
  split at h
  · cases h
  · cases h; exact List.Perm.refl _
  · cases h; exact List.Perm.refl _
  · split at h <;> cases h
    · exact List.perm_middle.symm
    · exact List.Perm.refl _

/-- Nothing is left only if both lists have been used up. -/
theorem next?_eq_none_iff {m : Merge β} : m.next? = none ↔ m.left = [] ∧ m.right = [] := by
  obtain ⟨left, right⟩ := m
  cases left <;> cases right <;> simp [next?]
  split <;> simp

/-- A merge keeps every entry. -/
theorem toList_perm (m : Merge β) : m.toList.Perm (m.left ++ m.right) := by
  fun_induction toList m with
  | case1 m h =>
    obtain ⟨hl, hr⟩ := next?_eq_none_iff.1 h
    simp [hl, hr]
  | case2 m e n h ih => exact (ih.cons e).trans (next?_perm h)

/-- Both lists are in order, and no entry of one has the key of an entry of the other. -/
structure Mergeable (m : Merge β) : Prop where
  left : Entry.Ordered m.left
  right : Entry.Ordered m.right
  apart : ∀ a ∈ m.left, ∀ b ∈ m.right, a.before b = true ∨ b.before a = true

/-- The head that is taken comes before everything that is left, which can be merged on. -/
theorem Mergeable.next {m n : Merge β} {e : Entry β} (hm : m.Mergeable)
    (h : m.next? = some (e, n)) :
    n.Mergeable ∧ ∀ f ∈ n.left ++ n.right, e.before f = true := by
  obtain ⟨left, right⟩ := m
  obtain ⟨hl, hr, hapart⟩ := hm
  cases left with
  | nil =>
    cases right with
    | nil => cases h
    | cons r right =>
      cases h
      obtain ⟨hr, hr'⟩ := List.pairwise_cons.1 hr
      exact ⟨⟨hl, hr', by simp⟩, by simpa using hr⟩
  | cons l left =>
    obtain ⟨hl', hl''⟩ := List.pairwise_cons.1 hl
    cases right with
    | nil =>
      cases h
      exact ⟨⟨hl'', hr, by simp⟩, by simpa using hl'⟩
    | cons r right =>
      obtain ⟨hr', hr''⟩ := List.pairwise_cons.1 hr
      have hlr := hapart l List.mem_cons_self r List.mem_cons_self
      simp only [next?] at h
      split at h
      next hrl =>
        cases h
        refine ⟨⟨hl, hr'', fun a ha b hb => hapart a ha b (List.mem_cons_of_mem _ hb)⟩, ?_⟩
        intro f hf
        rcases List.mem_append.1 hf with hf | hf
        · rcases List.mem_cons.1 hf with rfl | hf
          · exact hrl
          · exact Entry.before_trans hrl (hl' f hf)
        · exact hr' f hf
      next hrl =>
        have hlr : l.before r = true := hlr.resolve_right hrl
        cases h
        refine ⟨⟨hl'', hr, fun a ha b hb => hapart a (List.mem_cons_of_mem _ ha) b hb⟩, ?_⟩
        intro f hf
        rcases List.mem_append.1 hf with hf | hf
        · exact hl' f hf
        · rcases List.mem_cons.1 hf with rfl | hf
          · exact hlr
          · exact Entry.before_trans hlr (hr' f hf)

/-- A merge keeps the order. -/
theorem ordered_toList {m : Merge β} (hm : m.Mergeable) : Entry.Ordered m.toList := by
  fun_induction toList m with
  | case1 m h => exact List.Pairwise.nil
  | case2 m e n h ih =>
    obtain ⟨hn, he⟩ := hm.next h
    exact List.pairwise_cons.2 ⟨fun f hf => he f ((toList_perm n).mem_iff.1 hf), ih hn⟩

/-- Merging two rankings is ranking the entries of both. -/
theorem toList_ranked {l r all : List (Entry β)} (hall : Entry.Ascending all)
    (hperm : (l ++ r).Perm all) (hl : Entry.Ascending l) (hr : Entry.Ascending r) :
    (Merge.mk (Entry.ranked l) (Entry.ranked r)).toList = Entry.ranked all := by
  have hdisjoint := List.nodup_append.1 (hperm.nodup_iff.2 hall.nodup)
  have hmerge : (Merge.mk (Entry.ranked l) (Entry.ranked r)).Mergeable := by
    refine ⟨Entry.ordered_ranked hl, Entry.ordered_ranked hr, fun a ha b hb => ?_⟩
    refine Entry.before_or_before fun _ hseq => ?_
    have ha' := Entry.mem_ranked.1 ha
    have hb' := Entry.mem_ranked.1 hb
    have hab : a = b := hall.eq_of_sequence (hperm.mem_iff.1 (List.mem_append_left r ha'))
      (hperm.mem_iff.1 (List.mem_append_right l hb')) hseq
    exact hdisjoint.2.2 a ha' b hb' hab
  refine Entry.eq_ranked hall (ordered_toList hmerge) ?_
  calc
    (Merge.mk (Entry.ranked l) (Entry.ranked r)).toList.Perm (Entry.ranked l ++ Entry.ranked r) :=
      toList_perm _
    _ |>.Perm (l ++ r) := (Entry.ranked_perm l).append (Entry.ranked_perm r)
    _ |>.Perm all := hperm

end Merge

end Switchboard
