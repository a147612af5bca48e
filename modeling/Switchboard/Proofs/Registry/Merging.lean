import Mathlib.Data.Prod.Lex
import Switchboard.Proofs.Registry.Order
import Switchboard.Proofs.Selector.Grammar

/-!
# A merge call by call

A merge is asked for its entries one by one. Every call takes the head of one of the two lists, so
that there are as many entries as the lists have together; after that the calls give nothing.

* `Entry.key`: what entries are ordered by;
* `Merge.call`, `Merge.after`, `Merge.given`: what a call gives and leaves, and a number of calls;
* `Merge.next?_cases`: all that a call can do;
* `Merge.toList_after`, `Merge.given_eq`: the calls give the list of the merge, entry by entry;
* `merge_calls`: that list is the two lists in order.
-/

namespace Switchboard

variable {β : Type}

namespace Entry

/-- What entries are ordered by: the priority, the higher first, and then the number of the
registration. -/
def key (e : Entry β) : ℤᵒᵈ ×ₗ ℕ := toLex (OrderDual.toDual e.priority, e.sequence)

theorem key_lt_key_iff {a b : Entry β} : a.key < b.key ↔ a.before b = true := by
  rw [before_iff, key, key, Prod.Lex.toLex_lt_toLex, OrderDual.toDual_lt_toDual,
    OrderDual.toDual_inj]

theorem ordered_iff_keys {l : List (Entry β)} :
    Ordered l ↔ (l.map key).Pairwise (· < ·) := by
  rw [List.pairwise_map]
  simp only [key_lt_key_iff]
  rfl

/-- A list in order is what sorting by keys makes of its entries. -/
theorem Ordered.eq_mergeSort {l m : List (Entry β)} (hl : Ordered l) (h : l.Perm m) :
    l = m.mergeSort fun a b => a.key ≤ b.key := by
  have hsorted : (m.mergeSort fun a b => a.key ≤ b.key).Pairwise fun a b => a.key ≤ b.key := by
    refine (List.pairwise_mergeSort ?_ ?_ m).imp of_decide_eq_true
    · intro a b c hab hbc
      exact decide_eq_true (le_trans (of_decide_eq_true hab) (of_decide_eq_true hbc))
    · intro a b
      simp only [Bool.or_eq_true, decide_eq_true_eq]
      exact le_total a.key b.key
  have hperm : l.Perm (m.mergeSort fun a b => a.key ≤ b.key) :=
    h.trans (List.mergeSort_perm m _).symm
  have hkeys : (l.map key).Nodup := (ordered_iff_keys.1 hl).imp ne_of_lt
  refine hperm.eq_of_pairwise ?_ (hl.imp fun hab => (key_lt_key_iff.2 hab).le) hsorted
  -- two entries of the list with one key are the same
  intro a b ha hb hab hba
  exact List.inj_on_of_nodup_map hkeys ha (hperm.mem_iff.2 hb) (le_antisymm hab hba)

end Entry

namespace Merge

/-! ### One call -/

/-- What a call gives, and what it leaves. Nothing is given once nothing is left, and then nothing
changes. -/
def call (m : Merge β) : Option (Entry β) × Merge β :=
  match m.next? with
  | some (e, n) => (some e, n)
  | none => (none, m)

/-- A call takes the head of one of the lists, whose rest it leaves beside the other list. -/
theorem next?_cases {m n : Merge β} {e : Entry β} (h : m.next? = some (e, n)) :
    m.left = e :: n.left ∧ m.right = n.right ∨ m.left = n.left ∧ m.right = e :: n.right := by
  unfold next? at h
  split at h
  · cases h
  · cases h
    exact Or.inl ⟨rfl, rfl⟩
  · cases h
    exact Or.inr ⟨rfl, rfl⟩
  · split at h <;> cases h
    · exact Or.inr ⟨rfl, rfl⟩
    · exact Or.inl ⟨rfl, rfl⟩

theorem left_sublist_toList (m : Merge β) : m.left.Sublist m.toList := by
  fun_induction toList m with
  | case1 m h => rw [(next?_eq_none_iff.1 h).1]
  | case2 m e n h ih =>
    rcases next?_cases h with ⟨hl, -⟩ | ⟨hl, -⟩
    · rw [hl]
      exact ih.cons_cons e
    · rw [hl]
      exact ih.cons e

theorem right_sublist_toList (m : Merge β) : m.right.Sublist m.toList := by
  fun_induction toList m with
  | case1 m h => rw [(next?_eq_none_iff.1 h).2]
  | case2 m e n h ih =>
    rcases next?_cases h with ⟨-, hr⟩ | ⟨-, hr⟩
    · rw [hr]
      exact ih.cons e
    · rw [hr]
      exact ih.cons_cons e

theorem length_toList (m : Merge β) : m.toList.length = m.left.length + m.right.length := by
  rw [m.toList_perm.length_eq, List.length_append]

/-- A call gives the first entry of the list of the merge, and leaves the list without it. -/
theorem call_eq (m : Merge β) : m.call.1 = m.toList.head? ∧ m.call.2.toList = m.toList.tail := by
  unfold call
  split
  next e n h => rw [toList, h]; exact ⟨rfl, rfl⟩
  next h => rw [toList, h]; exact ⟨rfl, rfl⟩

/-! ### A number of calls -/

/-- What a number of calls leave. -/
def after (m : Merge β) : ℕ → Merge β
  | 0 => m
  | n + 1 => (m.after n).call.2

/-- What the call behind a number of calls gives. -/
def given (m : Merge β) (n : ℕ) : Option (Entry β) := (m.after n).call.1

theorem toList_after (m : Merge β) (n : ℕ) : (m.after n).toList = m.toList.drop n := by
  induction n with
  | zero => rfl
  | succ n ih => rw [after, (call_eq _).2, ih, List.tail_drop]

/-- The calls give the list of the merge, entry by entry, and then nothing. -/
theorem given_eq (m : Merge β) (n : ℕ) : m.given n = m.toList[n]? := by
  rw [given, (call_eq _).1, toList_after, List.head?_drop]

/-- The lists are used up after as many calls as they have entries together. -/
theorem exhausted_iff (m : Merge β) (n : ℕ) :
    (m.after n).left = [] ∧ (m.after n).right = [] ↔ m.left.length + m.right.length ≤ n := by
  have hlength := length_toList (m.after n)
  rw [toList_after, List.length_drop, length_toList] at hlength
  rw [← List.length_eq_zero_iff, ← List.length_eq_zero_iff]
  omega

/-- Lists with strictly increasing keys, none of them in both, can be merged. -/
theorem mergeable_of_keys {m : Merge β} (hleft : (m.left.map Entry.key).Pairwise (· < ·))
    (hright : (m.right.map Entry.key).Pairwise (· < ·))
    (hapart : ∀ a ∈ m.left, ∀ b ∈ m.right, a.key ≠ b.key) : m.Mergeable where
  left := Entry.ordered_iff_keys.2 hleft
  right := Entry.ordered_iff_keys.2 hright
  apart a ha b hb := by
    rw [← Entry.key_lt_key_iff, ← Entry.key_lt_key_iff]
    exact lt_or_gt_of_ne (hapart a ha b hb)

end Merge

/-- Two lists of entries with strictly increasing keys, none of them in both. A merge gives as many
entries as both have together, one with each call, and nothing from then on: it is used up by these
calls and by no fewer. What it gives are the entries of both lists with their keys strictly
increasing, those of each list in the order of that list; it is what sorting all of them by their
keys gives. -/
theorem merge_calls (m : Merge β) (hleft : (m.left.map Entry.key).Pairwise (· < ·))
    (hright : (m.right.map Entry.key).Pairwise (· < ·))
    (hapart : ∀ a ∈ m.left, ∀ b ∈ m.right, a.key ≠ b.key) :
    m.toList.length = m.left.length + m.right.length ∧
      (∀ n, m.given n = m.toList[n]?) ∧
      (∀ n, m.given n = none ↔ m.left.length + m.right.length ≤ n) ∧
      (∀ n, (m.after n).left = [] ∧ (m.after n).right = [] ↔
        m.left.length + m.right.length ≤ n) ∧
      m.toList.Perm (m.left ++ m.right) ∧
      (m.toList.map Entry.key).Pairwise (· < ·) ∧
      m.left.Sublist m.toList ∧ m.right.Sublist m.toList ∧
      m.toList = (m.left ++ m.right).mergeSort fun a b => a.key ≤ b.key := by
  have hordered := Merge.ordered_toList (Merge.mergeable_of_keys hleft hright hapart)
  refine ⟨m.length_toList, m.given_eq, fun n => ?_, m.exhausted_iff, m.toList_perm,
    Entry.ordered_iff_keys.1 hordered, m.left_sublist_toList, m.right_sublist_toList,
    hordered.eq_mergeSort m.toList_perm⟩
  rw [m.given_eq, List.getElem?_eq_none_iff, m.length_toList]

/-- An entry for a priority and a number. -/
def rankedEntry (priority : Int) (sequence : ℕ) : Entry Unit :=
  ⟨⟨0, sequence⟩, ⟨.exact, "offer", Selector.isName_offer⟩, priority, .ofBody "audit" ()⟩

/-- Both lists have entries of one priority, and one list is used up before the other. -/
def rankedMerge : Merge Unit :=
  ⟨[rankedEntry 7 4, rankedEntry 2 1, rankedEntry (-3) 0], [rankedEntry 7 3, rankedEntry 2 5]⟩

theorem merge_calls_ranked :
    (rankedMerge.left.map Entry.key).Pairwise (· < ·) ∧
      (rankedMerge.right.map Entry.key).Pairwise (· < ·) ∧
      (∀ a ∈ rankedMerge.left, ∀ b ∈ rankedMerge.right, a.key ≠ b.key) ∧
      rankedMerge.toList.map Entry.sequence = [3, 4, 1, 5, 0] ∧
      ∀ n, rankedMerge.given n = none ↔ 5 ≤ n := by
  have hleft : (rankedMerge.left.map Entry.key).Pairwise (· < ·) := by decide
  have hright : (rankedMerge.right.map Entry.key).Pairwise (· < ·) := by decide
  have hapart : ∀ a ∈ rankedMerge.left, ∀ b ∈ rankedMerge.right, a.key ≠ b.key := by decide
  obtain ⟨-, -, hgiven, -⟩ := merge_calls rankedMerge hleft hright hapart
  exact ⟨hleft, hright, hapart, by decide +kernel, hgiven⟩

end Switchboard
