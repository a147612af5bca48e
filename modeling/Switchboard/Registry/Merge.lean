import Switchboard.Registry.Entry

/-!
# Merging two runs of entries

A `Merge` holds what is left of two lists of entries, each in order. `Merge.next?` takes the entry
that comes first of both heads; the left one unless the right one comes before it.
-/

namespace Switchboard

/-- What is left of two lists of entries. -/
structure Merge (β : Type) where
  left : List (Entry β)
  right : List (Entry β)

namespace Merge

variable {β : Type}

/-- How many entries are left. -/
def size (m : Merge β) : Nat := m.left.length + m.right.length

/-- The next entry and what is left behind it. -/
def next? : Merge β → Option (Entry β × Merge β)
  | ⟨[], []⟩ => none
  | ⟨l :: left, []⟩ => some (l, ⟨left, []⟩)
  | ⟨[], r :: right⟩ => some (r, ⟨[], right⟩)
  | ⟨l :: left, r :: right⟩ =>
    if r.before l then some (r, ⟨l :: left, right⟩) else some (l, ⟨left, r :: right⟩)

theorem size_next {m n : Merge β} {e : Entry β} (h : m.next? = some (e, n)) :
    n.size + 1 = m.size := by
  unfold next? at h
  split at h
  · cases h
  · cases h; simp [size]
  · cases h; simp [size]
  · split at h <;> cases h <;> simp [size] <;> omega

/-- The entries in the order in which they are taken. -/
def toList (m : Merge β) : List (Entry β) :=
  match _h : m.next? with
  | none => []
  | some (e, n) => e :: toList n
termination_by m.size
decreasing_by have := size_next ‹_›; omega

end Merge

end Switchboard
