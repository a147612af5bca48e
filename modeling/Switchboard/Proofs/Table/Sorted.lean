import Mathlib.Data.String.Basic
import Switchboard.Table

/-!
# Tables in order of names

A table is `Table.Sorted` if its names grow along it. Writing and removing keep it so, and what is
read under a name is then just the pair of that name: `Table.Sorted.get?_eq_some_iff`. Two such
tables with the same readings are the same: `Table.Sorted.ext`.
-/

namespace Switchboard

namespace Table

variable {α : Type}

/-- The names grow along the table. -/
def Sorted (t : Table α) : Prop := t.Pairwise fun p q => p.1 < q.1

theorem sorted_nil : Sorted ([] : Table α) := List.Pairwise.nil

theorem eq_or_mem_of_mem_insert {name : String} {value : α} {t : Table α} {pair : String × α}
    (h : pair ∈ insert name value t) : pair = (name, value) ∨ pair ∈ t := by
  induction t with
  | nil => exact Or.inl (List.mem_singleton.1 h)
  | cons head rest ih =>
    obtain ⟨key, old⟩ := head
    unfold insert at h
    split at h
    · exact (List.mem_cons.1 h).imp_right (List.mem_cons_of_mem _)
    · split at h
      · exact List.mem_cons.1 h
      · rcases List.mem_cons.1 h with rfl | h
        · exact Or.inr List.mem_cons_self
        · exact (ih h).imp_right (List.mem_cons_of_mem _)

theorem mem_erase {name : String} {t : Table α} {pair : String × α} :
    pair ∈ erase name t ↔ pair ∈ t ∧ pair.1 ≠ name := by
  induction t with
  | nil => simp [erase]
  | cons head rest ih =>
    obtain ⟨key, value⟩ := head
    unfold erase
    split
    next h =>
      subst h
      rw [ih, List.mem_cons]
      constructor
      · exact fun h => ⟨Or.inr h.1, h.2⟩
      · rintro ⟨rfl | h, hne⟩
        · exact absurd rfl hne
        · exact ⟨h, hne⟩
    next h =>
      rw [List.mem_cons, List.mem_cons, ih]
      constructor
      · rintro (rfl | h')
        · exact ⟨Or.inl rfl, Ne.symm h⟩
        · exact ⟨Or.inr h'.1, h'.2⟩
      · rintro ⟨rfl | h', hne⟩
        · exact Or.inl rfl
        · exact Or.inr ⟨h', hne⟩

theorem mem_of_get? {name : String} {value : α} {t : Table α} (h : get? name t = some value) :
    (name, value) ∈ t := by
  induction t with
  | nil => cases h
  | cons head rest ih =>
    obtain ⟨key, old⟩ := head
    unfold get? at h
    split at h
    next hk =>
      cases h
      rw [hk]
      exact List.mem_cons_self
    next => exact List.mem_cons_of_mem _ (ih h)

theorem sorted_insert {t : Table α} (h : Sorted t) (name : String) (value : α) :
    Sorted (insert name value t) := by
  induction t with
  | nil => exact List.pairwise_singleton _ _
  | cons head rest ih =>
    obtain ⟨key, old⟩ := head
    obtain ⟨hkey, hrest⟩ := List.pairwise_cons.1 h
    unfold insert
    split
    next heq =>
      subst heq
      exact List.pairwise_cons.2 ⟨hkey, hrest⟩
    next hne =>
      split
      next hlt =>
        refine List.pairwise_cons.2 ⟨fun pair hp => ?_, h⟩
        rcases List.mem_cons.1 hp with rfl | hp
        · exact hlt
        · exact lt_trans hlt (hkey pair hp)
      next hlt =>
        have hgt : key < name := lt_of_le_of_ne (not_lt.1 hlt) (Ne.symm hne)
        refine List.pairwise_cons.2 ⟨fun pair hp => ?_, ih hrest⟩
        rcases eq_or_mem_of_mem_insert hp with rfl | hp
        · exact hgt
        · exact hkey pair hp

theorem sorted_erase {t : Table α} (h : Sorted t) (name : String) : Sorted (erase name t) := by
  induction t with
  | nil => exact sorted_nil
  | cons head rest ih =>
    obtain ⟨key, value⟩ := head
    obtain ⟨hkey, hrest⟩ := List.pairwise_cons.1 h
    unfold erase
    split
    · exact ih hrest
    · exact List.pairwise_cons.2 ⟨fun pair hp => hkey pair (mem_erase.1 hp).1, ih hrest⟩

/-- In a table in order of names, what is read under a name is the pair of that name. -/
theorem Sorted.get?_eq_some_iff {t : Table α} (h : Sorted t) {name : String} {value : α} :
    get? name t = some value ↔ (name, value) ∈ t := by
  refine ⟨mem_of_get?, fun hm => ?_⟩
  induction t with
  | nil => cases hm
  | cons head rest ih =>
    obtain ⟨key, old⟩ := head
    obtain ⟨hkey, hrest⟩ := List.pairwise_cons.1 h
    unfold get?
    rcases List.mem_cons.1 hm with heq | hm
    · cases heq
      exact if_pos rfl
    · rw [if_neg (ne_of_gt (hkey _ hm))]
      exact ih hrest hm

/-- A name does not come back further down. -/
theorem Sorted.get?_tail {name : String} {value : α} {t : Table α}
    (h : Sorted ((name, value) :: t)) : get? name t = none := by
  rw [Option.eq_none_iff_forall_ne_some]
  intro v hv
  exact absurd ((List.pairwise_cons.1 h).1 _ (mem_of_get? hv)) (lt_irrefl name)

/-- Tables in order of names are the same if the same is read under each name. -/
theorem Sorted.ext {t t' : Table α} (h : Sorted t) (h' : Sorted t')
    (hget : ∀ name, get? name t = get? name t') : t = t' := by
  have hnodup : ∀ {t : Table α}, Sorted t → t.Nodup :=
    fun h => h.imp fun hlt heq => absurd (heq ▸ hlt) (lt_irrefl _)
  have hperm : t.Perm t' := by
    refine (List.perm_ext_iff_of_nodup (hnodup h) (hnodup h')).2 fun pair => ?_
    rw [← h.get?_eq_some_iff, hget, h'.get?_eq_some_iff]
  exact hperm.eq_of_pairwise (fun _ _ _ _ hlt hgt => absurd (lt_trans hlt hgt) (lt_irrefl _)) h h'

theorem sorted_ofList (pairs : List (String × α)) : Sorted (ofList pairs) := by
  have hfold : ∀ t : Table α, Sorted t →
      Sorted (pairs.foldl (fun t pair => insert pair.1 pair.2 t) t) := by
    induction pairs with
    | nil => exact fun t h => h
    | cons pair rest ih => exact fun t h => ih _ (sorted_insert h pair.1 pair.2)
  exact hfold [] sorted_nil

theorem mem_of_mem_ofList {pairs : List (String × α)} {pair : String × α}
    (h : pair ∈ ofList pairs) : pair ∈ pairs := by
  have hfold : ∀ t : Table α, pair ∈ pairs.foldl (fun t pair => insert pair.1 pair.2 t) t →
      pair ∈ pairs ∨ pair ∈ t := by
    clear h
    induction pairs with
    | nil => exact fun t h => Or.inr h
    | cons p rest ih =>
      intro t h
      rcases ih _ h with h | h
      · exact Or.inl (List.mem_cons_of_mem _ h)
      · rcases eq_or_mem_of_mem_insert h with rfl | h
        · exact Or.inl List.mem_cons_self
        · exact Or.inr h
  rcases hfold [] h with h | h
  · exact h
  · cases h

/-- Only the names matter. -/
theorem Sorted.of_names_eq {β : Type} {t : Table α} {t' : Table β} (h : Sorted t)
    (hnames : t'.names = t.names) : Sorted t' := by
  have hpairwise : t.names.Pairwise (· < ·) := List.pairwise_map.2 h
  rw [← hnames] at hpairwise
  exact List.pairwise_map.1 hpairwise

/-- Removing a name changes what is read at that name and nowhere else. -/
theorem get?_erase (name other : String) (t : Table α) :
    get? other (erase name t) = if other = name then none else get? other t := by
  by_cases h : other = name
  · subst h; simp
  · simp [h, get?_erase_of_ne h]

end Table

end Switchboard
