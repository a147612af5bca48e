import Mathlib.Data.List.Forall2
import Switchboard.Proofs.Value.Layers
import Switchboard.Value.Shape

/-!
# What readers have read

What a reader has got from a value tells what the value was. A structure holds under each of its
fields what the table has there, or what it held before.

* `bind_eq_ok_iff`, `map_eq_ok_iff`, `mapM_eq_ok_iff`: steps that have all succeeded;
* `Shape.bool_eq_ok_iff`, `Shape.choice_eq_ok`, …: the plain types;
* `Shape.taken_of_storeFields`: the fields of a structure.
-/

namespace Switchboard

/-! ### Steps -/

section Steps

variable {ε ε' α β : Type}

theorem bind_eq_ok_iff {x : Except ε α} {f : α → Except ε β} {b : β} :
    (x >>= f) = .ok b ↔ ∃ a, x = .ok a ∧ f a = .ok b := by
  cases x <;> simp [bind, Except.bind]

theorem map_eq_ok_iff {x : Except ε α} {f : α → β} {b : β} :
    x.map f = .ok b ↔ ∃ a, x = .ok a ∧ f a = b := by
  cases x <;> simp [Except.map]

theorem toOption_eq_some_iff {x : Except ε α} {a : α} : x.toOption = some a ↔ x = .ok a := by
  cases x <;> simp [Except.toOption]

theorem mapError_eq_ok_iff {x : Except ε α} {f : ε → ε'} {a : α} :
    x.mapError f = .ok a ↔ x = .ok a := by
  cases x <;> simp [Except.mapError]

theorem mapM_eq_ok_iff {f : α → Except ε β} {as : List α} {bs : List β} :
    as.mapM f = .ok bs ↔ List.Forall₂ (fun a b => f a = .ok b) as bs := by
  induction as generalizing bs with
  | nil =>
    rw [List.mapM_nil, List.forall₂_nil_left_iff]
    constructor
    · rintro ⟨⟩
      rfl
    · rintro rfl
      rfl
  | cons a as ih =>
    rw [List.mapM_cons, bind_eq_ok_iff]
    constructor
    · rintro ⟨b, hb, h⟩
      obtain ⟨bs', hbs, h⟩ := bind_eq_ok_iff.1 h
      cases h
      exact .cons hb (ih.1 hbs)
    · intro h
      cases h with
      | cons hb hbs => exact ⟨_, hb, bind_eq_ok_iff.2 ⟨_, ih.2 hbs, rfl⟩⟩

theorem exists_of_mem_mapM {f : α → Except ε β} {as : List α} {bs : List β}
    (h : as.mapM f = .ok bs) {b : β} (hb : b ∈ bs) : ∃ a ∈ as, f a = .ok b := by
  have hall := mapM_eq_ok_iff.1 h
  clear h
  induction hall with
  | nil => cases hb
  | cons hab _ ih =>
    rcases List.mem_cons.1 hb with rfl | hb
    · exact ⟨_, List.mem_cons_self, hab⟩
    · obtain ⟨a, ha, hab⟩ := ih hb
      exact ⟨a, List.mem_cons_of_mem _ ha, hab⟩

end Steps

namespace Shape

variable {α σ : Type} {v : Value}

/-! ### Plain types -/

theorem bool_eq_ok_iff {b : Bool} : bool v = .ok b ↔ v = .bool b := by
  cases v <;> simp [bool]

theorem eq_int_of_ok {low high n : Int} {wanted : String} (h : int low high wanted v = .ok n) :
    v = .int n := by
  cases v with
  | int m =>
    simp only [int] at h
    split at h
    · cases h
      rfl
    · cases h
  | null | bool | double | string | array | object => cases h

theorem string_eq_ok_iff {wanted s : String} : string wanted v = .ok s ↔ v = .string s := by
  cases v <;> simp [string]

theorem option_eq_ok {shape : Shape α} {a : Option α} (hv : v.Tidy) (h : option shape v = .ok a) :
    ∃ b, shape v = .ok b ∧ a = some b := by
  cases hv
  all_goals
    obtain ⟨b, hb, rfl⟩ := map_eq_ok_iff.1 h
    exact ⟨b, hb, rfl⟩

theorem exists_items_of_list {shape : Shape α} {as : List α} (h : list shape v = .ok as) :
    ∃ items, v = .array items := by
  cases v with
  | array items => exact ⟨items, rfl⟩
  | null | bool | int | double | string | object => cases h

theorem table_eq_ok {shape : Shape α} {t : Table α} (h : table shape v = .ok t) :
    ∃ fields, v = .object fields ∧
      List.Forall₂ (fun p q => p.1 = q.1 ∧ shape p.2 = .ok q.2) fields t := by
  cases v with
  | object fields =>
    refine ⟨fields, rfl, (mapM_eq_ok_iff.1 h).imp fun p q hpq => ?_⟩
    obtain ⟨a, ha, rfl⟩ := map_eq_ok_iff.1 hpq
    exact ⟨rfl, ha⟩
  | null | bool | int | double | string | array => cases h

/-- A choice is given by its name: an object in its place would need a null. -/
theorem choice_eq_ok {choices : List (String × α)} {a : α} (hv : v.Tidy)
    (h : choice choices v = .ok a) : ∃ name, v = .string name ∧ (name, a) ∈ choices := by
  have hpick : ∀ {name}, choice choices (.string name) = .ok a → (name, a) ∈ choices := by
    intro name h
    unfold choice at h
    simp only at h
    split at h
    next c hc =>
      cases h
      have hname : c.1 = name := by simpa using List.find?_some hc
      rw [← hname]
      exact List.mem_of_find?_eq_some hc
    next => cases h
  cases hv with
  | string s => exact ⟨s, rfl, hpick h⟩
  | @object fields sorted values =>
    -- an object with one field would do, but what it holds would have to be null
    cases fields with
    | nil => cases h
    | cons pair rest =>
      cases rest with
      | cons => cases h
      | nil =>
        obtain ⟨name, content⟩ := pair
        obtain ⟨b, -, h⟩ := bind_eq_ok_iff.1 h
        obtain ⟨u, hu, -⟩ := bind_eq_ok_iff.1 h
        cases content with
        | null => cases values _ (List.mem_singleton_self _)
        | bool | int | double | string | array | object => cases hu
  | bool | int | double | array => cases h

/-! ### Structures -/

/-- The field is read by a shape, and then held. -/
def Field.Sets (f : Field σ) (shape : Shape α) (get : σ → α) : Prop :=
  ∀ v s s', f.store v s = .ok s' → shape v = .ok (get s')

/-- Storing the field leaves something else as it is. -/
def Field.Keeps (f : Field σ) (get : σ → α) : Prop :=
  ∀ v s s', f.store v s = .ok s' → get s' = get s

theorem sets_field {name : String} {shape : Shape α} {set : α → σ → σ} {get : σ → α}
    (h : ∀ x s, get (set x s) = x) : (field name shape set).Sets shape get := by
  intro v s s' hstore
  obtain ⟨x, hx, rfl⟩ := map_eq_ok_iff.1 hstore
  rw [h]
  exact hx

theorem keeps_field {β : Type} {name : String} {shape : Shape β} {set : β → σ → σ} {get : σ → α}
    (h : ∀ x s, get (set x s) = get s) : (field name shape set).Keeps get := by
  intro v s s' hstore
  obtain ⟨x, -, rfl⟩ := map_eq_ok_iff.1 hstore
  exact h x s

/-- What a table has under a name has been read; without anything there it is the initial one. -/
structure Taken (t : Table Value) (name : String) (shape : Shape α) (x initial : α) : Prop where
  read : ∀ v, Table.get? name t = some v → shape v = .ok x
  left : Table.get? name t = none → x = initial

/-- A structure holds under a field what the table has there. -/
theorem taken_of_storeFields {fields : List (Field σ)} {f : Field σ} {shape : Shape α}
    {get : σ → α} (hf : fields.find? (fun g => g.name == f.name) = some f)
    (hsets : f.Sets shape get) (hkeeps : ∀ g ∈ fields, g.name ≠ f.name → g.Keeps get)
    {t : Table Value} (ht : Table.Sorted t) {s s' : σ} (h : storeFields fields t s = .ok s') :
    Taken t f.name shape (get s') (get s) := by
  induction t generalizing s with
  | nil =>
    cases h
    constructor
    · intro v hv
      cases hv
    · exact fun _ => rfl
  | cons pair rest ih =>
    obtain ⟨name, v⟩ := pair
    have hrest := fun {s} => ih (List.pairwise_cons.1 ht).2 (s := s)
    by_cases hname : name = f.name
    · subst hname
      rw [storeFields, hf] at h
      obtain ⟨between, hstore, h⟩ := bind_eq_ok_iff.1 h
      -- the name does not come again, so that nothing stores the field a second time
      have hleft : get s' = get between := (hrest h).left ht.get?_tail
      constructor
      · intro w hw
        rw [Table.get?, if_pos rfl] at hw
        cases hw
        rw [hleft]
        exact hsets v s between hstore
      · intro hnone
        rw [Table.get?, if_pos rfl] at hnone
        cases hnone
    · have hget : Table.get? f.name ((name, v) :: rest) = Table.get? f.name rest := by
        rw [Table.get?, if_neg (Ne.symm hname)]
      rw [storeFields] at h
      split at h
      next g hg =>
        obtain ⟨between, hstore, h⟩ := bind_eq_ok_iff.1 h
        have hgname : g.name = name := by simpa using List.find?_some hg
        have hkept : get between = get s :=
          hkeeps g (List.mem_of_find?_eq_some hg) (by rw [hgname]; exact hname) v s between hstore
        exact ⟨fun w hw => (hrest h).read w (hget ▸ hw),
          fun hnone => ((hrest h).left (hget ▸ hnone)).trans hkept⟩
      next =>
        exact ⟨fun w hw => (hrest h).read w (hget ▸ hw), fun hnone => (hrest h).left (hget ▸ hnone)⟩

end Shape

end Switchboard
