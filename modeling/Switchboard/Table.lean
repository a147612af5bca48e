/-!
# Tables keyed by names

A `Table` is a finite map from names, kept as a list of pairs in increasing order of names. Names
are compared by their characters, which is also the order of their UTF-8 bytes, so a table lists
its entries in byte order.

* `Table.get?`, `Table.insert`, `Table.erase`, `Table.contains`;
* `Table.ofList`, in which a later pair replaces an earlier one of the same name;
* `get?_insert`: writing a name changes what is read at that name and nowhere else.
-/

namespace Switchboard

/-- A finite map from names, in increasing order of names. -/
abbrev Table (α : Type) := List (String × α)

namespace Table

variable {α β : Type}

/-- The value stored under a name. -/
def get? (name : String) : Table α → Option α
  | [] => none
  | (key, value) :: rest => if name = key then some value else get? name rest

/-- Whether a name has a value. -/
def contains (name : String) (t : Table α) : Bool := (get? name t).isSome

/-- Stores a value under a name, in place of the one there. -/
def insert (name : String) (value : α) : Table α → Table α
  | [] => [(name, value)]
  | (key, old) :: rest =>
    if name = key then (name, value) :: rest
    else if name < key then (name, value) :: (key, old) :: rest
    else (key, old) :: insert name value rest

/-- Removes a name. -/
def erase (name : String) : Table α → Table α
  | [] => []
  | (key, value) :: rest => if name = key then erase name rest else (key, value) :: erase name rest

/-- The table of a list of pairs; of two pairs with one name the later counts. -/
def ofList (pairs : List (String × α)) : Table α :=
  pairs.foldl (fun t pair => insert pair.1 pair.2 t) []

/-- The names in use, in order. -/
def names (t : Table α) : List String := t.map Prod.fst

/-- Changes every value and keeps the names. -/
def mapValues (f : α → β) (t : Table α) : Table β := t.map fun pair => (pair.1, f pair.2)

@[simp] theorem get?_nil (name : String) : get? name ([] : Table α) = none := rfl

@[simp] theorem get?_insert_self (name : String) (value : α) (t : Table α) :
    get? name (insert name value t) = some value := by
  induction t with
  | nil => simp [insert, get?]
  | cons pair rest ih =>
    obtain ⟨key, old⟩ := pair
    by_cases h : name = key
    · simp [insert, get?, h]
    · by_cases hlt : name < key <;> simp [insert, get?, h, hlt, ih]

theorem get?_insert_of_ne {name other : String} (h : other ≠ name) (value : α) (t : Table α) :
    get? other (insert name value t) = get? other t := by
  induction t with
  | nil => simp [insert, get?, h]
  | cons pair rest ih =>
    obtain ⟨key, old⟩ := pair
    by_cases hk : name = key
    · subst hk; simp [insert, get?, h]
    · by_cases hlt : name < key <;> simp [insert, get?, hk, hlt, h, ih]

/-- Writing a name changes what is read at that name and nowhere else. -/
theorem get?_insert (name other : String) (value : α) (t : Table α) :
    get? other (insert name value t) = if other = name then some value else get? other t := by
  by_cases h : other = name
  · subst h; simp
  · simp [h, get?_insert_of_ne h]

@[simp] theorem get?_erase_self (name : String) (t : Table α) :
    get? name (erase name t) = none := by
  induction t with
  | nil => rfl
  | cons pair rest ih =>
    obtain ⟨key, value⟩ := pair
    by_cases h : name = key <;> simp [erase, get?, h, ih]
    · simpa [h] using ih

theorem get?_erase_of_ne {name other : String} (h : other ≠ name) (t : Table α) :
    get? other (erase name t) = get? other t := by
  induction t with
  | nil => rfl
  | cons pair rest ih =>
    obtain ⟨key, value⟩ := pair
    by_cases hk : name = key
    · subst hk; simp [erase, get?, h, ih]
    · simp [erase, get?, hk, ih]

end Table

end Switchboard
