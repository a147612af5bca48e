import Mathlib.Data.List.Induction
import Switchboard.Config.Layers
import Switchboard.Proofs.Table.Sorted

/-!
# Values in layers

Merged layers are read path by path: what stands at a path is taken from the topmost layer that has
something there. This needs that all layers have only tables on the way to it, and that they are
`Value.Tidy`, with each name of a table once and without nulls, as all documents are.

* `Value.at?_merge`: what a merge of two values has at a path;
* `Value.IsLayer.mergeAll`, `Value.Leads.mergeAll`: merged layers are tidy tables, with tables where
  all layers have them;
* `Value.at?_mergeAll`: what merged layers have at a path.
-/

namespace Switchboard

namespace Value

/-! ### Tidy values -/

/-- A value without nulls in tables, which have their names in order. What an array holds is left
open. -/
inductive Tidy : Value → Prop
  | bool (b : Bool) : Tidy (.bool b)
  | int (n : Int) : Tidy (.int n)
  | double (x : Float) : Tidy (.double x)
  | string (s : String) : Tidy (.string s)
  | array (items : List Value) : Tidy (.array items)
  | object {fields : List (String × Value)} (sorted : Table.Sorted fields)
    (values : ∀ pair ∈ fields, Tidy pair.2) : Tidy (.object fields)

theorem Tidy.sorted {fields : List (String × Value)} (h : Tidy (.object fields)) :
    Table.Sorted fields := by
  cases h with
  | object sorted values => exact sorted

theorem Tidy.values {fields : List (String × Value)} (h : Tidy (.object fields)) :
    ∀ pair ∈ fields, Tidy pair.2 := by
  cases h with
  | object sorted values => exact values

theorem Tidy.get? {fields : List (String × Value)} (h : Tidy (.object fields)) {name : String}
    {v : Value} (hv : Table.get? name fields = some v) : Tidy v :=
  h.values _ (Table.mem_of_get? hv)

theorem Tidy.ofPairs {pairs : List (String × Value)} (h : ∀ pair ∈ pairs, Tidy pair.2) :
    Tidy (.ofPairs pairs) :=
  .object (Table.sorted_ofList pairs) fun pair hpair => h pair (Table.mem_of_mem_ofList hpair)

/-- The value is a table. -/
def isTable : Value → Bool
  | .object _ => true
  | _ => false

/-- What a layer has to be: a tidy table. -/
structure IsLayer (v : Value) : Prop where
  tidy : v.Tidy
  table : v.isTable = true

theorem exists_fields {v : Value} (h : v.isTable = true) : ∃ fields, v = .object fields := by
  cases v with
  | object fields => exact ⟨fields, rfl⟩
  | null | bool | int | double | string | array => cases h

/-! ### One value over another -/

theorem merge_object (fields later : List (String × Value)) :
    merge (.object fields) (.object later) = .object (mergeFields fields later) := by
  simp only [merge]

@[simp] theorem isTable_merge (base later : Value) :
    (merge base later).isTable = later.isTable := by
  cases later with
  | object => cases base <;> simp only [merge, isTable]
  | null | bool | int | double | string | array => simp only [merge]

theorem merge_of_not_table {later : Value} (h : later.isTable = false) (base : Value) :
    merge base later = later := by
  cases later with
  | object => cases h
  | null | bool | int | double | string | array => simp only [merge]

theorem mergeFields_cons (fields : List (String × Value)) (name : String) (v : Value)
    (rest : List (String × Value)) :
    mergeFields fields ((name, v) :: rest) =
      mergeFields (Table.insert name (((Table.get? name fields).map (merge · v)).getD v) fields)
        rest := by
  simp only [mergeFields]
  cases Table.get? name fields <;> rfl

/-- Merged fields are merged name by name. -/
theorem get?_mergeFields {later : List (String × Value)} (h : Table.Sorted later)
    (fields : List (String × Value)) (name : String) :
    Table.get? name (mergeFields fields later) =
      Option.merge merge (Table.get? name fields) (Table.get? name later) := by
  induction later generalizing fields with
  | nil =>
    simp only [mergeFields, Table.get?_nil]
    cases Table.get? name fields <;> rfl
  | cons pair rest ih =>
    obtain ⟨key, v⟩ := pair
    rw [mergeFields_cons, ih (List.pairwise_cons.1 h).2, Table.get?_insert]
    by_cases hname : name = key
    · subst hname
      rw [if_pos rfl, h.get?_tail, Table.get?, if_pos rfl]
      cases Table.get? name fields <;> rfl
    · rw [if_neg hname, Table.get?, if_neg hname]

theorem tidy_mergeFields {fields later : List (String × Value)} (hfields : Tidy (.object fields))
    (hlater : ∀ pair ∈ later, Tidy pair.2 ∧ ∀ u, Tidy u → Tidy (merge u pair.2)) :
    Tidy (.object (mergeFields fields later)) := by
  induction later generalizing fields with
  | nil => simpa only [mergeFields] using hfields
  | cons pair rest ih =>
    obtain ⟨key, v⟩ := pair
    obtain ⟨⟨hv, hmerge⟩, hrest⟩ := List.forall_mem_cons.1 hlater
    rw [mergeFields_cons]
    refine ih (.object (Table.sorted_insert hfields.sorted _ _) fun pair hpair => ?_) hrest
    rcases Table.eq_or_mem_of_mem_insert hpair with rfl | hpair
    · cases hu : Table.get? key fields with
      | none => exact hv
      | some u => exact hmerge u (hfields.get? hu)
    · exact hfields.values pair hpair

theorem Tidy.merge {base later : Value} (hbase : Tidy base) (hlater : Tidy later) :
    Tidy (merge base later) := by
  induction hlater generalizing base with
  | object sorted values ih =>
    cases hbase with
    | object sorted' values' =>
      rw [merge_object]
      exact tidy_mergeFields (.object sorted' values') fun pair hpair =>
        ⟨values pair hpair, fun u hu => ih pair hpair hu⟩
    | bool | int | double | string | array =>
      simp only [Value.merge]
      exact .object sorted values
  | bool | int | double | string | array =>
    simp only [Value.merge]
    constructor

/-- A table comes through over another one if it has all names of that one, and what it has there
comes through as well. -/
theorem merge_eq_later {fields later : List (String × Value)} (hfields : Tidy (.object fields))
    (hlater : Tidy (.object later))
    (h : ∀ pair ∈ fields, ∃ v, Table.get? pair.1 later = some v ∧ merge pair.2 v = v) :
    merge (.object fields) (.object later) = .object later := by
  have hmerged := hfields.merge hlater
  rw [merge_object] at hmerged ⊢
  refine congrArg object (hmerged.sorted.ext hlater.sorted fun name => ?_)
  rw [get?_mergeFields hlater.sorted]
  cases hu : Table.get? name fields with
  | none => exact Option.merge_none_left
  | some u =>
    obtain ⟨v, hv, hmerge⟩ := h _ (Table.mem_of_get? hu)
    rw [show Table.get? name later = some v from hv]
    exact congrArg some hmerge

theorem merge_empty {later : List (String × Value)} (h : Tidy (.object later)) :
    merge (.object []) (.object later) = .object later :=
  merge_eq_later (.object Table.sorted_nil (by simp)) h (by simp)

/-- Only tables stand on the way along a path. -/
def Leads (v : Value) (path : List String) : Prop :=
  ∀ front name rest, path = front ++ name :: rest → ∀ w, v.at? front = some w → w.isTable = true

theorem Leads.table {v : Value} {name : String} {rest : List String} (h : v.Leads (name :: rest)) :
    v.isTable = true :=
  h [] name rest rfl v rfl

theorem Leads.field {v w : Value} {name : String} {rest : List String}
    (h : v.Leads (name :: rest)) (hw : v.field? name = some w) : w.Leads rest := by
  intro front name' rest' hrest u hu
  refine h (name :: front) name' rest' (congrArg (List.cons name) hrest) u ?_
  exact Option.bind_eq_some_iff.2 ⟨w, hw, hu⟩

theorem Leads.front {v : Value} {front rest : List String} (h : v.Leads (front ++ rest)) :
    v.Leads front := by
  intro front' name rest' hfront
  refine h front' name (rest' ++ rest) ?_
  rw [hfront, List.append_assoc, List.cons_append]

/-- Where only tables stand on the way, a merge is merged at the end of it. -/
theorem at?_merge {base later : Value} (hlater : Tidy later) {path : List String}
    (hb : base.Leads path) (hl : later.Leads path) :
    (merge base later).at? path = Option.merge merge (base.at? path) (later.at? path) := by
  induction path generalizing base later with
  | nil => rfl
  | cons name rest ih =>
    obtain ⟨fields, rfl⟩ := exists_fields hb.table
    obtain ⟨later, rfl⟩ := exists_fields hl.table
    rw [merge_object]
    show (Table.get? name _).bind _ =
      Option.merge _ ((Table.get? name _).bind _) ((Table.get? name _).bind _)
    rw [get?_mergeFields hlater.sorted]
    cases hu : Table.get? name fields with
    | none => cases Table.get? name later <;> simp
    | some u =>
      cases hv : Table.get? name later with
      | none => simp
      | some v => exact ih (hlater.get? hv) (hb.field hu) (hl.field hv)

theorem Leads.merge {base later : Value} (hlater : Tidy later) {path : List String}
    (hb : base.Leads path) (hl : later.Leads path) : (merge base later).Leads path := by
  rintro front name rest rfl w hw
  rw [at?_merge hlater hb.front hl.front] at hw
  cases hy : later.at? front with
  | none =>
    rw [hy, Option.merge_none_right] at hw
    exact hb front name rest rfl w hw
  | some y =>
    have hy' := hl front name rest rfl y hy
    rw [hy] at hw
    cases hx : base.at? front with
    | none =>
      rw [hx] at hw
      cases hw
      exact hy'
    | some x =>
      rw [hx] at hw
      cases hw
      exact (isTable_merge x y).trans hy'

/-! ### Layers -/

/-- What the topmost of the layers that have something at a path has there, the first layer being
the lowest. -/
def topmost? (path : List String) (layers : List Value) : Option Value :=
  layers.reverse.findSome? (at? path)

theorem topmost?_append_singleton (path : List String) (layers : List Value) (l : Value) :
    topmost? path (layers ++ [l]) = (l.at? path).or (topmost? path layers) := by
  rw [topmost?, List.reverse_append, List.reverse_singleton, List.singleton_append,
    List.findSome?_cons, topmost?]
  cases l.at? path <;> rfl

theorem topmost?_eq_none_iff {path : List String} {layers : List Value} :
    topmost? path layers = none ↔ ∀ l ∈ layers, l.at? path = none := by
  rw [topmost?, List.findSome?_eq_none_iff]
  simp only [List.mem_reverse]

theorem exists_of_topmost? {path : List String} {layers : List Value} {v : Value}
    (h : topmost? path layers = some v) : ∃ l ∈ layers, l.at? path = some v := by
  obtain ⟨l, hl, hv⟩ := List.exists_of_findSome?_eq_some h
  exact ⟨l, List.mem_reverse.1 hl, hv⟩

theorem mergeAll_append_singleton (layers : List Value) (l : Value) :
    mergeAll (layers ++ [l]) = merge (mergeAll layers) l := by
  rw [mergeAll, List.foldl_append, List.foldl_cons, List.foldl_nil, mergeAll]

/-- A merge of layers is fit to be one itself. -/
theorem IsLayer.mergeAll {layers : List Value} (h : ∀ l ∈ layers, IsLayer l) :
    IsLayer (mergeAll layers) := by
  induction layers using List.reverseRecOn with
  | nil => exact ⟨.object Table.sorted_nil (by simp), rfl⟩
  | append_singleton layers l ih =>
    obtain ⟨hlayers, hl⟩ := List.forall_mem_append.1 h
    have hl := hl l (List.mem_singleton_self l)
    rw [mergeAll_append_singleton]
    exact ⟨.merge (ih hlayers).tidy hl.tidy, (isTable_merge _ l).trans hl.table⟩

theorem Leads.mergeAll {layers : List Value} (hlayers : ∀ l ∈ layers, IsLayer l)
    {path : List String} (h : ∀ l ∈ layers, l.Leads path) : (mergeAll layers).Leads path := by
  induction layers using List.reverseRecOn with
  | nil =>
    intro front name rest _ w hw
    cases front with
    | nil =>
      cases hw
      rfl
    | cons => cases hw
  | append_singleton layers l ih =>
    obtain ⟨hlayers, hl⟩ := List.forall_mem_append.1 hlayers
    obtain ⟨hlower, hupper⟩ := List.forall_mem_append.1 h
    rw [mergeAll_append_singleton]
    exact .merge (hl l (List.mem_singleton_self l)).tidy (ih hlayers hlower)
      (hupper l (List.mem_singleton_self l))

/-- Both are tables, or both are the same. -/
def Agrees (v w : Value) : Prop := v.isTable = w.isTable ∧ (w.isTable = false → v = w)

/-- Below its root a merge of layers has at a path what the topmost layer has there; a table in its
place only stands for one. -/
theorem at?_mergeAll {layers : List Value} (hlayers : ∀ l ∈ layers, IsLayer l)
    {path : List String} (h : ∀ l ∈ layers, l.Leads path) (hpath : path ≠ []) :
    Option.Rel Agrees ((mergeAll layers).at? path) (topmost? path layers) := by
  induction layers using List.reverseRecOn with
  | nil =>
    obtain ⟨name, rest, rfl⟩ := List.exists_cons_of_ne_nil hpath
    exact .none
  | append_singleton layers l ih =>
    obtain ⟨hlayers, hl⟩ := List.forall_mem_append.1 hlayers
    obtain ⟨hlower, hupper⟩ := List.forall_mem_append.1 h
    have hl := hl l (List.mem_singleton_self l)
    -- the topmost layer is laid over what the ones below it come to
    rw [mergeAll_append_singleton, topmost?_append_singleton,
      at?_merge hl.tidy (.mergeAll hlayers hlower) (hupper l (List.mem_singleton_self l))]
    cases l.at? path with
    | none =>
      rw [Option.merge_none_right, Option.none_or]
      exact ih hlayers hlower
    | some y =>
      cases (Value.mergeAll layers).at? path with
      | none => exact .some ⟨rfl, fun _ => rfl⟩
      | some x => exact .some ⟨isTable_merge x y, fun hkind => merge_of_not_table hkind x⟩

section Reading

variable {layers : List Value} (hlayers : ∀ l ∈ layers, IsLayer l) {path : List String}
  (h : ∀ l ∈ layers, l.Leads path) (hpath : path ≠ [])

include hlayers h hpath

theorem topmost?_of_at?_mergeAll_eq_none (hv : (mergeAll layers).at? path = none) :
    topmost? path layers = none := by
  have hrel := at?_mergeAll hlayers h hpath
  rw [hv] at hrel
  cases htop : topmost? path layers with
  | none => rfl
  | some w =>
    rw [htop] at hrel
    cases hrel

theorem exists_topmost?_of_at?_mergeAll {v : Value} (hv : (mergeAll layers).at? path = some v) :
    ∃ w, topmost? path layers = some w ∧ Agrees v w := by
  have hrel := at?_mergeAll hlayers h hpath
  rw [hv] at hrel
  cases htop : topmost? path layers with
  | none =>
    rw [htop] at hrel
    cases hrel
  | some w =>
    rw [htop] at hrel
    cases hrel with
    | some hagrees => exact ⟨w, rfl, hagrees⟩

/-- What is no table in a merge of layers is what the topmost layer has. -/
theorem topmost?_of_at?_mergeAll {v : Value} (hv : (mergeAll layers).at? path = some v)
    (hkind : v.isTable = false) : topmost? path layers = some v := by
  obtain ⟨w, htop, hagrees⟩ := exists_topmost?_of_at?_mergeAll hlayers h hpath hv
  rw [htop, hagrees.2 (hagrees.1.symm.trans hkind)]

/-- What one layer has at a path, the merge has as well. -/
theorem exists_at?_mergeAll {l x : Value} (hl : l ∈ layers) (hx : l.at? path = some x) :
    ∃ v, (mergeAll layers).at? path = some v := by
  refine Option.ne_none_iff_exists'.1 fun hnone => ?_
  have hl := topmost?_eq_none_iff.1 (topmost?_of_at?_mergeAll_eq_none hlayers h hpath hnone) l hl
  cases hx.symm.trans hl

end Reading

end Value

end Switchboard
