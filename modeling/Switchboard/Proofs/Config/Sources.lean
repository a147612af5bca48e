import Switchboard.Config.Loader
import Switchboard.Proofs.Toml.Tidy
import Switchboard.Proofs.Value.Shape

/-!
# The layers of a configuration are tidy

A configuration is loaded from documents, from the environment and from configurations that the
program adds. Each of them gives a layer that is a tidy table.

* `Shorthand.tidy_of_value?`, `Environment.isLayer_of_layer`: what the environment sets;
* `Environment.layer_erase`: a variable that sets nothing may as well not be there;
* `Wrapping.isLayer_of_document`, `Loader.isLayer_of_readLayer`: what a file sets;
* `Config.tidy_encode`: a whole configuration as a layer.
-/

namespace Switchboard

/-! ### Shorthand -/

namespace Shorthand

theorem tidy_bare (cs : List Char) : (bare cs).Tidy := by
  unfold bare
  split
  · exact .double _
  · exact .int _
  · exact .string _

/-- Values in shorthand are tidy, with the fields of tables. -/
theorem tidy_of_readValue_readFields (fuel : Nat) :
    (∀ cs v rest, readValue fuel cs = .ok (v, rest) → v.Tidy) ∧
      ∀ cs fields rest, readFields fuel cs = .ok (fields, rest) →
        ∀ pair ∈ fields, pair.2.Tidy := by
  induction fuel with
  | zero =>
    constructor
    · intro cs v rest h
      rw [readValue] at h
      cases h
    · intro cs fields rest h
      rw [readFields] at h
      cases h
  | succ fuel ih =>
    obtain ⟨hvalue, hfields⟩ := ih
    constructor
    · intro cs v rest h
      unfold readValue at h
      simp only at h
      split at h
      · cases h
        exact .bool _
      · cases h
        exact .bool _
      · obtain ⟨found, hfound, h⟩ := bind_eq_ok_iff.1 h
        obtain ⟨⟨fields, rest'⟩, hread, rfl⟩ := map_eq_ok_iff.1 hfound
        cases h
        exact .ofPairs (hfields _ _ _ hread)
      · obtain ⟨found, hfound, h⟩ := bind_eq_ok_iff.1 h
        obtain ⟨⟨items, rest'⟩, -, rfl⟩ := map_eq_ok_iff.1 hfound
        cases h
        exact .array _
      · obtain ⟨found, hfound, h⟩ := bind_eq_ok_iff.1 h
        obtain ⟨⟨s, rest'⟩, -, rfl⟩ := map_eq_ok_iff.1 hfound
        cases h
        exact .string _
      · split at h
        · cases h
          exact .string _
        · cases h
      · cases h
        exact tidy_bare _
    · intro cs fields rest h
      unfold readFields at h
      split at h
      · cases h
        exact fun pair hpair => absurd hpair List.not_mem_nil
      · obtain ⟨⟨name, rest'⟩, -, h⟩ := bind_eq_ok_iff.1 h
        simp only at h
        split at h
        · obtain ⟨⟨v, rest'⟩, hv, h⟩ := bind_eq_ok_iff.1 h
          have htidy := hvalue _ _ _ hv
          simp only at h
          split at h
          · obtain ⟨⟨more, rest'⟩, hmore, h⟩ := bind_eq_ok_iff.1 h
            cases h
            exact List.forall_mem_cons.2 ⟨htidy, hfields _ _ _ hmore⟩
          · cases h
            exact List.forall_mem_singleton.2 htidy
          · cases h
        · cases h

theorem tidy_of_value? {text : String} {v : Value} (h : value? text = some v) : v.Tidy := by
  unfold value? at h
  simp only at h
  split at h
  next hread =>
    cases h
    exact (tidy_of_readValue_readFields _).1 _ _ _ hread
  · cases h
  · cases h
    exact .string _

end Shorthand

/-! ### The environment -/

namespace Environment

theorem tidy_nested (path : List String) {v : Value} (h : v.Tidy) : (nested path v).Tidy := by
  induction path with
  | nil => exact h
  | cons name rest ih =>
    exact .object (List.pairwise_singleton _ _) (List.forall_mem_singleton.2 ih)

theorem path?_ne_nil {name : String} {path : List String} (h : path? name = some path) :
    path ≠ [] := by
  unfold path? at h
  obtain ⟨-, h⟩ := Option.ite_none_right_eq_some.1 h
  obtain ⟨-, h⟩ := Option.ite_none_left_eq_some.1 h
  obtain ⟨-, h⟩ := Option.ite_none_left_eq_some.1 h
  rw [← Option.some.inj h]
  exact mt List.map_eq_nil_iff.1 (List.splitOn_ne_nil _ _)

/-- What a variable sets is a tidy table. -/
theorem isLayer_of_setting {name text : String} {v : Value} (h : setting name text = .ok (some v)) :
    v.IsLayer := by
  unfold setting at h
  split at h
  · cases h
  next path hpath =>
    split at h
    next w hw =>
      cases h
      refine ⟨tidy_nested path (Shorthand.tidy_of_value? hw), ?_⟩
      obtain ⟨first, rest, rfl⟩ := List.exists_cons_of_ne_nil (path?_ne_nil hpath)
      rfl
    · cases h

/-- What the variables set, one after the other. -/
def settings (environment : Table String) : Except String (List Value) :=
  (environment.mapM fun pair => setting pair.1 pair.2).map (List.filterMap id)

theorem settings_cons (name text : String) (rest : Table String) :
    settings ((name, text) :: rest) =
      (setting name text).bind fun o => (settings rest).map (o.toList ++ ·) := by
  unfold settings
  rw [List.mapM_cons]
  simp only
  cases setting name text with
  | error e => rfl
  | ok o =>
    cases rest.mapM fun pair => setting pair.1 pair.2 with
    | error e => rfl
    | ok settings => cases o <;> rfl

theorem layer_eq (environment : Table String) :
    layer environment = (settings environment).map Value.mergeAll := by
  show (environment.mapM fun pair => setting pair.1 pair.2) >>= _ = _
  unfold settings
  cases environment.mapM fun pair => setting pair.1 pair.2 <;> rfl

theorem isLayer_of_settings {environment : Table String} {layers : List Value}
    (h : settings environment = .ok layers) : ∀ l ∈ layers, l.IsLayer := by
  obtain ⟨settings, hsettings, rfl⟩ := map_eq_ok_iff.1 h
  intro l hl
  obtain ⟨o, ho, rfl⟩ := List.mem_filterMap.1 hl
  obtain ⟨pair, -, hpair⟩ := exists_of_mem_mapM hsettings ho
  exact isLayer_of_setting hpair

theorem isLayer_of_layer {environment : Table String} {v : Value} (h : layer environment = .ok v) :
    v.IsLayer := by
  rw [layer_eq] at h
  obtain ⟨layers, hlayers, rfl⟩ := map_eq_ok_iff.1 h
  exact .mergeAll (isLayer_of_settings hlayers)

/-- A variable that sets nothing may as well not be there. -/
theorem layer_erase {name : String} (h : path? name = none) (environment : Table String) :
    layer (Table.erase name environment) = layer environment := by
  have hset : ∀ text, setting name text = .ok none := by
    intro text
    unfold setting
    rw [h]
  have herase : settings (Table.erase name environment) = settings environment := by
    induction environment with
    | nil => rfl
    | cons pair rest ih =>
      obtain ⟨key, text⟩ := pair
      unfold Table.erase
      split
      next hkey =>
        rw [ih, settings_cons, ← hkey, hset]
        cases settings rest <;> rfl
      next => rw [settings_cons, settings_cons, ih]
  rw [layer_eq, layer_eq, herase]

end Environment

/-! ### Files -/

namespace Wrapping

/-- Fields whose values have become tidy one by one. -/
theorem tidy_of_forall₂ {fields fields' : List (String × Value)} (hsorted : Table.Sorted fields)
    (h : List.Forall₂ (fun p q => q.1 = p.1 ∧ q.2.Tidy) fields fields') :
    (Value.object fields').Tidy := by
  refine .object (hsorted.of_names_eq ?_) ?_
  · clear hsorted
    induction h with
    | nil => rfl
    | cons hpq _ ih => exact congrArg₂ List.cons hpq.1 ih
  · clear hsorted
    induction h with
    | nil => exact fun q hq => absurd hq List.not_mem_nil
    | cons hpq _ ih => exact List.forall_mem_cons.2 ⟨hpq.2, ih⟩

theorem tidy_collapse {fields : List (String × Value)} (h : (Value.object fields).Tidy) :
    (collapse fields).Tidy := by
  unfold collapse
  cases hv : Table.get? wrapped fields with
  | none => exact h
  | some v => exact h.get? hv

theorem forall₂_of_unwrapFields {fields fields' : List (String × Value)}
    (h : unwrapFields fields = some fields') :
    List.Forall₂ (fun p q => q.1 = p.1 ∧ unwrap p.2 = some q.2) fields fields' := by
  induction fields generalizing fields' with
  | nil =>
    rw [unwrapFields] at h
    cases h
    exact .nil
  | cons pair rest ih =>
    obtain ⟨name, v⟩ := pair
    rw [unwrapFields] at h
    split at h
    · cases h
    · obtain ⟨w, hw, h⟩ := Option.bind_eq_some_iff.1 h
      obtain ⟨rest', hrest, h⟩ := Option.bind_eq_some_iff.1 h
      cases h
      exact .cons ⟨rfl, hw⟩ (ih hrest)

theorem forall₂_of_mapM {fields fields' : List (String × Value)}
    (h : fields.mapM unwrapField = some fields') :
    List.Forall₂ (fun p q => q.1 = p.1 ∧ unwrap p.2 = some q.2) fields fields' := by
  induction fields generalizing fields' with
  | nil =>
    cases h
    exact .nil
  | cons pair rest ih =>
    rw [List.mapM_cons] at h
    obtain ⟨q, hq, h⟩ := Option.bind_eq_some_iff.1 h
    obtain ⟨rest', hrest, h⟩ := Option.bind_eq_some_iff.1 h
    obtain ⟨w, hw, rfl⟩ := Option.map_eq_some_iff.1 hq
    cases h
    exact .cons ⟨rfl, hw⟩ (ih hrest)

/-- Taking out what is wrapped keeps values tidy. -/
theorem tidy_of_unwrap {v w : Value} (hv : v.Tidy) (h : unwrap v = some w) : w.Tidy := by
  induction hv generalizing w with
  | array items =>
    rw [unwrap] at h
    obtain ⟨items', -, rfl⟩ := Option.map_eq_some_iff.1 h
    exact .array _
  | @object fields sorted values ih =>
    rw [unwrap] at h
    obtain ⟨fields', hfields, rfl⟩ := Option.map_eq_some_iff.1 h
    have hboth := (List.forall₂_and_left fields fields').2 ⟨ih, forall₂_of_unwrapFields hfields⟩
    exact tidy_collapse (tidy_of_forall₂ sorted
      (hboth.imp fun p q hpq => ⟨hpq.2.1, hpq.1 hpq.2.2⟩))
  | bool | int | double | string =>
    rw [unwrap] at h
    cases h
    constructor

theorem isLayer_of_document {v w : Value} (hv : v.Tidy) (htable : v.isTable = true)
    (h : document v = some w) : w.IsLayer := by
  cases hv with
  | object sorted values =>
    obtain ⟨fields', hfields, rfl⟩ := Option.map_eq_some_iff.1 h
    have hboth := (List.forall₂_and_left _ fields').2 ⟨values, forall₂_of_mapM hfields⟩
    exact ⟨tidy_of_forall₂ sorted (hboth.imp fun p q hpq =>
      ⟨hpq.2.1, tidy_of_unwrap hpq.1 hpq.2.2⟩), rfl⟩
  | bool | int | double | string | array => cases htable

end Wrapping

namespace Loader

theorem isLayer_of_readLayer {s : Surroundings} {path : String} {v : Value}
    (h : readLayer s path = .ok v) : v.IsLayer := by
  unfold readLayer at h
  split at h
  next w hw =>
    cases h
    obtain ⟨parsed, hparsed, hdocument⟩ := Option.bind_eq_some_iff.1 hw
    obtain ⟨text, -, hparsed⟩ := Option.bind_eq_some_iff.1 hparsed
    obtain ⟨htidy, htable⟩ := Toml.isLayer_of_parse? hparsed
    exact Wrapping.isLayer_of_document htidy htable hdocument
  next => cases h

end Loader

/-! ### Configurations as layers -/

theorem SpanEvents.tidy_encode (e : SpanEvents) : e.encode.Tidy := by
  refine .object (List.pairwise_map.1 ?_) ?_
  · show List.Pairwise (· < ·) ["close", "enter", "exit", "new"]
    decide
  · simp only [List.forall_mem_cons]
    exact ⟨.bool _, .bool _, .bool _, .bool _, by simp⟩

theorem DispatchConfig.tidy_encode (c : DispatchConfig) : c.encode.Tidy := by
  refine .object (List.pairwise_map.1 ?_) ?_
  · show List.Pairwise (· < ·) ["default_priority", "strict"]
    decide
  · simp only [List.forall_mem_cons]
    exact ⟨.int _, .bool _, by simp⟩

theorem LoggingConfig.tidy_encode {c : LoggingConfig} (h : c.filters.Sorted) : c.encode.Tidy := by
  have hfilters : (Value.object (c.filters.map fun filter =>
      (filter.1, Value.string filter.2.name))).Tidy := by
    refine .object (h.of_names_eq (by simp [Table.names, Function.comp_def])) ?_
    intro pair hpair
    obtain ⟨filter, -, rfl⟩ := List.mem_map.1 hpair
    exact .string _
  unfold encode
  cases c.filePath with
  | none =>
    refine .object (List.pairwise_map.1 ?_) ?_
    · show List.Pairwise (· < ·) ["file_location", "filters", "format", "level", "output",
        "rotation", "span_events", "thread_ids"]
      decide
    · show ∀ pair ∈ [_, _, _, _, _, _, _, _], _
      simp only [List.forall_mem_cons]
      exact ⟨.bool _, hfilters, .string _, .string _, .string _, .string _,
        c.spanEvents.tidy_encode, .bool _, by simp⟩
  | some path =>
    refine .object (List.pairwise_map.1 ?_) ?_
    · show List.Pairwise (· < ·) ["file_location", "file_path", "filters", "format", "level",
        "output", "rotation", "span_events", "thread_ids"]
      decide
    · show ∀ pair ∈ [_, _, _, _, _, _, _, _, _], _
      simp only [List.forall_mem_cons]
      exact ⟨.bool _, .string _, hfilters, .string _, .string _, .string _, .string _,
        c.spanEvents.tidy_encode, .bool _, by simp⟩

theorem BindingConfig.tidy_encode (b : BindingConfig) : b.encode.Tidy := by
  unfold encode
  cases b.priority with
  | none =>
    refine .object (List.pairwise_map.1 ?_) ?_
    · show List.Pairwise (· < ·) ["enabled", "handler", "selector"]
      decide
    · show ∀ pair ∈ [_, _, _], _
      simp only [List.forall_mem_cons]
      exact ⟨.bool _, .string _, .string _, by simp⟩
  | some n =>
    refine .object (List.pairwise_map.1 ?_) ?_
    · show List.Pairwise (· < ·) ["enabled", "handler", "priority", "selector"]
      decide
    · show ∀ pair ∈ [_, _, _, _], _
      simp only [List.forall_mem_cons]
      exact ⟨.bool _, .string _, .int _, .string _, by simp⟩

/-- A configuration gives a tidy layer, as far as its filters are in order. -/
theorem Config.tidy_encode {c : Config} (h : c.logging.filters.Sorted) : c.encode.Tidy := by
  refine .object (List.pairwise_map.1 ?_) ?_
  · show List.Pairwise (· < ·) ["bindings", "dispatch", "logging"]
    decide
  · simp only [List.forall_mem_cons]
    exact ⟨.array _, c.dispatch.tidy_encode, LoggingConfig.tidy_encode h, by simp⟩

end Switchboard
