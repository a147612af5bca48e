import Switchboard.Config.Document
import Switchboard.Proofs.Value.Shape

/-!
# What a configuration takes from a document

A configuration that is read from a document and written again has at each of its leaves what the
document has there, or else what the initial configuration has.

* `Config.Leaf`: the paths at which a configuration has no tables;
* `DispatchConfig.taken`, `SpanEvents.taken`, `LoggingConfig.taken`, `BindingConfig.taken`,
  `Config.taken`: each structure field by field;
* `Config.at?_encode`: the whole configuration leaf by leaf.
-/

namespace Switchboard

open Shape Value

/-- What has been read is written as it stood, and otherwise the initial one is. -/
theorem Shape.Taken.written {α : Type} {t : Table Value} {name : String} {shape : Shape α}
    {x initial : α} (h : Taken t name shape x initial) (ht : Tidy (.object t)) (write : α → Value)
    (hwrite : ∀ v, v.Tidy → shape v = .ok x → write x = v) :
    some (write x) = (Table.get? name t).or (some (write initial)) := by
  cases hv : Table.get? name t with
  | none => rw [h.left hv, Option.none_or]
  | some v => rw [hwrite v (ht.get? hv) (h.read v hv), Option.some_or]

/-- A choice is written by its name. -/
theorem Shape.string_of_choice {α : Type} {choices : List (String × α)} {name : α → String}
    (hnames : ∀ c ∈ choices, name c.2 = c.1) {v : Value} {x : α} (hv : v.Tidy)
    (h : choice choices v = .ok x) : Value.string (name x) = v := by
  obtain ⟨text, rfl, hmem⟩ := choice_eq_ok hv h
  rw [hnames _ hmem]

/-! ### Structures -/

/-- What the fields of a dispatch configuration have been taken from. -/
structure DispatchConfig.TakenFrom (t : Table Value) (c : DispatchConfig) : Prop where
  defaultPriority : Taken t "default_priority" int64 c.defaultPriority standardPriority
  strict : Taken t "strict" bool c.strict false

theorem DispatchConfig.taken {surplus : Surplus} {t : Table Value} (ht : t.Sorted)
    {c : DispatchConfig} (h : decode surplus (.object t) = .ok c) : c.TakenFrom t := by
  have hstore : storeFields fields t default = .ok c := h
  constructor
  all_goals
    refine taken_of_storeFields rfl (sets_field fun _ _ => rfl) ?_ ht hstore
    intro g hg hne
    simp only [fields, List.mem_cons, List.not_mem_nil, or_false] at hg
    rcases hg with rfl | rfl
    all_goals first | exact absurd rfl hne | exact keeps_field fun _ _ => rfl

/-- What the fields of span events have been taken from. -/
structure SpanEvents.TakenFrom (t : Table Value) (e : SpanEvents) : Prop where
  opened : Taken t "new" bool e.opened false
  entered : Taken t "enter" bool e.entered false
  left : Taken t "exit" bool e.left false
  closed : Taken t "close" bool e.closed false

theorem SpanEvents.taken {surplus : Surplus} {t : Table Value} (ht : t.Sorted) {e : SpanEvents}
    (h : decode surplus (.object t) = .ok e) : e.TakenFrom t := by
  have hstore : storeFields fields t default = .ok e := h
  constructor
  all_goals
    refine taken_of_storeFields rfl (sets_field fun _ _ => rfl) ?_ ht hstore
    intro g hg hne
    simp only [fields, List.mem_cons, List.not_mem_nil, or_false] at hg
    rcases hg with rfl | rfl | rfl | rfl
    all_goals first | exact absurd rfl hne | exact keeps_field fun _ _ => rfl

/-- What the fields of a logging configuration have been taken from. -/
structure LoggingConfig.TakenFrom (surplus : Surplus) (t : Table Value) (c : LoggingConfig) :
    Prop where
  level : Taken t "level" (choice Level.choices) c.level .info
  format : Taken t "format" (choice LogFormat.choices) c.format .compact
  output : Taken t "output" (choice LogOutput.choices) c.output .stdout
  spanEvents : Taken t "span_events" (SpanEvents.decode surplus) c.spanEvents default
  threadIds : Taken t "thread_ids" bool c.threadIds false
  fileLocation : Taken t "file_location" bool c.fileLocation false
  filePath : Taken t "file_path" (option path) c.filePath none
  rotation : Taken t "rotation" (choice LogRotation.choices) c.rotation .never
  filters : Taken t "filters" (table (choice Level.choices)) c.filters []

theorem LoggingConfig.taken {surplus : Surplus} {t : Table Value} (ht : t.Sorted)
    {c : LoggingConfig} (h : decode surplus (.object t) = .ok c) : c.TakenFrom surplus t := by
  have hstore : storeFields (fields surplus) t default = .ok c := h
  constructor
  all_goals
    refine taken_of_storeFields rfl (sets_field fun _ _ => rfl) ?_ ht hstore
    intro g hg hne
    simp only [fields, List.mem_cons, List.not_mem_nil, or_false] at hg
    rcases hg with rfl | rfl | rfl | rfl | rfl | rfl | rfl | rfl | rfl
    all_goals first | exact absurd rfl hne | exact keeps_field fun _ _ => rfl

/-- What the fields of a binding have been taken from. -/
structure BindingConfig.TakenFrom (t : Table Value) (b : BindingConfig) : Prop where
  selector : Taken t "selector" text b.selector ""
  handler : Taken t "handler" text b.handler ""
  priority : Taken t "priority" (option int64) b.priority none
  enabled : Taken t "enabled" bool b.enabled true

theorem BindingConfig.taken {surplus : Surplus} {t : Table Value} (ht : t.Sorted)
    {b : BindingConfig} (h : decode surplus (.object t) = .ok b) : b.TakenFrom t := by
  have hstore : storeFields fields t initial = .ok b := h
  constructor
  all_goals
    refine taken_of_storeFields rfl (sets_field fun _ _ => rfl) ?_ ht hstore
    intro g hg hne
    simp only [fields, List.mem_cons, List.not_mem_nil, or_false] at hg
    rcases hg with rfl | rfl | rfl | rfl
    all_goals first | exact absurd rfl hne | exact keeps_field fun _ _ => rfl

/-- What the fields of a configuration have been taken from. -/
structure Config.TakenFrom (surplus : Surplus) (t : Table Value) (c : Config) : Prop where
  dispatch : Taken t "dispatch" (DispatchConfig.decode surplus) c.dispatch default
  logging : Taken t "logging" (LoggingConfig.decode surplus) c.logging default
  bindings : Taken t "bindings" (list (BindingConfig.decode surplus)) c.bindings []

theorem Config.taken {surplus : Surplus} {t : Table Value} (ht : t.Sorted) {c : Config}
    (h : decode surplus (.object t) = .ok c) : c.TakenFrom surplus t := by
  have hstore : storeFields (fields surplus) t default = .ok c := h
  constructor
  all_goals
    refine taken_of_storeFields rfl (sets_field fun _ _ => rfl) ?_ ht hstore
    intro g hg hne
    simp only [fields, List.mem_cons, List.not_mem_nil, or_false] at hg
    rcases hg with rfl | rfl | rfl
    all_goals first | exact absurd rfl hne | exact keeps_field fun _ _ => rfl

/-! ### Leaves -/

theorem Value.at?_singleton (name : String) (v : Value) : v.at? [name] = v.field? name := by
  show (v.field? name).bind some = _
  exact Option.bind_fun_some _

theorem Value.at?_cons_of_field? {name : String} {v w : Value} (h : v.field? name = some w)
    (rest : List String) : v.at? (name :: rest) = w.at? rest := by
  show (v.field? name).bind _ = _
  rw [h, Option.bind_some]

/-- What a table of a written configuration has under a name is what the document has there, or
what the initial configuration has. -/
def Rewrites (written : Value) (t : Table Value) (initial : Value) (name : String) : Prop :=
  written.field? name = (Table.get? name t).or (initial.field? name)

theorem DispatchConfig.rewrites {surplus : Surplus} {t : Table Value} (ht : Tidy (.object t))
    {c : DispatchConfig} (h : decode surplus (.object t) = .ok c) {name : String}
    (hname : name ∈ ["default_priority", "strict"]) :
    Rewrites c.encode t (default : DispatchConfig).encode name := by
  obtain ⟨hpriority, hstrict⟩ := taken ht.sorted h
  simp only [List.mem_cons, List.not_mem_nil, or_false] at hname
  rcases hname with rfl | rfl
  · exact hpriority.written ht .int fun v _ hv => (eq_int_of_ok hv).symm
  · exact hstrict.written ht .bool fun v _ hv => (bool_eq_ok_iff.1 hv).symm

theorem SpanEvents.rewrites {surplus : Surplus} {t : Table Value} (ht : Tidy (.object t))
    {e : SpanEvents} (h : decode surplus (.object t) = .ok e) {name : String}
    (hname : name ∈ ["new", "enter", "exit", "close"]) :
    Rewrites e.encode t (default : SpanEvents).encode name := by
  have hbool : ∀ {b : Bool} (v : Value), v.Tidy → bool v = .ok b → Value.bool b = v :=
    fun v _ hv => (bool_eq_ok_iff.1 hv).symm
  obtain ⟨hopened, hentered, hleft, hclosed⟩ := taken ht.sorted h
  simp only [List.mem_cons, List.not_mem_nil, or_false] at hname
  rcases hname with rfl | rfl | rfl | rfl
  · exact hopened.written ht .bool hbool
  · exact hentered.written ht .bool hbool
  · exact hleft.written ht .bool hbool
  · exact hclosed.written ht .bool hbool

/-- Filters are written as they stood. -/
theorem LoggingConfig.write_filters {v : Value} {filters : Table Level} (hv : v.Tidy)
    (h : table (choice Level.choices) v = .ok filters) :
    Value.object (filters.map fun (name, level) => (name, .string level.name)) = v := by
  obtain ⟨fields, rfl, hfields⟩ := table_eq_ok h
  have hboth := (List.forall₂_and_left fields filters).2 ⟨hv.values, hfields⟩
  congr 1
  clear hv h hfields
  induction hboth with
  | nil => rfl
  | @cons p q _ _ hpq _ ih =>
    obtain ⟨htidy, hname, hlevel⟩ := hpq
    obtain ⟨name, v⟩ := p
    rw [List.map_cons, ih]
    show (q.1, Value.string q.2.name) :: _ = _
    rw [string_of_choice (by decide) htidy hlevel, ← hname]

/-- A path that is left out does not move the other fields. -/
theorem LoggingConfig.field?_encode_of_ne (c : LoggingConfig) {name : String}
    (h : name ≠ "file_path") :
    c.encode.field? name = ({ c with filePath := none } : LoggingConfig).encode.field? name := by
  unfold encode
  cases c.filePath with
  | none => rfl
  | some path =>
    simp only [Option.toList_some, Option.toList_none, List.map_cons, List.map_nil,
      List.cons_append, List.nil_append, field?, Table.get?, if_neg h]

theorem LoggingConfig.field?_encode_file_path (c : LoggingConfig) :
    c.encode.field? "file_path" = c.filePath.map .string := by
  unfold encode
  cases c.filePath <;> rfl

theorem LoggingConfig.field?_encode_span_events (c : LoggingConfig) :
    c.encode.field? "span_events" = some c.spanEvents.encode :=
  c.field?_encode_of_ne (by decide)

theorem LoggingConfig.field?_encode_filters (c : LoggingConfig) :
    c.encode.field? "filters" =
      some (.object (c.filters.map fun (name, level) => (name, .string level.name))) :=
  c.field?_encode_of_ne (by decide)

theorem LoggingConfig.rewrites_file_path {surplus : Surplus} {t : Table Value}
    (ht : Tidy (.object t)) {c : LoggingConfig} (h : decode surplus (.object t) = .ok c) :
    Rewrites c.encode t (default : LoggingConfig).encode "file_path" := by
  have hpath := (taken ht.sorted h).filePath
  rw [Rewrites, field?_encode_file_path, field?_encode_file_path]
  cases hv : Table.get? "file_path" t with
  | none =>
    rw [hpath.left hv]
    rfl
  | some v =>
    obtain ⟨path, hread, hsome⟩ := option_eq_ok (ht.get? hv) (hpath.read v hv)
    rw [hsome, string_eq_ok_iff.1 hread]
    rfl

theorem LoggingConfig.rewrites {surplus : Surplus} {t : Table Value} (ht : Tidy (.object t))
    {c : LoggingConfig} (h : decode surplus (.object t) = .ok c) {name : String}
    (hname : name ∈ ["level", "format", "output", "thread_ids", "file_location", "file_path",
      "rotation", "filters"]) :
    Rewrites c.encode t (default : LoggingConfig).encode name := by
  by_cases hne : name = "file_path"
  · rw [hne]
    exact rewrites_file_path ht h
  have hbool : ∀ {b : Bool} (v : Value), v.Tidy → bool v = .ok b → Value.bool b = v :=
    fun v _ hv => (bool_eq_ok_iff.1 hv).symm
  have htaken := taken ht.sorted h
  rw [Rewrites, field?_encode_of_ne c hne]
  simp only [List.mem_cons, List.not_mem_nil, or_false, hne, false_or] at hname
  rcases hname with rfl | rfl | rfl | rfl | rfl | rfl | rfl
  · exact htaken.level.written ht (fun x => .string x.name) fun v => string_of_choice (by decide)
  · exact htaken.format.written ht (fun x => .string x.name) fun v => string_of_choice (by decide)
  · exact htaken.output.written ht (fun x => .string x.name) fun v => string_of_choice (by decide)
  · exact htaken.threadIds.written ht .bool hbool
  · exact htaken.fileLocation.written ht .bool hbool
  · exact htaken.rotation.written ht (fun x => .string x.name) fun v => string_of_choice (by decide)
  · exact htaken.filters.written ht
      (fun filters => .object (filters.map fun (name, level) => (name, .string level.name)))
      fun v => write_filters

/-- The paths at which a configuration has no tables, but for its bindings. -/
inductive Config.Leaf : List String → Prop
  | dispatch {name : String} (h : name ∈ ["default_priority", "strict"]) : Leaf ["dispatch", name]
  | logging {name : String} (h : name ∈ ["level", "format", "output", "thread_ids",
      "file_location", "file_path", "rotation"]) : Leaf ["logging", name]
  | spanEvent {name : String} (h : name ∈ ["new", "enter", "exit", "close"]) :
    Leaf ["logging", "span_events", name]
  | filter (module : String) : Leaf ["logging", "filters", module]

/-- At a leaf a configuration has no table. -/
theorem Config.Leaf.isTable_eq_false {path : List String} (hpath : Leaf path) {c : Config}
    {x : Value} (hx : c.encode.at? path = some x) : x.isTable = false := by
  cases hpath with
  | dispatch hname =>
    simp only [List.mem_cons, List.not_mem_nil, or_false] at hname
    rcases hname with rfl | rfl
    all_goals
      cases hx
      rfl
  | @logging name hname =>
    have hx : c.logging.encode.at? [name] = some x := hx
    rw [at?_singleton] at hx
    by_cases hne : name = "file_path"
    · rw [hne, LoggingConfig.field?_encode_file_path] at hx
      obtain ⟨path, -, rfl⟩ := Option.map_eq_some_iff.1 hx
      rfl
    · rw [LoggingConfig.field?_encode_of_ne _ hne] at hx
      simp only [List.mem_cons, List.not_mem_nil, or_false, hne, false_or] at hname
      rcases hname with rfl | rfl | rfl | rfl | rfl | rfl
      all_goals
        cases hx
        rfl
  | @spanEvent name hname =>
    have hx : c.logging.encode.at? ["span_events", name] = some x := hx
    rw [at?_cons_of_field? c.logging.field?_encode_span_events] at hx
    simp only [List.mem_cons, List.not_mem_nil, or_false] at hname
    rcases hname with rfl | rfl | rfl | rfl
    all_goals
      cases hx
      rfl
  | filter module =>
    have hx : c.logging.encode.at? ["filters", module] = some x := hx
    rw [at?_cons_of_field? c.logging.field?_encode_filters, at?_singleton] at hx
    obtain ⟨filter, -, hfilter⟩ := List.mem_map.1 (Table.mem_of_get? hx)
    cases hfilter
    rfl

/-- The paths at which a configuration has tables. -/
def Config.tables : List (List String) :=
  [[], ["dispatch"], ["logging"], ["logging", "span_events"], ["logging", "filters"]]

/-- The way to a leaf leads through tables. -/
theorem Config.Leaf.mem_tables {path : List String} (hpath : Leaf path) :
    ∀ front ∈ path.dropLast.inits, front ∈ tables := by
  cases hpath with
  | dispatch =>
    show ∀ front ∈ ["dispatch"].inits, front ∈ tables
    decide
  | logging =>
    show ∀ front ∈ ["logging"].inits, front ∈ tables
    decide
  | spanEvent =>
    show ∀ front ∈ ["logging", "span_events"].inits, front ∈ tables
    decide
  | filter =>
    show ∀ front ∈ ["logging", "filters"].inits, front ∈ tables
    decide

/-- A configuration that has been read is written with the leaves of the document, and with those of
the initial configuration where the document has none. -/
theorem Config.at?_encode {surplus : Surplus} {v : Value} (hv : v.Tidy) {c : Config}
    (h : decode surplus v = .ok c)
    (htables : ∀ path ∈ tables, ∃ fields, v.at? path = some (.object fields))
    {path : List String} (hpath : Leaf path) :
    c.encode.at? path = (v.at? path).or ((default : Config).encode.at? path) := by
  -- the tables that have been read are those of the document, so that each leaf is a field of one
  obtain ⟨t, ht⟩ := htables [] (by decide)
  obtain ⟨dispatch, hdispatch⟩ := htables ["dispatch"] (by decide)
  obtain ⟨logging, hlogging⟩ := htables ["logging"] (by decide)
  obtain ⟨events, hevents⟩ := htables ["logging", "span_events"] (by decide)
  cases ht
  rw [at?_singleton] at hdispatch hlogging
  rw [at?_cons_of_field? hlogging, at?_singleton] at hevents
  have htaken := taken hv.sorted h
  have hread := htaken.logging.read _ hlogging
  have htidy := hv.get? hlogging
  cases hpath with
  | @dispatch name hname =>
    rw [at?_cons_of_field? hdispatch, at?_singleton]
    have hrewrites := DispatchConfig.rewrites (hv.get? hdispatch)
      (htaken.dispatch.read _ hdispatch) hname
    exact (at?_singleton name c.dispatch.encode).trans
      (hrewrites.trans (congrArg _ (at?_singleton name _).symm))
  | @logging name hname =>
    rw [at?_cons_of_field? hlogging, at?_singleton]
    have hrewrites := LoggingConfig.rewrites htidy hread (List.mem_append_left ["filters"] hname)
    exact (at?_singleton name c.logging.encode).trans
      (hrewrites.trans (congrArg _ (at?_singleton name _).symm))
  | @spanEvent name hname =>
    rw [at?_cons_of_field? hlogging, at?_cons_of_field? hevents, at?_singleton]
    have hrewrites := SpanEvents.rewrites (htidy.get? hevents)
      ((LoggingConfig.taken htidy.sorted hread).spanEvents.read _ hevents) hname
    exact (at?_cons_of_field? c.logging.field?_encode_span_events [name]).trans
      ((at?_singleton name _).trans (hrewrites.trans (congrArg _ (at?_singleton name _).symm)))
  | filter module =>
    rw [at?_cons_of_field? hlogging]
    have hrewrites : c.logging.encode.field? "filters" = (Table.get? "filters" logging).or _ :=
      LoggingConfig.rewrites htidy hread (by decide)
    show (c.logging.encode.field? "filters").bind _ = ((Table.get? "filters" logging).bind _).or none
    rw [hrewrites, Option.or_none]
    cases Table.get? "filters" logging <;> rfl

end Switchboard
