import Switchboard.Proofs.Config.Document

/-!
# Fields that a document leaves out

A document need not give all fields of a configuration. A `Part` of a structure has those that are
given, on each level, and `Part.SaidBy` tells of a table that it gives just these, in the shapes of
the fields. Names that are no fields may stand beside them.

Such a table can always be read, and a structure has its default value in each field that is left
out: `SpanEvents.decode_part`, `DispatchConfig.decode_part`, `LoggingConfig.decode_part`. A binding
is the exception, as it is enabled if the table does not say so while the default one is not:
`BindingConfig.decode_part`, and `Config.decode_part` for what follows. `decode_parts` is all of it.
-/

namespace Switchboard

open Shape

/-! ### Given fields -/

section Given

variable {α β σ : Type}

/-- What a table has under a name says this, and nothing is given there if the table has nothing. -/
def Given (t : Table Value) (name : String) (means : Value → α → Prop) (x : Option α) : Prop :=
  Option.Rel means (Table.get? name t) x

/-- The value is a table that says this. -/
def InTable (means : Table Value → α → Prop) (v : Value) (x : α) : Prop :=
  ∃ t : Table Value, v = .object t ∧ t.Sorted ∧ means t x

/-- The value is an array whose items say these, one each. -/
def InArray (means : Value → α → Prop) (v : Value) (xs : List α) : Prop :=
  ∃ items, v = .array items ∧ List.Forall₂ means items xs

/-- What a reader makes of a value. -/
def Shape.Reads (shape : Shape α) (v : Value) (x : α) : Prop := shape v = .ok x

theorem Given.map {t : Table Value} {name : String} {means : Value → α → Prop} {x : Option α}
    (h : Given t name means x) {means' : Value → β → Prop} {f : α → β}
    (himp : ∀ v a, means v a → means' v (f a)) : Given t name means' (x.map f) := by
  unfold Given at h ⊢
  generalize Table.get? name t = found at h ⊢
  cases h with
  | none => exact .none
  | some hmeans => exact .some (himp _ _ hmeans)

theorem InTable.reads {means : Table Value → α → Prop} {shape : Shape β} {f : α → β}
    (hread : ∀ t, t.Sorted → ∀ x, means t x → shape (.object t) = .ok (f x)) (v : Value) (x : α)
    (h : InTable means v x) : shape.Reads v (f x) := by
  obtain ⟨t, rfl, ht, hmeans⟩ := h
  exact hread t ht x hmeans

theorem InArray.reads {means : Value → α → Prop} {shape : Shape β} {f : α → β}
    (hread : ∀ v x, means v x → shape.Reads v (f x)) (v : Value) (xs : List α)
    (h : InArray means v xs) : (Shape.list shape).Reads v (xs.map f) := by
  obtain ⟨items, rfl, hitems⟩ := h
  exact mapM_eq_ok_iff.2 (List.forall₂_map_right_iff.2 (hitems.imp hread))

/-- What has been read of a field is what is given there, or else the initial one. -/
theorem Shape.Taken.eq_getD {t : Table Value} {name : String} {shape : Shape α} {x initial : α}
    (h : Taken t name shape x initial) {given : Option α}
    (hgiven : Given t name shape.Reads given) : x = given.getD initial := by
  unfold Given at hgiven
  cases hv : Table.get? name t with
  | none =>
    rw [hv] at hgiven
    cases hgiven
    exact h.left hv
  | some v =>
    rw [hv] at hgiven
    cases hgiven with
    | some hread => exact Except.ok.inj ((h.read v hv).symm.trans hread)

/-- What a table has for a field can be stored. -/
def Shape.Field.Fits (f : Field σ) (t : Table Value) : Prop :=
  ∀ v, Table.get? f.name t = some v → ∀ s, ∃ s', f.store v s = .ok s'

theorem Given.fits {t : Table Value} {name : String} {shape : Shape α} {x : Option α}
    (h : Given t name shape.Reads x) (set : α → σ → σ) : (field name shape set).Fits t := by
  intro v hv s
  have hv : Table.get? name t = some v := hv
  unfold Given at h
  rw [hv] at h
  cases h with
  | @some _ a hread => exact ⟨set a s, map_eq_ok_iff.2 ⟨a, hread, rfl⟩⟩

/-- A structure can be read from a table that fits all its fields. -/
theorem Shape.exists_storeFields {fields : List (Field σ)} {t : Table Value} (ht : t.Sorted)
    (h : ∀ f ∈ fields, f.Fits t) (s : σ) : ∃ s', storeFields fields t s = .ok s' := by
  have hpairs : ∀ pair ∈ t, ∀ f ∈ fields, f.name = pair.1 →
      ∀ s, ∃ s', f.store pair.2 s = .ok s' := by
    rintro ⟨name, v⟩ hpair f hf rfl
    exact h f hf v (ht.get?_eq_some_iff.2 hpair)
  clear h ht
  induction t generalizing s with
  | nil => exact ⟨s, rfl⟩
  | cons pair rest ih =>
    obtain ⟨hpair, hrest⟩ := List.forall_mem_cons.1 hpairs
    obtain ⟨name, v⟩ := pair
    rw [storeFields]
    split
    next f hf =>
      have hname : f.name = name := by simpa using List.find?_some hf
      obtain ⟨between, hstore⟩ := hpair f (List.mem_of_find?_eq_some hf) hname s
      rw [hstore]
      exact ih between hrest
    next => exact ih s hrest

end Given

/-! ### Span events -/

namespace SpanEvents

/-- Some of the fields of span events. -/
structure Part where
  opened : Option Bool
  entered : Option Bool
  left : Option Bool
  closed : Option Bool

/-- The default span events with the given fields in place of theirs. -/
def Part.filled (p : Part) : SpanEvents :=
  let base : SpanEvents := default
  { opened := p.opened.getD base.opened
    entered := p.entered.getD base.entered
    left := p.left.getD base.left
    closed := p.closed.getD base.closed }

/-- The table gives just these fields. -/
structure Part.SaidBy (t : Table Value) (p : Part) : Prop where
  opened : Given t "new" bool.Reads p.opened
  entered : Given t "enter" bool.Reads p.entered
  left : Given t "exit" bool.Reads p.left
  closed : Given t "close" bool.Reads p.closed

theorem decode_part (surplus : Surplus) (t : Table Value) (ht : t.Sorted) (p : Part)
    (h : p.SaidBy t) : decode surplus (.object t) = .ok p.filled := by
  have hfits : ∀ f ∈ fields, f.Fits t := by
    simp only [fields, List.forall_mem_cons]
    exact ⟨h.opened.fits _, h.entered.fits _, h.left.fits _, h.closed.fits _, by simp⟩
  obtain ⟨e, he⟩ : ∃ e, decode surplus (.object t) = .ok e :=
    exists_storeFields ht hfits default
  have htaken := taken ht he
  refine he.trans (congrArg Except.ok ?_)
  cases e
  simp only [Part.filled, mk.injEq]
  exact ⟨htaken.opened.eq_getD h.opened, htaken.entered.eq_getD h.entered,
    htaken.left.eq_getD h.left, htaken.closed.eq_getD h.closed⟩

end SpanEvents

/-! ### Dispatch -/

namespace DispatchConfig

/-- Some of the fields of a dispatch configuration. -/
structure Part where
  defaultPriority : Option Int
  strict : Option Bool

/-- The default dispatch configuration with the given fields in place of its own. -/
def Part.filled (p : Part) : DispatchConfig :=
  let base : DispatchConfig := default
  { defaultPriority := p.defaultPriority.getD base.defaultPriority
    strict := p.strict.getD base.strict }

/-- The table gives just these fields. -/
structure Part.SaidBy (t : Table Value) (p : Part) : Prop where
  defaultPriority : Given t "default_priority" int64.Reads p.defaultPriority
  strict : Given t "strict" bool.Reads p.strict

theorem decode_part (surplus : Surplus) (t : Table Value) (ht : t.Sorted) (p : Part)
    (h : p.SaidBy t) : decode surplus (.object t) = .ok p.filled := by
  have hfits : ∀ f ∈ fields, f.Fits t := by
    simp only [fields, List.forall_mem_cons]
    exact ⟨h.defaultPriority.fits _, h.strict.fits _, by simp⟩
  obtain ⟨c, hc⟩ : ∃ c, decode surplus (.object t) = .ok c :=
    exists_storeFields ht hfits default
  have htaken := taken ht hc
  refine hc.trans (congrArg Except.ok ?_)
  cases c
  simp only [Part.filled, mk.injEq]
  exact ⟨htaken.defaultPriority.eq_getD h.defaultPriority, htaken.strict.eq_getD h.strict⟩

end DispatchConfig

/-! ### Logging -/

namespace LoggingConfig

/-- Some of the fields of a logging configuration, and of its span events. -/
structure Part where
  level : Option Level
  format : Option LogFormat
  output : Option LogOutput
  spanEvents : Option SpanEvents.Part
  threadIds : Option Bool
  fileLocation : Option Bool
  filePath : Option (Option String)
  rotation : Option LogRotation
  filters : Option (Table Level)

/-- The default logging configuration with the given fields in place of its own. -/
def Part.filled (p : Part) : LoggingConfig :=
  let base : LoggingConfig := default
  { level := p.level.getD base.level
    format := p.format.getD base.format
    output := p.output.getD base.output
    spanEvents := (p.spanEvents.map SpanEvents.Part.filled).getD base.spanEvents
    threadIds := p.threadIds.getD base.threadIds
    fileLocation := p.fileLocation.getD base.fileLocation
    filePath := p.filePath.getD base.filePath
    rotation := p.rotation.getD base.rotation
    filters := p.filters.getD base.filters }

/-- The table gives just these fields. -/
structure Part.SaidBy (t : Table Value) (p : Part) : Prop where
  level : Given t "level" (choice Level.choices).Reads p.level
  format : Given t "format" (choice LogFormat.choices).Reads p.format
  output : Given t "output" (choice LogOutput.choices).Reads p.output
  spanEvents : Given t "span_events" (InTable fun t p => SpanEvents.Part.SaidBy t p) p.spanEvents
  threadIds : Given t "thread_ids" bool.Reads p.threadIds
  fileLocation : Given t "file_location" bool.Reads p.fileLocation
  filePath : Given t "file_path" (option path).Reads p.filePath
  rotation : Given t "rotation" (choice LogRotation.choices).Reads p.rotation
  filters : Given t "filters" (table (choice Level.choices)).Reads p.filters

theorem decode_part (surplus : Surplus) (t : Table Value) (ht : t.Sorted) (p : Part)
    (h : p.SaidBy t) : decode surplus (.object t) = .ok p.filled := by
  have hevents := h.spanEvents.map (InTable.reads (SpanEvents.decode_part surplus))
  have hfits : ∀ f ∈ fields surplus, f.Fits t := by
    simp only [fields, List.forall_mem_cons]
    exact ⟨h.level.fits _, h.format.fits _, h.output.fits _, hevents.fits _, h.threadIds.fits _,
      h.fileLocation.fits _, h.filePath.fits _, h.rotation.fits _, h.filters.fits _, by simp⟩
  obtain ⟨c, hc⟩ : ∃ c, decode surplus (.object t) = .ok c :=
    exists_storeFields ht hfits default
  have htaken := taken ht hc
  refine hc.trans (congrArg Except.ok ?_)
  cases c
  simp only [Part.filled, mk.injEq]
  exact ⟨htaken.level.eq_getD h.level, htaken.format.eq_getD h.format,
    htaken.output.eq_getD h.output, htaken.spanEvents.eq_getD hevents,
    htaken.threadIds.eq_getD h.threadIds, htaken.fileLocation.eq_getD h.fileLocation,
    htaken.filePath.eq_getD h.filePath, htaken.rotation.eq_getD h.rotation,
    htaken.filters.eq_getD h.filters⟩

end LoggingConfig

/-! ### Bindings -/

namespace BindingConfig

/-- Some of the fields of a binding. -/
structure Part where
  selector : Option String
  handler : Option String
  priority : Option (Option Int)
  enabled : Option Bool

/-- The default binding with the given fields in place of its own. -/
def Part.filled (p : Part) : BindingConfig :=
  let base : BindingConfig := default
  { selector := p.selector.getD base.selector
    handler := p.handler.getD base.handler
    priority := p.priority.getD base.priority
    enabled := p.enabled.getD base.enabled }

/-- The binding that is read: it is enabled if nothing is given there. -/
def Part.read (p : Part) : BindingConfig := { p.filled with enabled := p.enabled.getD true }

/-- The table gives just these fields. -/
structure Part.SaidBy (t : Table Value) (p : Part) : Prop where
  selector : Given t "selector" text.Reads p.selector
  handler : Given t "handler" text.Reads p.handler
  priority : Given t "priority" (option int64).Reads p.priority
  enabled : Given t "enabled" bool.Reads p.enabled

theorem Part.read_eq_filled_iff {p : Part} : p.read = p.filled ↔ p.enabled.isSome := by
  unfold read
  cases henabled : p.enabled with
  | none =>
    have hdisabled : p.filled.enabled = false := by rw [filled, henabled]; rfl
    refine iff_of_false (fun h => ?_) (by simp)
    rw [← h] at hdisabled
    cases hdisabled
  | some enabled =>
    refine iff_of_true ?_ rfl
    simp only [filled, henabled, Option.getD_some]

theorem decode_part (surplus : Surplus) (t : Table Value) (ht : t.Sorted) (p : Part)
    (h : p.SaidBy t) : decode surplus (.object t) = .ok p.read := by
  have hfits : ∀ f ∈ fields, f.Fits t := by
    simp only [fields, List.forall_mem_cons]
    exact ⟨h.selector.fits _, h.handler.fits _, h.priority.fits _, h.enabled.fits _, by simp⟩
  obtain ⟨b, hb⟩ : ∃ b, decode surplus (.object t) = .ok b :=
    exists_storeFields ht hfits initial
  have htaken := taken ht hb
  refine hb.trans (congrArg Except.ok ?_)
  cases b
  simp only [Part.read, Part.filled, mk.injEq]
  exact ⟨htaken.selector.eq_getD h.selector, htaken.handler.eq_getD h.handler,
    htaken.priority.eq_getD h.priority, htaken.enabled.eq_getD h.enabled⟩

end BindingConfig

/-! ### Configurations -/

namespace Config

/-- Some of the fields of a configuration, and of the structures in it. -/
structure Part where
  dispatch : Option DispatchConfig.Part
  logging : Option LoggingConfig.Part
  bindings : Option (List BindingConfig.Part)

/-- The default configuration with the given fields in place of its own. -/
def Part.filled (p : Part) : Config :=
  let base : Config := default
  { dispatch := (p.dispatch.map DispatchConfig.Part.filled).getD base.dispatch
    logging := (p.logging.map LoggingConfig.Part.filled).getD base.logging
    bindings := (p.bindings.map (List.map BindingConfig.Part.filled)).getD base.bindings }

/-- The configuration that is read, with its bindings as they are read. -/
def Part.read (p : Part) : Config :=
  { p.filled with bindings := (p.bindings.map (List.map BindingConfig.Part.read)).getD [] }

/-- The table gives just these fields. -/
structure Part.SaidBy (t : Table Value) (p : Part) : Prop where
  dispatch : Given t "dispatch" (InTable fun t p => DispatchConfig.Part.SaidBy t p) p.dispatch
  logging : Given t "logging" (InTable fun t p => LoggingConfig.Part.SaidBy t p) p.logging
  bindings : Given t "bindings" (InArray (InTable fun t p => BindingConfig.Part.SaidBy t p))
    p.bindings

theorem Part.read_eq_filled_iff {p : Part} :
    p.read = p.filled ↔ ∀ parts ∈ p.bindings, ∀ b ∈ parts, b.enabled.isSome := by
  unfold read filled
  cases p.bindings with
  | none => exact iff_of_true rfl (by simp)
  | some parts => simp [BindingConfig.Part.read_eq_filled_iff]

theorem decode_part (surplus : Surplus) (t : Table Value) (ht : t.Sorted) (p : Part)
    (h : p.SaidBy t) : decode surplus (.object t) = .ok p.read := by
  have hdispatch := h.dispatch.map (InTable.reads (DispatchConfig.decode_part surplus))
  have hlogging := h.logging.map (InTable.reads (LoggingConfig.decode_part surplus))
  have hbindings :=
    h.bindings.map (InArray.reads (InTable.reads (BindingConfig.decode_part surplus)))
  have hfits : ∀ f ∈ fields surplus, f.Fits t := by
    simp only [fields, List.forall_mem_cons]
    exact ⟨hdispatch.fits _, hlogging.fits _, hbindings.fits _, by simp⟩
  obtain ⟨c, hc⟩ : ∃ c, decode surplus (.object t) = .ok c :=
    exists_storeFields ht hfits default
  have htaken := taken ht hc
  refine hc.trans (congrArg Except.ok ?_)
  cases c
  simp only [Part.read, Part.filled, mk.injEq]
  exact ⟨htaken.dispatch.eq_getD hdispatch, htaken.logging.eq_getD hlogging,
    htaken.bindings.eq_getD hbindings⟩

end Config

/-- A table that gives some fields of a structure, on all levels, can be read, and comes to the
default structure with these fields in place of its own. For a binding this is so exactly if the
table says whether it is enabled, and for a configuration if all its bindings say so. A binding that
does not is read as an enabled one, which the default binding is not. -/
theorem decode_parts (surplus : Surplus) {t : Table Value} (ht : t.Sorted) :
    (∀ p : SpanEvents.Part, p.SaidBy t → SpanEvents.decode surplus (.object t) = .ok p.filled) ∧
      (∀ p : DispatchConfig.Part, p.SaidBy t →
        DispatchConfig.decode surplus (.object t) = .ok p.filled) ∧
      (∀ p : LoggingConfig.Part, p.SaidBy t →
        LoggingConfig.decode surplus (.object t) = .ok p.filled) ∧
      (∀ p : BindingConfig.Part, p.SaidBy t →
        BindingConfig.decode surplus (.object t) = .ok p.read ∧
          (p.read = p.filled ↔ p.enabled.isSome)) ∧
      ∀ p : Config.Part, p.SaidBy t →
        Config.decode surplus (.object t) = .ok p.read ∧
          (p.read = p.filled ↔ ∀ parts ∈ p.bindings, ∀ b ∈ parts, b.enabled.isSome) :=
  ⟨SpanEvents.decode_part surplus t ht, DispatchConfig.decode_part surplus t ht,
    LoggingConfig.decode_part surplus t ht,
    fun p h => ⟨BindingConfig.decode_part surplus t ht p h, BindingConfig.Part.read_eq_filled_iff⟩,
    fun p h => ⟨Config.decode_part surplus t ht p h, Config.Part.read_eq_filled_iff⟩⟩

/-- A document with some fields on each level. -/
def sparseDocument : Table Value :=
  [("bindings",
      .array [.object [("enabled", .bool false)], .object [("handler", .string "audit")]]),
    ("logging",
      .object [("level", .string "debug"), ("span_events", .object [("exit", .bool true)])])]

/-- The fields of that document. -/
def sparsePart : Config.Part :=
  { dispatch := none
    logging := some ⟨some .debug, none, none, some ⟨none, none, some true, none⟩, none, none, none,
      none, none⟩
    bindings := some [⟨none, none, none, some false⟩, ⟨none, some "audit", none, none⟩] }

theorem decode_parts_sparse :
    sparsePart.SaidBy sparseDocument ∧
      Config.decode .refused (.object sparseDocument) = .ok sparsePart.read ∧
      sparsePart.read ≠ sparsePart.filled := by
  have hsorted : sparseDocument.Sorted := List.pairwise_pair.2 (by decide)
  have hevents : SpanEvents.Part.SaidBy [("exit", .bool true)] ⟨none, none, some true, none⟩ :=
    ⟨.none, .none, .some rfl, .none⟩
  have hlogging : LoggingConfig.Part.SaidBy
      [("level", .string "debug"), ("span_events", .object [("exit", .bool true)])]
      ⟨some .debug, none, none, some ⟨none, none, some true, none⟩, none, none, none, none, none⟩ :=
    ⟨.some rfl, .none, .none, .some ⟨_, rfl, List.pairwise_singleton _ _, hevents⟩, .none, .none,
      .none, .none, .none⟩
  have hdisabled : BindingConfig.Part.SaidBy [("enabled", .bool false)]
      ⟨none, none, none, some false⟩ := ⟨.none, .none, .none, .some rfl⟩
  have haudit : BindingConfig.Part.SaidBy [("handler", .string "audit")]
      ⟨none, some "audit", none, none⟩ := ⟨.none, .some rfl, .none, .none⟩
  have hpart : sparsePart.SaidBy sparseDocument :=
    ⟨.none, .some ⟨_, rfl, List.pairwise_pair.2 (by decide), hlogging⟩,
      .some ⟨_, rfl, .cons ⟨_, rfl, List.pairwise_singleton _ _, hdisabled⟩
        (.cons ⟨_, rfl, List.pairwise_singleton _ _, haudit⟩ .nil)⟩⟩
  obtain ⟨-, -, -, -, hconfig⟩ := decode_parts .refused hsorted
  obtain ⟨hdecode, hfilled⟩ := hconfig sparsePart hpart
  exact ⟨hpart, hdecode, fun h => absurd (hfilled.1 h) (by decide)⟩

/-- A binding of which nothing is said is not read as the default one. -/
theorem binding_not_filled :
    ¬ ∀ (t : Table Value) (p : BindingConfig.Part), t.Sorted → p.SaidBy t →
      BindingConfig.decode .refused (.object t) = .ok p.filled := by
  intro h
  have hread := h [] ⟨none, none, none, none⟩ Table.sorted_nil ⟨.none, .none, .none, .none⟩
  cases hread

end Switchboard
