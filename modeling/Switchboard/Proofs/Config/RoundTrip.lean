import Switchboard.Proofs.Config.Omitted
import Switchboard.Proofs.Config.Precedence

/-!
# A configuration survives the loader

A configuration that is written and read again is the same: what is not written, an absent file path
or priority, is read as absent. Laid over the initial configuration it comes through as it is, since
it has all the names of that one. So a loader that has nothing else to read gives a configuration
back that has been added to it, or what its check has against it.

* `Config.decode_encode`: writing and reading;
* `Config.merge_default_encode`: a written configuration over the initial one;
* `Loader.load_of_nothing_found`: a loader that finds no file and reads no environment;
* `load_merged`: adding a configuration and loading it.
-/

namespace Switchboard

open Shape Value

/-! ### Writing and reading -/

/-- An integer of 64 bits. -/
def IsInt64 (n : Int) : Prop := -(Nat.pow 2 63 : Int) ≤ n ∧ n ≤ Nat.pow 2 63 - 1

theorem IsInt64.reads {n : Int} (h : IsInt64 n) : int64.Reads (.int n) n := if_pos h

theorem SpanEvents.decode_encode (surplus : Surplus) (e : SpanEvents) :
    decode surplus e.encode = .ok e := rfl

theorem DispatchConfig.decode_encode (surplus : Surplus) {c : DispatchConfig}
    (h : IsInt64 c.defaultPriority) : decode surplus c.encode = .ok c :=
  decode_part surplus _ c.tidy_encode.sorted ⟨some c.defaultPriority, some c.strict⟩
    ⟨.some h.reads, .some rfl⟩

theorem LoggingConfig.reads_filters {filters : Table Level} :
    (table (choice Level.choices)).Reads
      (.object (filters.map fun (name, level) => (name, .string level.name))) filters := by
  refine mapM_eq_ok_iff.2 (List.forall₂_map_left_iff.2 (List.forall₂_same.2 ?_))
  rintro ⟨name, level⟩ -
  cases level <;> rfl

theorem LoggingConfig.decode_encode (surplus : Surplus) {c : LoggingConfig}
    (h : c.filters.Sorted) : decode surplus c.encode = .ok c := by
  have hlevel : (choice Level.choices).Reads (.string c.level.name) c.level := by
    cases c.level <;> rfl
  have hformat : (choice LogFormat.choices).Reads (.string c.format.name) c.format := by
    cases c.format <;> rfl
  have houtput : (choice LogOutput.choices).Reads (.string c.output.name) c.output := by
    cases c.output <;> rfl
  have hrotation : (choice LogRotation.choices).Reads (.string c.rotation.name) c.rotation := by
    cases c.rotation <;> rfl
  have htidy := tidy_encode h
  obtain ⟨level, format, output, events, threadIds, fileLocation, filePath, rotation, filters⟩ := c
  have hevents : InTable (fun t p => SpanEvents.Part.SaidBy t p) events.encode
      ⟨some events.opened, some events.entered, some events.left, some events.closed⟩ :=
    ⟨_, rfl, events.tidy_encode.sorted, .some rfl, .some rfl, .some rfl, .some rfl⟩
  cases filePath with
  | none =>
    exact decode_part surplus _ htidy.sorted
      ⟨some level, some format, some output, some _, some threadIds, some fileLocation, none,
        some rotation, some filters⟩
      ⟨.some hlevel, .some hformat, .some houtput, .some hevents, .some rfl, .some rfl, .none,
        .some hrotation, .some reads_filters⟩
  | some path =>
    exact decode_part surplus _ htidy.sorted
      ⟨some level, some format, some output, some _, some threadIds, some fileLocation,
        some (some path), some rotation, some filters⟩
      ⟨.some hlevel, .some hformat, .some houtput, .some hevents, .some rfl, .some rfl, .some rfl,
        .some hrotation, .some reads_filters⟩

theorem BindingConfig.decode_encode (surplus : Surplus) {b : BindingConfig}
    (h : ∀ n ∈ b.priority, IsInt64 n) : decode surplus b.encode = .ok b := by
  have htidy := b.tidy_encode
  obtain ⟨selector, handler, priority, enabled⟩ := b
  cases priority with
  | none =>
    exact decode_part surplus _ htidy.sorted ⟨some selector, some handler, none, some enabled⟩
      ⟨.some rfl, .some rfl, .none, .some rfl⟩
  | some n =>
    have hpriority : (option int64).Reads (.int n) (some n) :=
      map_eq_ok_iff.2 ⟨n, (h n rfl).reads, rfl⟩
    exact decode_part surplus _ htidy.sorted
      ⟨some selector, some handler, some (some n), some enabled⟩
      ⟨.some rfl, .some rfl, .some hpriority, .some rfl⟩

namespace Config

/-- What the types of the fields say beyond what can be seen of them here: priorities have 64 bits,
and filters are a map. -/
structure WellTyped (c : Config) : Prop where
  defaultPriority : IsInt64 c.dispatch.defaultPriority
  priority : ∀ b ∈ c.bindings, ∀ n ∈ b.priority, IsInt64 n
  filters : c.logging.filters.Sorted

/-- A configuration that has been written is read back. -/
theorem decode_encode (surplus : Surplus) {c : Config} (h : c.WellTyped) :
    decode surplus c.encode = .ok c := by
  have hdispatch := DispatchConfig.decode_encode surplus h.defaultPriority
  have hlogging := LoggingConfig.decode_encode surplus h.filters
  have hbindings : (c.bindings.map BindingConfig.encode).mapM (BindingConfig.decode surplus) =
      .ok c.bindings :=
    mapM_eq_ok_iff.2 (List.forall₂_map_left_iff.2 (List.forall₂_same.2 fun b hb =>
      BindingConfig.decode_encode surplus (h.priority b hb)))
  show storeFields (fields surplus) [("bindings", .array (c.bindings.map BindingConfig.encode)),
    ("dispatch", c.dispatch.encode), ("logging", c.logging.encode)] default = .ok c
  simp [storeFields, fields, field, list, hdispatch, hlogging, hbindings, Except.map, bind,
    Except.bind]

end Config

/-! ### Over the initial configuration -/

theorem SpanEvents.merge_default_encode (e : SpanEvents) :
    merge (default : SpanEvents).encode e.encode = e.encode := by
  refine merge_eq_later (default : SpanEvents).tidy_encode e.tidy_encode ?_
  simp only [List.forall_mem_cons]
  exact ⟨⟨_, rfl, merge_of_not_table rfl _⟩, ⟨_, rfl, merge_of_not_table rfl _⟩,
    ⟨_, rfl, merge_of_not_table rfl _⟩, ⟨_, rfl, merge_of_not_table rfl _⟩, by simp⟩

theorem DispatchConfig.merge_default_encode (c : DispatchConfig) :
    merge (default : DispatchConfig).encode c.encode = c.encode := by
  refine merge_eq_later (default : DispatchConfig).tidy_encode c.tidy_encode ?_
  simp only [List.forall_mem_cons]
  exact ⟨⟨_, rfl, merge_of_not_table rfl _⟩, ⟨_, rfl, merge_of_not_table rfl _⟩, by simp⟩

/-- The initial configuration has no filters, so that all of them come through. -/
theorem LoggingConfig.merge_default_encode {c : LoggingConfig} (h : c.filters.Sorted) :
    merge (default : LoggingConfig).encode c.encode = c.encode := by
  have htidy := tidy_encode h
  have hfilters := merge_empty (htidy.get? c.field?_encode_filters)
  have hevents := c.spanEvents.merge_default_encode
  obtain ⟨level, format, output, events, threadIds, fileLocation, filePath, rotation, filters⟩ := c
  cases filePath
  all_goals
    refine merge_eq_later (tidy_encode (c := default) Table.sorted_nil) htidy ?_
    show ∀ pair ∈ [_, _, _, _, _, _, _, _], _
    simp only [List.forall_mem_cons]
    exact ⟨⟨_, rfl, merge_of_not_table rfl _⟩, ⟨_, rfl, hfilters⟩,
      ⟨_, rfl, merge_of_not_table rfl _⟩, ⟨_, rfl, merge_of_not_table rfl _⟩,
      ⟨_, rfl, merge_of_not_table rfl _⟩, ⟨_, rfl, merge_of_not_table rfl _⟩, ⟨_, rfl, hevents⟩,
      ⟨_, rfl, merge_of_not_table rfl _⟩, by simp⟩

/-- A written configuration has all that the initial one has, and so comes through over it. -/
theorem Config.merge_default_encode {c : Config} (h : c.logging.filters.Sorted) :
    merge (default : Config).encode c.encode = c.encode := by
  refine merge_eq_later (tidy_encode (c := default) Table.sorted_nil) (tidy_encode h) ?_
  simp only [List.forall_mem_cons]
  exact ⟨⟨_, rfl, merge_of_not_table rfl _⟩, ⟨_, rfl, c.dispatch.merge_default_encode⟩,
    ⟨_, rfl, LoggingConfig.merge_default_encode h⟩, by simp⟩

/-- The initial configuration and one over it come to that one. -/
theorem Loader.extract_default_encode {c : Config} (h : c.WellTyped) :
    extract [(default : Config).encode, c.encode] = .ok c := by
  have hdefault : merge (.object []) (default : Config).encode = (default : Config).encode :=
    merge_empty (Config.tidy_encode (c := default) Table.sorted_nil)
  have hmerged : mergeAll [(default : Config).encode, c.encode] = c.encode := by
    show merge (merge (.object []) (default : Config).encode) c.encode = c.encode
    rw [hdefault, Config.merge_default_encode h.filters]
  rw [extract, hmerged, Config.decode_encode .ignored h]

/-! ### The loader -/

namespace Loader

variable {s : Surroundings}

theorem file_call (l : Loader) {call : LoaderCall} (h : ∀ path, call ≠ .file path) :
    (l.call s call).file = l.file := by
  cases call with
  | file path => exact absurd rfl (h path)
  | userDirectory =>
    show (l.withUserDirectory s).file = l.file
    unfold withUserDirectory
    split <;> rfl
  | profile | searchPath | workingDirectory | environment | merge => rfl

/-- Only a call can name a file. -/
theorem file_prepared {calls : List LoaderCall} (h : ∀ path, LoaderCall.file path ∉ calls) :
    (prepared s calls).file = none := by
  induction calls using List.reverseRecOn with
  | nil => rfl
  | append_singleton calls call ih =>
    have hcall : ∀ path, call ≠ .file path := fun path heq => h path (by simp [heq])
    rw [prepared_append_singleton, file_call _ hcall]
    exact ih fun path hpath => h path (List.mem_append_left _ hpath)

/-- A loader that finds no file and does not read the environment has the initial configuration and
those that have been added, and nothing else. -/
theorem load_of_nothing_found {l : Loader} (hfile : l.file = none)
    (hnone : NothingFound s (l.directories s)) (henvironment : l.readsEnvironment = false)
    (log : Log) :
    (l.load s log).1 =
      ((extract ((default : Config).encode :: l.added.map Config.encode)).bind checked).mapError
        LoadFailure.config := by
  have hsources := sources_of_nothing hfile hnone
  have hlayers : l.layers s [] = .ok ((default : Config).encode :: l.added.map Config.encode) := by
    rw [layers, environmentLayers, henvironment]
    simp [Except.mapError, bind, Except.bind, pure, Except.pure]
  have hconfigure : l.configure s [] =
      ((extract ((default : Config).encode :: l.added.map Config.encode)).bind checked).mapError
        LoadFailure.config := by
    rw [configure, hlayers]
    rfl
  rw [load_fst hsources, Option.map_none, Option.getD_none, hconfigure]

end Loader

/-- One configuration is added to a loader that finds no file and does not read the environment.
Written, laid over the initial configuration and read again it is the same in all its fields. The
loader gives it back exactly if it passes its check, and otherwise tells what the check has told. -/
theorem load_merged (s : Surroundings) (calls : List LoaderCall) (log : Log) {c : Config}
    (hc : c.WellTyped) (hmerged : LoaderCall.merged calls = [c])
    (henvironment : LoaderCall.readsEnvironment calls = false)
    (hfile : ∀ path, LoaderCall.file path ∉ calls)
    (hnone : Loader.NothingFound s ((Loader.prepared s calls).directories s)) :
    let loaded := ((Loader.prepared s calls).load s log).1
    Config.decode .ignored (mergeAll [(default : Config).encode, c.encode]) = .ok c ∧
      (loaded = .ok c ↔ c.check = .ok ()) ∧
      (∀ e, loaded = .error (.config e) ↔ c.check = .error e) ∧
      ∀ c', loaded = .ok c' → c' = c := by
  intro loaded
  have hextract := Loader.extract_default_encode hc
  have hloaded : loaded = (Loader.checked c).mapError LoadFailure.config := by
    have hload := Loader.load_of_nothing_found (Loader.file_prepared hfile) hnone
      ((Loader.readsEnvironment_prepared calls).trans henvironment) log
    rw [Loader.added_prepared, hmerged, List.map_singleton, hextract] at hload
    exact hload
  rw [hloaded, Loader.checked]
  refine ⟨Layering.decode_of_extract hextract, ?_⟩
  cases c.check <;> simp [Except.map, Except.mapError, eq_comm]

/-- A configuration with what may be left out and with something for each map and list. -/
def frontDesk : Config :=
  { dispatch := ⟨-(Nat.pow 2 63 : Int), true⟩
    logging := { (default : LoggingConfig) with
      output := .file, filePath := some "desk.log", filters := [("core", .trace), ("desk", .warn)] }
    bindings := [.ofNames "offer" "audit",
      { BindingConfig.ofNames "offer" "accept" with priority := some 7, enabled := false }] }

/-- Surroundings without any files. -/
def bareSurroundings : Surroundings :=
  { file? := fun _ => none
    opens := fun _ => true
    environment := [("REACTON_LOGGING__LEVEL", "debug")]
    workingDirectory := "desk"
    userDirectory := none
    now := ⟨2024, 1, 1, 0, 0⟩ }

theorem load_merged_frontDesk :
    ((Loader.prepared bareSurroundings [.environment false, .merge frontDesk]).load bareSurroundings
      Log.empty).1 = .ok frontDesk := by
  have hc : frontDesk.WellTyped := by
    refine ⟨⟨le_refl _, by decide⟩, ?_, List.pairwise_pair.2 (by decide)⟩
    intro b hb n hn
    rcases List.mem_pair.1 hb with rfl | rfl
    · cases hn
    · cases hn
      exact ⟨by decide, by decide⟩
  obtain ⟨-, hok, -⟩ := load_merged bareSurroundings [.environment false, .merge frontDesk]
    Log.empty hc rfl rfl (by simp) fun _ _ _ _ => rfl
  exact hok.2 (toOption_eq_some_iff.1 (by decide +kernel))

end Switchboard
