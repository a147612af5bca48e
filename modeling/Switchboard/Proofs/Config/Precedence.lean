import Mathlib.Data.List.Infix
import Switchboard.Proofs.Config.Document
import Switchboard.Proofs.Config.Lookup
import Switchboard.Proofs.Config.Sources

/-!
# Which layer of a configuration counts

A loaded configuration takes each of its leaves from the topmost layer that has it: the environment,
the overlay of the file, the file, what the program has added last, and so on down to the initial
configuration.

* `LoaderCall`, `Loader.prepared`: what a program may ask of a loader before it loads;
* `Layering`, `Layering.LaidBy`: the layers of a load, and where they come from;
* `Loader.load_fst`, `Loader.configure_eq_ok_iff`, `Loader.layers_eq_ok_iff`: the phases of a load;
* `Loader.of_load`, `Loader.layering_of_layers`: a load that succeeds has read all its layers;
* `Layering.Agreeing`, `Layering.Harmonious`: layers that do not stand in each other's way;
* `load_precedence`: what the configuration takes from them.
-/

namespace Switchboard

open Value

/-! ### Calls -/

/-- What a program may ask of a loader before it loads. -/
inductive LoaderCall where
  | profile (text : String)
  | searchPath (directory : String)
  | workingDirectory
  | userDirectory
  | file (path : String)
  | environment (enabled : Bool)
  | merge (c : Config)

namespace LoaderCall

/-- The configuration that a call adds. -/
def merged? : LoaderCall → Option Config
  | merge c => some c
  | _ => none

/-- Whether a call turns the reading of the environment on or off. -/
def environment? : LoaderCall → Option Bool
  | environment enabled => some enabled
  | _ => none

/-- The configurations that calls add, in the order of the calls. -/
def merged (calls : List LoaderCall) : List Config := calls.filterMap merged?

/-- Whether the environment is read after some calls: the last one that is about it counts, and
without one it is read. -/
def readsEnvironment (calls : List LoaderCall) : Bool :=
  (calls.filterMap environment?).getLast?.getD true

end LoaderCall

namespace Loader

/-- The loader after a call. -/
def call (s : Surroundings) (l : Loader) : LoaderCall → Loader
  | .profile text => l.withProfile text
  | .searchPath directory => l.withSearchPath directory
  | .workingDirectory => l.withWorkingDirectory s
  | .userDirectory => l.withUserDirectory s
  | .file path => l.withFile path
  | .environment enabled => l.withEnvironment enabled
  | .merge c => l.add c

/-- A new loader after some calls. -/
def prepared (s : Surroundings) (calls : List LoaderCall) : Loader := calls.foldl (call s) (fresh s)

variable {s : Surroundings}

theorem prepared_append_singleton (calls : List LoaderCall) (c : LoaderCall) :
    prepared s (calls ++ [c]) = (prepared s calls).call s c := by
  rw [prepared, List.foldl_append, List.foldl_cons, List.foldl_nil, prepared]

theorem added_call (l : Loader) (c : LoaderCall) :
    (l.call s c).added = l.added ++ c.merged?.toList := by
  cases c with
  | userDirectory =>
    show (l.withUserDirectory s).added = l.added ++ []
    unfold withUserDirectory
    split <;> simp [withSearchPath]
  | merge => rfl
  | profile | searchPath | workingDirectory | file | environment => exact (List.append_nil _).symm

theorem readsEnvironment_call (l : Loader) (c : LoaderCall) :
    (l.call s c).readsEnvironment = c.environment?.getD l.readsEnvironment := by
  cases c with
  | userDirectory =>
    show (l.withUserDirectory s).readsEnvironment = l.readsEnvironment
    unfold withUserDirectory
    split <;> rfl
  | merge | profile | searchPath | workingDirectory | file | environment => rfl

theorem added_prepared (calls : List LoaderCall) :
    (prepared s calls).added = LoaderCall.merged calls := by
  induction calls using List.reverseRecOn with
  | nil => rfl
  | append_singleton calls c ih =>
    rw [prepared_append_singleton, added_call, ih, LoaderCall.merged, LoaderCall.merged,
      List.filterMap_append]
    cases h : c.merged? <;> simp [h]

theorem readsEnvironment_prepared (calls : List LoaderCall) :
    (prepared s calls).readsEnvironment = LoaderCall.readsEnvironment calls := by
  induction calls using List.reverseRecOn with
  | nil => rfl
  | append_singleton calls c ih =>
    rw [prepared_append_singleton, readsEnvironment_call, ih, LoaderCall.readsEnvironment,
      LoaderCall.readsEnvironment, List.filterMap_append]
    cases h : c.environment? <;> simp [h]

end Loader

/-! ### Layers -/

/-- The layers above the initial configuration. -/
structure Layering where
  merged : List Config
  base : Option Value
  overlay : Option Value
  environment : Option Value

namespace Layering

/-- All layers, the lowest first. -/
def layers (y : Layering) : List Value :=
  (default : Config).encode :: y.merged.map Config.encode ++ y.base.toList ++ y.overlay.toList ++
    y.environment.toList

/-- The layers are those of a loader after some calls: the configurations that have been added in
their order, the file with its overlay, and the environment unless it has been turned off. -/
structure LaidBy (y : Layering) (s : Surroundings) (calls : List LoaderCall)
    (sources : Option Sources) : Prop where
  merged : y.merged = LoaderCall.merged calls
  base : Option.Rel (fun path v => Loader.readLayer s path = .ok v)
    (sources.map Sources.base) y.base
  overlay : Option.Rel (fun path v => Loader.readLayer s path = .ok v)
    (sources.bind Sources.overlay) y.overlay
  environment : if LoaderCall.readsEnvironment calls then
    ∃ v, Environment.layer s.environment = .ok v ∧ y.environment = some v
    else y.environment = none

variable {s : Surroundings} {calls : List LoaderCall} {sources : Option Sources} {y : Layering}

/-- All layers are tidy tables. -/
theorem LaidBy.isLayer (h : y.LaidBy s calls sources)
    (hmerged : ∀ c ∈ LoaderCall.merged calls, c.logging.filters.Sorted) :
    ∀ l ∈ y.layers, l.IsLayer := by
  have hread : ∀ {path : Option String} {layer : Option Value},
      Option.Rel (fun path v => Loader.readLayer s path = .ok v) path layer →
      ∀ l ∈ layer.toList, l.IsLayer := by
    intro path layer hrel l hl
    cases hrel with
    | none => cases hl
    | some hv =>
      rw [List.mem_singleton.1 hl]
      exact Loader.isLayer_of_readLayer hv
  intro l hl
  simp only [layers, List.mem_append, List.mem_cons, List.mem_map] at hl
  rcases hl with (((rfl | ⟨c, hc, rfl⟩) | hl) | hl) | hl
  · exact ⟨Config.tidy_encode Table.sorted_nil, rfl⟩
  · exact ⟨Config.tidy_encode (hmerged c (h.merged ▸ hc)), rfl⟩
  · exact hread h.base l hl
  · exact hread h.overlay l hl
  · have henvironment := h.environment
    split at henvironment
    · obtain ⟨v, hv, heq⟩ := henvironment
      rw [heq] at hl
      rw [List.mem_singleton.1 hl]
      exact Environment.isLayer_of_layer hv
    · rw [henvironment] at hl
      cases hl

end Layering

namespace Loader

variable {l : Loader} {s : Surroundings} {sources : Option Sources} {paths : List String}

/-- A loader that is refused its file fails, and notes nothing. -/
theorem load_of_refused {e : ConfigError} (h : l.sources s.isFile (l.directories s) = .error e)
    (log : Log) : l.load s log = (.error (.config e), log) := by
  unfold load
  simp only [h]

/-- What is loaded is what the files of the loader come to. -/
theorem load_fst (h : l.sources s.isFile (l.directories s) = .ok sources) (log : Log) :
    (l.load s log).1 = l.configure s ((sources.map Sources.paths).getD []) := by
  unfold load
  simp only [h]
  split
  next e he => exact he.symm
  next c hc => exact hc.symm

/-- Files come to a configuration if one can be read from their layers that passes its check. -/
theorem configure_eq_ok_iff {c : Config} :
    l.configure s paths = .ok c ↔
      ∃ layers, l.layers s paths = .ok layers ∧ extract layers = .ok c ∧ c.check = .ok () := by
  constructor
  · intro h
    obtain ⟨layers, hlayers, h⟩ := bind_eq_ok_iff.1 h
    obtain ⟨c', hextract, hcheck⟩ := bind_eq_ok_iff.1 (mapError_eq_ok_iff.1 h)
    obtain ⟨u, hu, rfl⟩ := map_eq_ok_iff.1 hcheck
    exact ⟨layers, hlayers, hextract, hu⟩
  · rintro ⟨layers, hlayers, hextract, hcheck⟩
    refine bind_eq_ok_iff.2 ⟨layers, hlayers, mapError_eq_ok_iff.2 ?_⟩
    exact bind_eq_ok_iff.2 ⟨c, hextract, map_eq_ok_iff.2 ⟨(), hcheck, rfl⟩⟩

/-- The layers can be read if the environment and all documents can be read. -/
theorem layers_eq_ok_iff {layers : List Value} :
    l.layers s paths = .ok layers ↔
      ∃ documents environment,
        List.Forall₂ (fun path v => readLayer s path = .ok v) paths documents ∧
        l.environmentLayers s = .ok environment ∧
        layers = (default : Config).encode :: l.added.map Config.encode ++ documents ++
          environment := by
  constructor
  · intro h
    obtain ⟨environment, henvironment, h⟩ := bind_eq_ok_iff.1 h
    obtain ⟨documents, hdocuments, h⟩ := bind_eq_ok_iff.1 h
    cases h
    exact ⟨documents, environment, mapM_eq_ok_iff.1 (mapError_eq_ok_iff.1 hdocuments),
      henvironment, rfl⟩
  · rintro ⟨documents, environment, hdocuments, henvironment, rfl⟩
    refine bind_eq_ok_iff.2 ⟨environment, henvironment, bind_eq_ok_iff.2 ⟨documents, ?_, rfl⟩⟩
    exact mapError_eq_ok_iff.2 (mapM_eq_ok_iff.2 hdocuments)

/-- A load that succeeds has found its files, read its layers and read a configuration from them
that passes its check. -/
theorem of_load {log : Log} {c : Config} (h : (l.load s log).1 = .ok c) :
    ∃ sources layers, l.sources s.isFile (l.directories s) = .ok sources ∧
      l.layers s ((sources.map Sources.paths).getD []) = .ok layers ∧ extract layers = .ok c ∧
      c.check = .ok () := by
  cases hsources : l.sources s.isFile (l.directories s) with
  | error e =>
    rw [load_of_refused hsources] at h
    cases h
  | ok sources =>
    rw [load_fst hsources] at h
    obtain ⟨layers, hlayers, hextract, hcheck⟩ := configure_eq_ok_iff.1 h
    exact ⟨sources, layers, rfl, hlayers, hextract, hcheck⟩

/-- A file and its overlay are read one after the other. -/
theorem exists_documents {documents : List Value}
    (h : List.Forall₂ (fun path v => readLayer s path = .ok v)
      ((sources.map Sources.paths).getD []) documents) :
    ∃ base overlay : Option Value,
      Option.Rel (fun path v => readLayer s path = .ok v) (sources.map Sources.base) base ∧
      Option.Rel (fun path v => readLayer s path = .ok v) (sources.bind Sources.overlay) overlay ∧
      documents = base.toList ++ overlay.toList := by
  cases sources with
  | none => exact ⟨none, none, .none, .none, List.forall₂_nil_left_iff.1 h⟩
  | some files =>
    obtain ⟨path, overlay⟩ := files
    obtain ⟨v, rest, hv, hrest, rfl⟩ := List.forall₂_cons_left_iff.1 h
    cases overlay with
    | none => exact ⟨some v, none, .some hv, .none, by rw [List.forall₂_nil_left_iff.1 hrest]; rfl⟩
    | some path' =>
      obtain ⟨w, rest', hw, hrest', rfl⟩ := List.forall₂_cons_left_iff.1 hrest
      refine ⟨some v, some w, .some hv, .some hw, ?_⟩
      rw [List.forall₂_nil_left_iff.1 hrest']
      rfl

theorem exists_environment {calls : List LoaderCall} {layers : List Value}
    (h : (prepared s calls).environmentLayers s = .ok layers) :
    ∃ set : Option Value, layers = set.toList ∧
      if LoaderCall.readsEnvironment calls then
        ∃ v, Environment.layer s.environment = .ok v ∧ set = some v
      else set = none := by
  unfold environmentLayers at h
  rw [readsEnvironment_prepared] at h
  split at h
  next hreads =>
    simp only [if_pos hreads]
    split at h
    next v hv =>
      cases h
      exact ⟨some v, rfl, v, hv, rfl⟩
    next => cases h
  next hreads =>
    simp only [if_neg hreads]
    cases h
    exact ⟨none, rfl, rfl⟩

/-- The layers that are read are those of the calls. -/
theorem layering_of_layers {calls : List LoaderCall} {layers : List Value}
    (h : (prepared s calls).layers s ((sources.map Sources.paths).getD []) = .ok layers) :
    ∃ y : Layering, y.LaidBy s calls sources ∧ y.layers = layers := by
  obtain ⟨documents, environment, hdocuments, henvironment, rfl⟩ := layers_eq_ok_iff.1 h
  obtain ⟨base, overlay, hbase, hoverlay, rfl⟩ := exists_documents hdocuments
  obtain ⟨set, rfl, hset⟩ := exists_environment henvironment
  refine ⟨⟨LoaderCall.merged calls, base, overlay, set⟩, ⟨rfl, hbase, hoverlay, hset⟩, ?_⟩
  rw [added_prepared]
  simp [Layering.layers]

end Loader

/-! ### Precedence -/

namespace Layering

variable {y : Layering}

theorem default_mem_layers (y : Layering) : (default : Config).encode ∈ y.layers := by
  simp [layers]

/-- No layer has a table where another one has something else. -/
def Agreeing (y : Layering) : Prop :=
  ∀ u ∈ y.layers, ∀ v ∈ y.layers, ∀ path x w,
    u.at? path = some x → v.at? path = some w → x.isTable = w.isTable

/-- Where a configuration has tables, a layer has a table or nothing. -/
def Harmonious (y : Layering) : Prop :=
  ∀ l ∈ y.layers, ∀ path ∈ Config.tables, ∀ v ∈ l.at? path, v.isTable = true

theorem exists_default {path : List String} (hpath : path ∈ Config.tables) :
    ∃ x, (default : Config).encode.at? path = some x ∧ x.isTable = true := by
  simp only [Config.tables, List.mem_cons, List.not_mem_nil, or_false] at hpath
  rcases hpath with rfl | rfl | rfl | rfl | rfl
  all_goals exact ⟨_, rfl, rfl⟩

/-- Layers that agree are harmonious, since the initial configuration is one of them. -/
theorem Agreeing.harmonious (h : y.Agreeing) : y.Harmonious := by
  intro l hl path hpath v hv
  obtain ⟨x, hx, htable⟩ := exists_default hpath
  exact (h l hl _ y.default_mem_layers path v x hv hx).trans htable

theorem Harmonious.leads (h : y.Harmonious) {path : List String}
    (hpath : ∀ front ∈ path.dropLast.inits, front ∈ Config.tables) :
    ∀ l ∈ y.layers, l.Leads path := by
  rintro l hl front name rest rfl w hw
  refine h l hl front (hpath front ?_) w hw
  rw [List.mem_inits, List.dropLast_append_cons]
  exact List.prefix_append _ _

/-- Harmonious layers have tables together where a configuration has them. -/
theorem exists_table (hlayers : ∀ l ∈ y.layers, l.IsLayer) (h : y.Harmonious) :
    ∀ path ∈ Config.tables, ∃ fields, (mergeAll y.layers).at? path = some (.object fields) := by
  intro path hpath
  by_cases hroot : path = []
  · obtain ⟨fields, hfields⟩ := exists_fields (IsLayer.mergeAll hlayers).table
    rw [hroot, hfields]
    exact ⟨fields, rfl⟩
  · -- the initial configuration has a table here, so that some layer is the topmost with something
    have hleads := h.leads ((by decide : ∀ path ∈ Config.tables,
      ∀ front ∈ path.dropLast.inits, front ∈ Config.tables) path hpath)
    obtain ⟨x, hx, -⟩ := exists_default hpath
    obtain ⟨v, hv⟩ := exists_at?_mergeAll hlayers hleads hroot y.default_mem_layers hx
    obtain ⟨w, htop, hkind, -⟩ := exists_topmost?_of_at?_mergeAll hlayers hleads hroot hv
    obtain ⟨l, hl, hw⟩ := exists_of_topmost? htop
    obtain ⟨fields, rfl⟩ := exists_fields (hkind.trans (h l hl path hpath w hw))
    exact ⟨fields, hv⟩

variable {c : Config}

theorem decode_of_extract {layers : List Value} (h : Loader.extract layers = .ok c) :
    Config.decode .ignored (mergeAll layers) = .ok c := by
  unfold Loader.extract at h
  split at h
  next c' hc' =>
    cases h
    exact hc'
  next => cases h

/-- Each leaf of a configuration that is read from harmonious layers is what the topmost of those
layers has there that have it. -/
theorem at?_encode (hlayers : ∀ l ∈ y.layers, l.IsLayer) (h : y.Harmonious)
    (hextract : Loader.extract y.layers = .ok c) {path : List String} (hpath : Config.Leaf path) :
    c.encode.at? path = topmost? path y.layers := by
  have hroot : path ≠ [] := by
    rintro rfl
    cases hpath
  have hleads := h.leads hpath.mem_tables
  have hencode := Config.at?_encode (IsLayer.mergeAll hlayers).tidy (decode_of_extract hextract)
    (exists_table hlayers h) hpath
  cases hv : (mergeAll y.layers).at? path with
  | none =>
    have htop := topmost?_of_at?_mergeAll_eq_none hlayers hleads hroot hv
    rw [hv, Option.none_or] at hencode
    rw [hencode, htop]
    exact topmost?_eq_none_iff.1 htop _ y.default_mem_layers
  | some v =>
    rw [hv, Option.some_or] at hencode
    rw [hencode, topmost?_of_at?_mergeAll hlayers hleads hroot hv (hpath.isTable_eq_false hencode)]

/-- The bindings are those of the topmost layer that has some. -/
theorem bindings_of_extract (hlayers : ∀ l ∈ y.layers, l.IsLayer) (h : y.Harmonious)
    (hextract : Loader.extract y.layers = .ok c) :
    ∃ v, topmost? ["bindings"] y.layers = some v ∧
      Shape.list (BindingConfig.decode .ignored) v = .ok c.bindings := by
  have hroot : ["bindings"] ≠ ([] : List String) := List.cons_ne_nil _ _
  have hleads : ∀ l ∈ y.layers, l.Leads ["bindings"] := h.leads (by decide)
  obtain ⟨v, hv⟩ := exists_at?_mergeAll hlayers hleads hroot y.default_mem_layers
    (show (default : Config).encode.at? ["bindings"] = some (.array []) from rfl)
  have hread : Shape.list (BindingConfig.decode .ignored) v = .ok c.bindings := by
    have htidy := (IsLayer.mergeAll hlayers).tidy
    have hdecode := decode_of_extract hextract
    obtain ⟨t, ht⟩ := exists_fields (IsLayer.mergeAll hlayers).table
    rw [ht] at htidy hdecode hv
    rw [at?_singleton] at hv
    exact (Config.taken htidy.sorted hdecode).bindings.read v hv
  obtain ⟨items, rfl⟩ := Shape.exists_items_of_list hread
  exact ⟨.array items, topmost?_of_at?_mergeAll hlayers hleads hroot hv rfl, hread⟩

end Layering

/-- A configuration takes each leaf from the topmost of the layers that have it, and its bindings,
as a whole, from the topmost layer with bindings. -/
structure Layering.Gives (y : Layering) (c : Config) : Prop where
  leaf : ∀ path, Config.Leaf path → c.encode.at? path = topmost? path y.layers
  bindings : ∃ v, topmost? ["bindings"] y.layers = some v ∧
    Shape.list (BindingConfig.decode .ignored) v = .ok c.bindings

/-- A configuration that has been loaded, and the layers that it has been loaded from: the initial
configuration, those that the calls have added, in their order, the file, its overlay, and the
environment unless the calls have turned it off. The file is the named one or the first one found,
and there is none only if nothing is to be found. If no layer has a scalar or an array where the
initial configuration has a table, as when no layer has a table where another one has something else,
the configuration has at each leaf what the topmost of the layers has there that have it; where a
layer has nothing, it leaves what the layers below it have. A configuration without a log file does
not have that leaf, and without the variable that chooses the profile the layer of the environment is
the same. -/
theorem load_precedence (s : Surroundings) (calls : List LoaderCall) (log : Log) {c : Config}
    (hload : ((Loader.prepared s calls).load s log).1 = .ok c)
    (hmerged : ∀ a ∈ LoaderCall.merged calls, a.logging.filters.Sorted) :
    let loader := Loader.prepared s calls
    ∃ sources y, loader.sources s.isFile (loader.directories s) = .ok sources ∧
      loader.Finds s sources ∧
      Layering.LaidBy y s calls sources ∧
      loader.layers s ((sources.map Sources.paths).getD []) = .ok y.layers ∧
      Loader.extract y.layers = .ok c ∧
      (y.Agreeing → y.Harmonious) ∧
      (y.Harmonious → y.Gives c) ∧
      (∀ a : Config, a.logging.filePath = none → a.encode.at? ["logging", "file_path"] = none) ∧
      Environment.layer (Table.erase Profile.chosenBy s.environment) =
        Environment.layer s.environment := by
  intro loader
  obtain ⟨sources, layers, hsources, hlayers, hextract, -⟩ := Loader.of_load hload
  obtain ⟨y, hlaid, rfl⟩ := Loader.layering_of_layers hlayers
  have hall := hlaid.isLayer hmerged
  refine ⟨sources, y, hsources, Loader.sources_eq_ok_iff.1 hsources, hlaid, hlayers, hextract,
    Layering.Agreeing.harmonious, fun h => ?_, fun a ha => ?_, ?_⟩
  · exact ⟨fun path => Layering.at?_encode hall h hextract,
      Layering.bindings_of_extract hall h hextract⟩
  · show a.logging.encode.at? ["file_path"] = none
    rw [at?_singleton, LoggingConfig.field?_encode_file_path, ha]
    rfl
  · exact Environment.layer_erase (by decide) s.environment

/-- A file with an overlay, and two variables. -/
def deskSurroundings : Surroundings :=
  { file? := fun path =>
      if path = "reacton.toml" then
        some (.text "[dispatch]\ndefault_priority = 3\nstrict = true\n")
      else if path = "reacton.production.toml" then
        some (.text "[dispatch]\ndefault_priority = 4\n")
      else none
    opens := fun _ => true
    environment := [("REACTON_LOGGING__LEVEL", "debug"), ("REACTON_PROFILE", "production")]
    workingDirectory := ""
    userDirectory := none
    now := ⟨2024, 1, 1, 0, 0⟩ }

/-- A configuration with a log file, and one with a binding over it. -/
def deskCalls : List LoaderCall :=
  [.merge { (default : Config) with
      logging := { (default : LoggingConfig) with filePath := some "desk.log" } },
    .merge { (default : Config) with bindings := [.ofNames "offer" "accept"] }]

/-- What is loaded from all of them. -/
def deskLoaded : Config :=
  { dispatch := ⟨4, true⟩
    logging := { (default : LoggingConfig) with filePath := some "desk.log", level := .debug }
    bindings := [.ofNames "offer" "accept"] }

theorem load_precedence_desk :
    let loader := Loader.prepared deskSurroundings deskCalls
    let sources : Sources := ⟨"reacton.toml", some "reacton.production.toml"⟩
    (loader.load deskSurroundings Log.empty).1 = .ok deskLoaded ∧
      (∀ a ∈ LoaderCall.merged deskCalls, a.logging.filters.Sorted) ∧
      loader.Finds deskSurroundings (some sources) ∧
      ∃ y, Layering.LaidBy y deskSurroundings deskCalls (some sources) ∧
        y.Harmonious ∧ y.Gives deskLoaded ∧
        topmost? ["dispatch", "default_priority"] y.layers = some (.int 4) ∧
        topmost? ["logging", "file_path"] y.layers = some (.string "desk.log") := by
  intro loader sources
  have hload : ((Loader.prepared deskSurroundings deskCalls).load deskSurroundings Log.empty).1 =
      .ok deskLoaded := toOption_eq_some_iff.1 (by decide +kernel)
  have hmerged : ∀ a ∈ LoaderCall.merged deskCalls, a.logging.filters.Sorted := by
    intro a ha
    rcases List.mem_pair.1 ha with rfl | rfl
    all_goals exact Table.sorted_nil
  obtain ⟨sources, y, hsources, hfinds, hlaid, hlayers, -, -, hgives, -⟩ :=
    load_precedence deskSurroundings deskCalls Log.empty hload hmerged
  have hfound : (Loader.prepared deskSurroundings deskCalls).sources deskSurroundings.isFile
      ((Loader.prepared deskSurroundings deskCalls).directories deskSurroundings) =
      .ok (some ⟨"reacton.toml", some "reacton.production.toml"⟩) :=
    toOption_eq_some_iff.1 (by decide +kernel)
  cases hsources.symm.trans hfound
  have htables : ∀ layers ∈ ((Loader.prepared deskSurroundings deskCalls).layers deskSurroundings
      ["reacton.toml", "reacton.production.toml"]).toOption, ∀ l ∈ layers,
      ∀ path ∈ Config.tables, ∀ v ∈ l.at? path, v.isTable = true := by
    decide +kernel
  have hharmonious : y.Harmonious := htables y.layers (toOption_eq_some_iff.2 hlayers)
  have hgives := hgives hharmonious
  exact ⟨hload, hmerged, hfinds, y, hlaid, hharmonious, hgives,
    (hgives.leaf _ (.dispatch (by decide))).symm, (hgives.leaf _ (.logging (by decide))).symm⟩

end Switchboard
