import Switchboard.Proofs.Config.Precedence

/-!
# Which files a configuration is read from

A loader reads the files that it finds, and no others: neither a file of another directory nor the
overlay of another file is looked at, however close it stands.

* `Loader.Alike`, `Loader.Reads`: reading some files and no others;
* `Loader.reads_of_sources`: the files of a loader are the ones that it reads;
* `Loader.Beside`, `Loader.beside_filesIn`: files of one directory with one stem;
* `load_files`: which files these are.
-/

namespace Switchboard

namespace Loader

/-! ### Reading some files and no others -/

/-- Surroundings that look the same to a loader which reads no other files than these. -/
structure Alike (paths : List String) (s t : Surroundings) : Prop where
  isFile : t.isFile = s.isFile
  read : ∀ path ∈ paths, t.read? path = s.read? path
  environment : t.environment = s.environment
  workingDirectory : t.workingDirectory = s.workingDirectory
  userDirectory : t.userDirectory = s.userDirectory

/-- A loader reads these files, at most two of them. Their documents are the layers between those of
the program and that of the environment, each over the ones before it, and whatever the text of
another file is makes no difference. -/
structure Reads (l : Loader) (s : Surroundings) (paths : List String) : Prop where
  length_le : paths.length ≤ 2
  load_eq_ok_iff : ∀ log c, (l.load s log).1 = .ok c ↔
    ∃ documents environment,
      List.Forall₂ (fun path v => readLayer s path = .ok v) paths documents ∧
      l.environmentLayers s = .ok environment ∧
      extract ((default : Config).encode :: l.added.map Config.encode ++ documents ++ environment) =
        .ok c ∧
      c.check = .ok ()
  load_eq : ∀ t, Alike paths s t → ∀ log, l.load t log = l.load s log

variable {l : Loader} {s t : Surroundings} {paths : List String} {sources : Option Sources}

theorem Alike.directories_eq (h : Alike paths s t) : l.directories t = l.directories s := by
  rw [directories, directories, userSearchPath, userSearchPath, h.workingDirectory,
    h.userDirectory]

theorem Alike.configure_eq (h : Alike paths s t) : l.configure t paths = l.configure s paths := by
  have hread : paths.mapM (readLayer t) = paths.mapM (readLayer s) := by
    obtain ⟨-, hread, -, -, -⟩ := h
    induction paths with
    | nil => rfl
    | cons path rest ih =>
      obtain ⟨hpath, hrest⟩ := List.forall_mem_cons.1 hread
      have hlayer : readLayer t path = readLayer s path := by rw [readLayer, readLayer, hpath]
      rw [List.mapM_cons, List.mapM_cons, hlayer, ih hrest]
  rw [configure, configure, layers, layers, environmentLayers, environmentLayers, h.environment,
    hread]

/-- The files of a loader are the ones that it reads. -/
theorem reads_of_sources (h : l.sources s.isFile (l.directories s) = .ok sources) :
    l.Reads s ((sources.map Sources.paths).getD []) where
  length_le := by
    cases sources with
    | none => exact Nat.zero_le 2
    | some files =>
      obtain ⟨base, overlay⟩ := files
      cases overlay with
      | none => exact Nat.le_succ 1
      | some path => exact Nat.le_refl 2
  load_eq_ok_iff log c := by
    rw [load_fst h, configure_eq_ok_iff]
    constructor
    · rintro ⟨layers, hlayers, hextract, hcheck⟩
      obtain ⟨documents, environment, hdocuments, henvironment, rfl⟩ := layers_eq_ok_iff.1 hlayers
      exact ⟨documents, environment, hdocuments, henvironment, hextract, hcheck⟩
    · rintro ⟨documents, environment, hdocuments, henvironment, hextract, hcheck⟩
      exact ⟨_, layers_eq_ok_iff.2 ⟨documents, environment, hdocuments, henvironment, rfl⟩,
        hextract, hcheck⟩
  load_eq t ht log := by
    unfold load
    simp only [ht.isFile, ht.directories_eq, h, ht.configure_eq]

/-! ### Files beside each other -/

/-- The files that are read where the file with a stem in a directory is: the overlay comes second, so
that it is laid over that file. -/
def filesIn (isFile : String → Bool) (directory stem : String) (p : Profile) : List String :=
  fileIn directory stem :: (overlayIn isFile (Path.trimmed directory) stem p).toList

/-- Files that stand in one directory and have one stem, and no others: nothing from another
directory, and no overlay with another stem. -/
structure Beside (directory stem : String) (p : Profile) (paths : List String) : Prop where
  parent?_eq : ∀ path ∈ paths, Path.parent? path = some (Path.trimmed directory)
  name?_eq : ∀ path ∈ paths,
    Path.name? path = some (stem ++ ".toml") ∨ Path.name? path = some (overlayName stem p)
  elsewhere : ∀ other name, Path.trimmed other ≠ Path.trimmed directory → Path.IsName name →
    Path.join other name ∉ paths
  other_stem : ∀ other ∈ stems, other ≠ stem → ∀ place, Path.join place (overlayName other p) ∉ paths

variable {isFile : String → Bool} {directory stem path : String} {p : Profile}

/-- Names that start with different stems are different. -/
theorem eq_of_stem_append_eq {other text text' : String} (h : stem ∈ stems) (h' : other ∈ stems)
    (heq : stem ++ text = other ++ text') : stem = other := by
  have hheads := congrArg (List.head? ∘ String.toList) heq
  simp only [Function.comp_apply, String.toList_append] at hheads
  rcases List.mem_pair.1 h with rfl | rfl <;> rcases List.mem_pair.1 h' with rfl | rfl
  · rfl
  · exact absurd hheads (by simp)
  · exact absurd hheads (by simp)
  · rfl

theorem mem_filesIn (h : path ∈ filesIn isFile directory stem p) :
    path = fileIn directory stem ∨
      path = Path.join (Path.trimmed directory) (overlayName stem p) := by
  rcases List.mem_cons.1 h with rfl | h
  · exact Or.inl rfl
  · unfold overlayIn at h
    split at h
    next => exact Or.inr (List.mem_singleton.1 h)
    next => cases h

/-- The files that are read stand beside each other. -/
theorem beside_filesIn (h : stem ∈ stems) (hp : '/' ∉ p.name.toList) :
    Beside directory stem p (filesIn isFile directory stem p) := by
  have hfile := isName_file h
  have hoverlay := isName_overlayName h hp
  have hparent : ∀ path ∈ filesIn isFile directory stem p,
      Path.parent? path = some (Path.trimmed directory) := by
    intro path hpath
    rcases mem_filesIn hpath with rfl | rfl
    · exact Path.parent?_join hfile directory
    · rw [Path.parent?_join hoverlay, Path.trimmed_trimmed]
  have hnames : ∀ path ∈ filesIn isFile directory stem p,
      Path.name? path = some (stem ++ ".toml") ∨ Path.name? path = some (overlayName stem p) := by
    intro path hpath
    rcases mem_filesIn hpath with rfl | rfl
    · exact Or.inl (Path.name?_join hfile directory)
    · exact Or.inr (Path.name?_join hoverlay _)
  refine ⟨hparent, hnames, fun other name hother hname hmem => ?_,
    fun other hother hne place hmem => ?_⟩
  · have heq := hparent _ hmem
    rw [Path.parent?_join hname] at heq
    exact hother (Option.some.inj heq)
  · have hname := Path.name?_join (isName_overlayName hother hp) place
    have heq := hnames _ hmem
    rw [hname, overlayName_eq, overlayName_eq] at heq
    rcases heq with heq | heq
    · exact hne (eq_of_stem_append_eq hother h (Option.some.inj heq))
    · exact hne (eq_of_stem_append_eq hother h (Option.some.inj heq))

/-- The search paths make no difference to a loader with a named file. -/
theorem load_withSearchPaths (hfile : l.file = some path) (directories : List String) (log : Log) :
    ({ l with searchPaths := directories } : Loader).load s log = l.load s log := by
  have hsources : ({ l with searchPaths := directories } : Loader).sources s.isFile
      (Loader.directories { l with searchPaths := directories } s) =
      l.sources s.isFile (l.directories s) := by
    rw [sources, sources, hfile]
  cases h : l.sources s.isFile (l.directories s) with
  | error e => rw [load_of_refused h, load_of_refused (hsources.trans h)]
  | ok sources =>
    cases sources with
    | none =>
      cases sources_eq_ok_iff.1 h with
      | nothing hnone => cases hfile.symm.trans hnone
    | some files =>
      unfold load
      simp only [h, hsources]
      rfl

end Loader

/-- Which files are read.

A loader with search paths and no named file reads nothing if no search path has a file with one of
the usual names. Otherwise it reads the first one of them, and over it the overlay of that file for
the profile, if there is one. A loader with a named file does not look at its search paths. It fails
if the file is missing or has another extension than the one that can be read. Otherwise it reads
that file, and over it the overlay of that file. -/
theorem load_files (l : Loader) (s : Surroundings) (hprofile : '/' ∉ l.profile.name.toList) :
    (l.file = none → l.searchPaths ≠ [] →
      (Loader.NothingFound s l.searchPaths → l.Reads s []) ∧
      (¬ Loader.NothingFound s l.searchPaths →
        ∃ directory stem, Loader.IsFirst s.isFile l.searchPaths directory stem) ∧
      ∀ directory stem, Loader.IsFirst s.isFile l.searchPaths directory stem →
        l.Reads s (Loader.filesIn s.isFile directory stem l.profile) ∧
        Loader.Beside directory stem l.profile
          (Loader.filesIn s.isFile directory stem l.profile)) ∧
    ∀ path, l.file = some path →
      (∀ directories log, ({ l with searchPaths := directories } : Loader).load s log = l.load s log) ∧
      (s.isFile path = false → ∀ log, l.load s log = (.error (.config (.fileNotFound path)), log)) ∧
      (s.isFile path = true → Path.extension? path ≠ some "toml" → ∀ log, l.load s log =
        (.error (.config (.unreadable (.format ((Path.extension? path).getD "")))), log)) ∧
      (s.isFile path = true → Path.extension? path = some "toml" → ∃ directory stem,
        Path.parent? path = some directory ∧ Path.name? path = some (stem ++ ".toml") ∧
        l.Reads s (path :: (Loader.overlayIn s.isFile directory stem l.profile).toList)) := by
  constructor
  · intro hfile hsearch
    have hdirectories : l.directories s = l.searchPaths := by
      rw [Loader.directories, List.isEmpty_eq_false_iff.2 hsearch]
      rfl
    rw [← hdirectories]
    exact ⟨fun hnone => Loader.reads_of_sources (Loader.sources_of_nothing hfile hnone),
      Loader.exists_first, fun directory stem hfirst =>
        ⟨Loader.reads_of_sources (Loader.sources_of_first hfile hfirst),
          Loader.beside_filesIn hfirst.mem_stems hprofile⟩⟩
  · intro path hfile
    refine ⟨fun directories log => Loader.load_withSearchPaths hfile directories log,
      fun hmissing log => Loader.load_of_refused (Loader.sources_of_missing hfile hmissing) log,
      fun hthere hext log => Loader.load_of_refused (Loader.sources_of_format hfile hthere hext) log,
      fun hthere hext => ?_⟩
    obtain ⟨directory, stem, hparent, hname, hstem⟩ := Loader.exists_stem hext
    exact ⟨directory, stem, hparent, hname,
      Loader.reads_of_sources (Loader.sources_of_name hfile hthere hname hstem hparent)⟩

/-- Files in two directories. Where the first file stands there is also an overlay with the other
stem, and the second directory has a file with the stem that is tried first. -/
def shelfSurroundings : Surroundings :=
  { file? := fun path =>
      if path ∈ ["lower/config.toml", "lower/config.production.toml", "lower/reacton.production.toml",
          "upper/reacton.toml", "upper/reacton.production.toml", "upper/notes.md"] then
        some (.text "[dispatch]\nstrict = true\n")
      else none
    opens := fun _ => true
    environment := []
    workingDirectory := "upper"
    userDirectory := none
    now := ⟨2024, 1, 1, 0, 0⟩ }

/-- A loader that searches three directories, the first of which is empty. -/
def shelfLoader : Loader :=
  { profile := .production
    searchPaths := ["cellar", "lower/", "upper"]
    file := none
    readsEnvironment := false
    added := [] }

theorem load_files_shelf :
    '/' ∉ shelfLoader.profile.name.toList ∧
      Loader.IsFirst shelfSurroundings.isFile shelfLoader.searchPaths "lower/" "config" ∧
      shelfLoader.Reads shelfSurroundings ["lower/config.toml", "lower/config.production.toml"] ∧
      ∀ log, ({ shelfLoader with file := some "upper/notes.md" } : Loader).load shelfSurroundings
        log = (.error (.config (.unreadable (.format "md"))), log) := by
  have hprofile : '/' ∉ shelfLoader.profile.name.toList := by decide
  have hfirst : Loader.IsFirst shelfSurroundings.isFile shelfLoader.searchPaths "lower/" "config" := by
    refine ⟨1, 1, ⟨rfl, rfl⟩, by decide +kernel, ?_⟩
    rintro i j directory stem ⟨hi, hj⟩ hthere
    by_contra hbefore
    obtain rfl | ⟨rfl, rfl⟩ : i = 0 ∨ i = 1 ∧ j = 0 := by omega
    · cases hi
      rcases List.mem_pair.1 (List.mem_of_getElem? hj) with rfl | rfl
      all_goals exact absurd hthere (by decide +kernel)
    · cases hi
      cases hj
      exact absurd hthere (by decide +kernel)
  have hfiles : Loader.filesIn shelfSurroundings.isFile "lower/" "config" .production =
      ["lower/config.toml", "lower/config.production.toml"] := by decide +kernel
  obtain ⟨hreads, -⟩ := ((load_files shelfLoader shelfSurroundings hprofile).1 rfl
    (List.cons_ne_nil _ _)).2.2 "lower/" "config" hfirst
  obtain ⟨-, -, hformat, -⟩ := (load_files { shelfLoader with file := some "upper/notes.md" }
    shelfSurroundings hprofile).2 "upper/notes.md" rfl
  have hextension : Path.extension? "upper/notes.md" = some "md" := by decide +kernel
  refine ⟨hprofile, hfirst, hfiles ▸ hreads, fun log => ?_⟩
  have hload := hformat (by decide +kernel) (by rw [hextension]; decide) log
  rwa [hextension, Option.getD_some] at hload

end Switchboard
