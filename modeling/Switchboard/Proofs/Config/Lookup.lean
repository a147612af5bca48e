import Mathlib.Data.List.Basic
import Switchboard.Config.Loader
import Switchboard.Proofs.Files.Path

/-!
# Which files a loader finds

A loader reads one file and its overlay, or nothing. The file is the named one or the first one
found, where directories come before names. The overlay stands in the directory of that file and has
its stem.

* `Loader.IsFirst`, `Loader.findBase?_eq_some_iff`: the first file found;
* `Loader.withOverlay_eq`: the overlay of a file;
* `Loader.Finds`, `Loader.sources_eq_ok_iff`: the files of a loader, said without its search.
-/

namespace Switchboard.Loader

variable {l : Loader} {s : Surroundings} {sources : Option Sources}

/-! ### The first file found -/

/-- What stands before the extension of the files that are looked for in a directory. -/
def stems : List String := ["reacton", "config"]

/-- The path of the file with a stem in a directory. -/
def fileIn (directory stem : String) : String := Path.join directory (stem ++ ".toml")

/-- A directory and a stem, both by their places. -/
def IsCandidate (directories : List String) (i j : ℕ) (directory stem : String) : Prop :=
  directories[i]? = some directory ∧ stems[j]? = some stem

/-- The file with this stem in this directory is there, and of all candidates that are there it comes
first: the place of the directory counts before that of the stem. -/
def IsFirst (isFile : String → Bool) (directories : List String) (directory stem : String) : Prop :=
  ∃ i j, IsCandidate directories i j directory stem ∧ isFile (fileIn directory stem) = true ∧
    ∀ i' j' directory' stem', IsCandidate directories i' j' directory' stem' →
      isFile (fileIn directory' stem') = true → i < i' ∨ i = i' ∧ j ≤ j'

theorem map_join_baseNames (directory : String) :
    baseNames.map (Path.join directory) = stems.map (fileIn directory) := rfl

/-- Of the members of a list for which there is a value, the first one gives it. -/
theorem exists_first_of_findSome? {α γ : Type} {f : α → Option γ} {as : List α} {c : γ}
    (h : as.findSome? f = some c) :
    ∃ i a, as[i]? = some a ∧ f a = some c ∧
      ∀ (i' : ℕ) (a' : α), as[i']? = some a' → f a' ≠ none → i ≤ i' := by
  obtain ⟨front, a, back, rfl, ha, hfront⟩ := List.findSome?_eq_some_iff.1 h
  refine ⟨front.length, a, by simp, ha, fun i' a' ha' hsome => ?_⟩
  by_contra hlt
  rw [List.getElem?_append_left (by omega)] at ha'
  exact hsome (hfront a' (List.mem_of_getElem? ha'))

variable {isFile : String → Bool} {directories : List String} {base directory stem : String}

theorem IsFirst.mem_stems (h : IsFirst isFile directories directory stem) : stem ∈ stems := by
  obtain ⟨i, j, ⟨-, hj⟩, -, -⟩ := h
  exact List.mem_of_getElem? hj

theorem find?_eq_none_iff :
    (baseNames.map (Path.join directory)).find? isFile = none ↔
      ∀ stem ∈ stems, isFile (fileIn directory stem) = false := by
  rw [map_join_baseNames, List.find?_eq_none, List.forall_mem_map]
  simp only [Bool.not_eq_true]

/-- The file that is found is the first one. -/
theorem exists_first_of_findBase? (h : findBase? isFile directories = some base) :
    ∃ directory stem, IsFirst isFile directories directory stem ∧ base = fileIn directory stem := by
  obtain ⟨i, directory, hi, hfind, hleast⟩ := exists_first_of_findSome? h
  rw [map_join_baseNames, List.find?_map, List.find?_eq_findSome?_guard] at hfind
  obtain ⟨stem, hstem, rfl⟩ := Option.map_eq_some_iff.1 hfind
  obtain ⟨j, stem', hj, hguard, hleast'⟩ := exists_first_of_findSome? hstem
  obtain ⟨rfl, hfile⟩ := Option.guard_eq_some_iff.1 hguard
  refine ⟨directory, stem', ⟨i, j, ⟨hi, hj⟩, hfile, ?_⟩, rfl⟩
  rintro i' j' directory' other ⟨hi', hj'⟩ hthere
  have hsome : (baseNames.map (Path.join directory')).find? isFile ≠ none := by
    intro hnone
    have hmissing := find?_eq_none_iff.1 hnone other (List.mem_of_getElem? hj')
    cases hthere.symm.trans hmissing
  rcases Nat.eq_or_lt_of_le (hleast i' directory' hi' hsome) with rfl | hlt
  · -- in the same directory the place of the stem counts
    cases hi.symm.trans hi'
    refine Or.inr ⟨rfl, hleast' j' other hj' ?_⟩
    simpa [Option.guard] using hthere
  · exact Or.inl hlt

/-- Only one file comes first. -/
theorem IsFirst.unique {directory' stem' : String}
    (h : IsFirst isFile directories directory stem)
    (h' : IsFirst isFile directories directory' stem') : directory = directory' ∧ stem = stem' := by
  obtain ⟨i, j, hat, hfile, hleast⟩ := h
  obtain ⟨i', j', hat', hfile', hleast'⟩ := h'
  have hle := hleast i' j' directory' stem' hat' hfile'
  have hle' := hleast' i j directory stem hat hfile
  obtain rfl : i = i' := by omega
  obtain rfl : j = j' := by omega
  exact ⟨Option.some.inj (hat.1.symm.trans hat'.1), Option.some.inj (hat.2.symm.trans hat'.2)⟩

/-- The first file is found. -/
theorem findBase?_eq_some_iff :
    findBase? isFile directories = some base ↔
      ∃ directory stem, IsFirst isFile directories directory stem ∧ base = fileIn directory stem := by
  refine ⟨exists_first_of_findBase?, ?_⟩
  rintro ⟨directory, stem, hfirst, rfl⟩
  cases hfound : findBase? isFile directories with
  | some base =>
    obtain ⟨directory', stem', hfirst', rfl⟩ := exists_first_of_findBase? hfound
    obtain ⟨rfl, rfl⟩ := hfirst.unique hfirst'
    rfl
  | none =>
    obtain ⟨i, j, ⟨hi, hj⟩, hfile, -⟩ := hfirst
    have hnone := List.findSome?_eq_none_iff.1 hfound directory (List.mem_of_getElem? hi)
    have hmissing := find?_eq_none_iff.1 hnone stem (List.mem_of_getElem? hj)
    cases hfile.symm.trans hmissing

/-- No directory has a file with one of the usual names. -/
def NothingFound (s : Surroundings) (directories : List String) : Prop :=
  ∀ directory ∈ directories, ∀ name ∈ baseNames, s.isFile (Path.join directory name) = false

theorem findBase?_eq_none_iff :
    findBase? s.isFile directories = none ↔ NothingFound s directories := by
  rw [findBase?, List.findSome?_eq_none_iff]
  refine forall₂_congr fun directory _ => ?_
  rw [List.find?_eq_none, List.forall_mem_map]
  simp only [Bool.not_eq_true]

/-- Unless nothing is found, some file comes first. -/
theorem exists_first (h : ¬ NothingFound s directories) :
    ∃ directory stem, IsFirst s.isFile directories directory stem := by
  cases hfound : findBase? s.isFile directories with
  | some base =>
    obtain ⟨directory, stem, hfirst, -⟩ := exists_first_of_findBase? hfound
    exact ⟨directory, stem, hfirst⟩
  | none => exact absurd (findBase?_eq_none_iff.1 hfound) h

/-! ### Overlays -/

/-- The name of the overlay for a profile of the file with a stem. -/
def overlayName (stem : String) (p : Profile) : String := stem ++ "." ++ p.name ++ ".toml"

/-- The overlay for a profile of the file with a stem in a directory, if there is one. -/
def overlayIn (isFile : String → Bool) (directory stem : String) (p : Profile) : Option String :=
  if isFile (Path.join directory (overlayName stem p)) then
    some (Path.join directory (overlayName stem p))
  else none

variable {p : Profile}

theorem overlayName_eq : overlayName stem p = stem ++ ("." ++ (p.name ++ ".toml")) := by
  rw [overlayName, String.append_assoc, String.append_assoc]

theorem append_toml (stem : String) : stem ++ ".toml" = stem ++ "." ++ "toml" := by
  rw [String.append_assoc]
  rfl

/-- The overlay of a file stands in the directory of the file and has its stem. -/
theorem withOverlay_eq (hname : Path.name? base = some (stem ++ ".toml")) (hstem : stem ≠ "")
    (hparent : Path.parent? base = some directory) :
    withOverlay isFile p base = ⟨base, overlayIn isFile directory stem p⟩ := by
  rw [append_toml] at hname
  obtain ⟨hstem?, hextension?⟩ := Path.stem?_of_name hname hstem (by decide)
  have hpath : overlayPath? base p = some (Path.join directory (overlayName stem p)) := by
    have hsibling (name : String) : Path.sibling base name = Path.join directory name := by
      rw [Path.sibling, hparent, Option.getD_some]
    rw [overlayName, append_toml, ← hsibling, overlayPath?, hstem?, hextension?]
    rfl
  rw [withOverlay, hpath, overlayIn]
  rfl

theorem narrow_of_mem_stems (h : stem ∈ stems) : '/' ∉ stem.toList ∧ 2 < stem.toList.length := by
  rcases List.mem_pair.1 h with rfl | rfl
  · decide
  · decide

theorem ne_empty_of_mem_stems (h : stem ∈ stems) : stem ≠ "" := by
  rintro rfl
  exact absurd h (by decide)

theorem isName_append (h : stem ∈ stems) {text : String} (htext : '/' ∉ text.toList) :
    Path.IsName (stem ++ text) := by
  obtain ⟨hslash, hlength⟩ := narrow_of_mem_stems h
  refine Path.isName_of_length ?_ ?_
  · rw [String.toList_append, List.mem_append, not_or]
    exact ⟨hslash, htext⟩
  · rw [String.toList_append, List.length_append]
    omega

theorem isName_file (h : stem ∈ stems) : Path.IsName (stem ++ ".toml") :=
  isName_append h (by decide)

theorem isName_overlayName (h : stem ∈ stems) (hp : '/' ∉ p.name.toList) :
    Path.IsName (overlayName stem p) := by
  rw [overlayName_eq]
  refine isName_append h ?_
  rw [String.toList_append, String.toList_append, List.mem_append, List.mem_append, not_or, not_or]
  exact ⟨by decide, hp, by decide⟩

/-! ### Named files and first files -/

/-- A search gives the first file and its overlay. -/
theorem sources_of_first (hfile : l.file = none)
    (h : IsFirst isFile directories directory stem) :
    l.sources isFile directories =
      .ok (some ⟨fileIn directory stem,
        overlayIn isFile (Path.trimmed directory) stem l.profile⟩) := by
  have hname := isName_file h.mem_stems
  have hoverlay : withOverlay isFile l.profile (fileIn directory stem) =
      ⟨fileIn directory stem, overlayIn isFile (Path.trimmed directory) stem l.profile⟩ :=
    withOverlay_eq (Path.name?_join hname directory) (ne_empty_of_mem_stems h.mem_stems)
      (Path.parent?_join hname directory)
  rw [sources, hfile, findBase?_eq_some_iff.2 ⟨directory, stem, h, rfl⟩]
  simp only [Option.map_some, hoverlay]

variable {path : String}

/-- A named file that is there and has the right extension is read with its overlay. -/
theorem sources_of_name (hfile : l.file = some path) (hthere : isFile path = true)
    (hname : Path.name? path = some (stem ++ ".toml")) (hstem : stem ≠ "")
    (hparent : Path.parent? path = some directory) :
    l.sources isFile directories =
      .ok (some ⟨path, overlayIn isFile directory stem l.profile⟩) := by
  have hchoice : (Path.extension? path).getD "" = extension := by
    rw [append_toml] at hname
    rw [(Path.stem?_of_name hname hstem (by decide)).2]
    rfl
  rw [sources, hfile]
  simp only [hthere, hchoice, if_true]
  rw [withOverlay_eq hname hstem hparent]

/-- A path with the right extension has a stem, and a directory. -/
theorem exists_stem (hext : Path.extension? path = some "toml") :
    ∃ directory stem, Path.parent? path = some directory ∧
      Path.name? path = some (stem ++ ".toml") ∧ stem ≠ "" := by
  obtain ⟨stem, hname, hstem, -⟩ := Path.exists_name_of_extension? hext
  obtain ⟨-, directory, hparent, -⟩ := Path.exists_parent hname
  rw [← append_toml] at hname
  exact ⟨directory, stem, hparent, hname, hstem⟩

theorem sources_of_missing (hfile : l.file = some path) (hmissing : isFile path = false) :
    l.sources isFile directories = .error (.fileNotFound path) := by
  rw [sources, hfile]
  simp only [hmissing, Bool.false_eq_true, if_false]

theorem sources_of_format (hfile : l.file = some path) (hthere : isFile path = true)
    (hext : Path.extension? path ≠ some "toml") :
    l.sources isFile directories =
      .error (.unreadable (.format ((Path.extension? path).getD ""))) := by
  have hchoice : (Path.extension? path).getD "" ≠ extension := by
    cases h : Path.extension? path with
    | none => decide
    | some ext => exact fun heq => hext (h.trans (congrArg some heq))
  rw [sources, hfile]
  simp only [hthere, if_true, if_neg hchoice]

/-! ### What is found -/

/-- The files that a loader has to read, said without a search: the named file, if it is there and has
the right extension, or else the first file of the search, each with its overlay if that is there; and
nothing if the search has nothing to find. -/
inductive Finds (l : Loader) (s : Surroundings) : Option Sources → Prop where
  | named {path directory stem : String} (hfile : l.file = some path)
    (hthere : s.isFile path = true) (hname : Path.name? path = some (stem ++ ".toml"))
    (hstem : stem ≠ "") (hparent : Path.parent? path = some directory) :
    Finds l s (some ⟨path, overlayIn s.isFile directory stem l.profile⟩)
  | first {directory stem : String} (hfile : l.file = none)
    (hfirst : IsFirst s.isFile (l.directories s) directory stem) :
    Finds l s (some ⟨fileIn directory stem,
      overlayIn s.isFile (Path.trimmed directory) stem l.profile⟩)
  | nothing (hfile : l.file = none) (hnone : NothingFound s (l.directories s)) : Finds l s none

theorem sources_of_nothing (hfile : l.file = none) (h : NothingFound s directories) :
    l.sources s.isFile directories = .ok none := by
  rw [sources, hfile, findBase?_eq_none_iff.2 h]
  rfl

/-- The files of a loader are those that it has to read. -/
theorem sources_eq_ok_iff :
    l.sources s.isFile (l.directories s) = .ok sources ↔ l.Finds s sources := by
  constructor
  · intro h
    cases hfile : l.file with
    | none =>
      by_cases hnone : NothingFound s (l.directories s)
      · cases h.symm.trans (sources_of_nothing hfile hnone)
        exact .nothing hfile hnone
      · obtain ⟨directory, stem, hfirst⟩ := exists_first hnone
        cases h.symm.trans (sources_of_first hfile hfirst)
        exact .first hfile hfirst
    | some path =>
      by_cases hthere : s.isFile path = true
      · by_cases hext : Path.extension? path = some "toml"
        · obtain ⟨directory, stem, hparent, hname, hstem⟩ := exists_stem hext
          cases h.symm.trans (sources_of_name hfile hthere hname hstem hparent)
          exact .named hfile hthere hname hstem hparent
        · cases h.symm.trans (sources_of_format hfile hthere hext)
      · cases h.symm.trans (sources_of_missing hfile (Bool.eq_false_iff.2 hthere))
  · intro h
    cases h with
    | named hfile hthere hname hstem hparent =>
      exact sources_of_name hfile hthere hname hstem hparent
    | first hfile hfirst => exact sources_of_first hfile hfirst
    | nothing hfile hnone => exact sources_of_nothing hfile hnone

end Switchboard.Loader
