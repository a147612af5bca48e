import Switchboard.Config.Document
import Switchboard.Config.Environment
import Switchboard.Config.Profile
import Switchboard.Config.Validation
import Switchboard.Config.Wrapping
import Switchboard.Files.Path
import Switchboard.Surroundings
import Switchboard.Toml.Tree

/-!
# Loading a configuration

A loader lays configurations over each other, each counting more than the ones before it: the
initial one, those that the program adds, a file, the overlay of the file for the profile, and the
environment.

The file is either named, or the first one found: in the first directory of the search that has one
of the usual names, the usual names in order. The overlay stands beside the file and has the name of
the profile before its extension; there need not be one.

* `Loader.sources`: the files that are read;
* `Loader.layers`: the layers from the lowest to the highest;
* `Loader.load`: the configuration, checked, and what is noted on the way.
-/

namespace Switchboard

/-- The files that a configuration is read from. -/
structure Sources where
  base : String
  overlay : Option String
deriving DecidableEq, Repr

namespace Sources

/-- The files in the order in which they are read. -/
def paths (s : Sources) : List String := s.base :: s.overlay.toList

end Sources

/-- Why a configuration cannot be loaded. -/
inductive LoadFailure where
  | config (e : ConfigError)
  /-- The text of this variable of the environment cannot be read. -/
  | environment (name : String)

/-- How a configuration is loaded. -/
structure Loader where
  profile : Profile
  /-- The directories that are searched; without any, the usual ones are. -/
  searchPaths : List String
  /-- The named file. -/
  file : Option String
  readsEnvironment : Bool
  /-- The configurations that the program adds, the first one lowest. -/
  added : List Config

namespace Loader

/-- A loader that takes the profile of the environment and searches the usual directories. -/
def fresh (s : Surroundings) : Loader :=
  { profile := Profile.ofEnvironment s.environment
    searchPaths := []
    file := none
    readsEnvironment := true
    added := [] }

/-- Chooses the profile. -/
def withProfile (l : Loader) (text : String) : Loader := { l with profile := Profile.parse text }

/-- Adds a directory to the search. -/
def withSearchPath (l : Loader) (directory : String) : Loader :=
  { l with searchPaths := l.searchPaths ++ [directory] }

/-- The directory for the configurations of a user of this library. -/
def userSearchPath (s : Surroundings) : Option String :=
  s.userDirectory.map fun directory => Path.join directory "reacton"

/-- Adds the working directory to the search. -/
def withWorkingDirectory (l : Loader) (s : Surroundings) : Loader :=
  l.withSearchPath s.workingDirectory

/-- Adds the directory of the user to the search. -/
def withUserDirectory (l : Loader) (s : Surroundings) : Loader :=
  match userSearchPath s with
  | some directory => l.withSearchPath directory
  | none => l

/-- Names the file. -/
def withFile (l : Loader) (path : String) : Loader := { l with file := some path }

/-- Turns the reading of the environment on or off. -/
def withEnvironment (l : Loader) (enabled : Bool) : Loader := { l with readsEnvironment := enabled }

/-- Adds a configuration over those added so far. -/
def add (l : Loader) (c : Config) : Loader := { l with added := l.added ++ [c] }

/-! ### Files -/

/-- The usual names of configuration files. -/
def baseNames : List String := ["reacton.toml", "config.toml"]

/-- The extension of the files that can be read. -/
def extension : String := "toml"

/-- The path of the overlay of a file for a profile. -/
def overlayPath? (base : String) (p : Profile) : Option String := do
  let stem ← Path.stem? base
  let ext ← Path.extension? base
  some (Path.sibling base (stem ++ "." ++ p.name ++ "." ++ ext))

/-- A file with its overlay, if there is one. -/
def withOverlay (isFile : String → Bool) (p : Profile) (base : String) : Sources :=
  ⟨base, (overlayPath? base p).filter isFile⟩

/-- The first file with one of the usual names in the first directory that has one. -/
def findBase? (isFile : String → Bool) (directories : List String) : Option String :=
  directories.findSome? fun directory =>
    (baseNames.map (Path.join directory)).find? isFile

/-- The directories that are searched. -/
def directories (l : Loader) (s : Surroundings) : List String :=
  if l.searchPaths.isEmpty then s.workingDirectory :: (userSearchPath s).toList else l.searchPaths

/-- The files that are read, if any. A named file has to be there and to have the right extension;
without one the search may find nothing. -/
def sources (l : Loader) (isFile : String → Bool) (directories : List String) :
    Except ConfigError (Option Sources) :=
  match l.file with
  | some path =>
    if isFile path then
      let ext := (Path.extension? path).getD ""
      if ext = extension then .ok (some (withOverlay isFile l.profile path))
      else .error (.unreadable (.format ext))
    else .error (.fileNotFound path)
  | none => .ok ((findBase? isFile directories).map (withOverlay isFile l.profile))

/-! ### Layers -/

/-- Reads a file as a layer. -/
def readLayer (s : Surroundings) (path : String) : Except ConfigError Value :=
  match ((s.read? path).bind Toml.parse?).bind Wrapping.document with
  | some v => .ok v
  | none => .error (.unreadable (.document path))

/-- The layer of the environment, if it is read. -/
def environmentLayers (l : Loader) (s : Surroundings) : Except LoadFailure (List Value) :=
  if l.readsEnvironment then
    match Environment.layer s.environment with
    | .ok v => .ok [v]
    | .error name => .error (.environment name)
  else .ok []

/-- The layers from the lowest to the highest. An environment that cannot be read is told before a
file that cannot be read. -/
def layers (l : Loader) (s : Surroundings) (paths : List String) :
    Except LoadFailure (List Value) := do
  let environment ← l.environmentLayers s
  let documents ← (paths.mapM (readLayer s)).mapError LoadFailure.config
  return (default : Config).encode :: l.added.map Config.encode ++ documents ++ environment

/-- Reads a configuration from merged layers. -/
def extract (layers : List Value) : Except ConfigError Config :=
  match Config.decode .ignored (Value.mergeAll layers) with
  | .ok c => .ok c
  | .error m => .error (.unreadable (.shape m))

/-- A configuration that has been checked. -/
def checked (c : Config) : Except ConfigError Config := c.check.map fun _ => c

/-- The configuration of these files, checked. -/
def configure (l : Loader) (s : Surroundings) (paths : List String) :
    Except LoadFailure Config := do
  let layers ← l.layers s paths
  ((extract layers).bind checked).mapError LoadFailure.config

/-! ### Notices -/

/-- What is noted about the files. -/
def sourceNotices (l : Loader) (directories : List String) : Option Sources → List Notice
  | some sources =>
    .loadingFile sources.base ::
      sources.overlay.toList.map fun path => .loadingOverlay path l.profile.name
  | none => [.noFileFound ("[" ++ ", ".intercalate (directories.map Text.quoted) ++ "]")]

/-- What is noted before the layers are merged. -/
def notices (l : Loader) (directories : List String) (sources : Option Sources) : List Notice :=
  l.sourceNotices directories sources ++
    (if l.readsEnvironment then [.loadingEnvironment Environment.opening] else [])

/-- Loads and checks the configuration. -/
def load (l : Loader) (s : Surroundings) (log : Log) : Except LoadFailure Config × Log :=
  let directories := l.directories s
  match l.sources s.isFile directories with
  | .error e => (.error (.config e), log)
  | .ok sources =>
    let log := (l.notices directories sources).foldl (fun log n => log.note n) log
    let paths := (sources.map Sources.paths).getD []
    match l.configure s paths with
    | .error e => (.error e, log)
    | .ok c =>
      (.ok c, log.note (.configLoaded l.profile.name c.logging.level.name c.bindings.length
        c.dispatch.strict))

/-- Loads the configuration in the usual way. -/
def loadUsual (s : Surroundings) (log : Log) : Except LoadFailure Config × Log :=
  (fresh s).load s log

/-- Loads the configuration from a file. -/
def loadFile (s : Surroundings) (path : String) (log : Log) : Except LoadFailure Config × Log :=
  ((fresh s).withFile path).load s log

end Loader

end Switchboard
