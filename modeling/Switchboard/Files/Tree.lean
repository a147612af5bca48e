import Switchboard.Files.Path
import Switchboard.Surroundings

/-!
# Trees of files

A tree holds the files below a working directory. Paths are followed name by name: each name but
the last has to be a directory, a dot or an empty name stays where it is, and two dots go up. What
lies above the working directory is not part of the tree. Names and paths have at most so many bytes.

* `FileTree.ofList`: the tree with given files, with all directories on the way to them;
* `FileTree.read?`: reading the file at a path;
* `FileTree.open?`: the tree with a file that is opened for appending, with all directories on the
  way to it;
* `FileTree.surroundings`: the surroundings of a program that runs in the working directory.
-/

namespace Switchboard

/-- A place that a path leads to: names from the working directory down, the last one first, or
somewhere outside. -/
inductive Place where
  | inside (names : List String)
  | outside
deriving DecidableEq, Repr

namespace Place

/-- The names of a place as one path. -/
def key (names : List String) : String := "/".intercalate names.reverse

end Place

/-- The files below a working directory, all of them texts. -/
structure FileTree where
  /-- The absolute path of the working directory. -/
  root : String
  /-- The files by their paths from the working directory. -/
  files : Table String
  /-- The paths of the directories in the working directory. -/
  directories : List String

namespace FileTree

/-- An empty working directory. -/
def empty (root : String) : FileTree := ⟨root, [], []⟩

/-- Whether there is a directory at a place in the tree. -/
def hasDirectory (t : FileTree) (names : List String) : Bool :=
  names.isEmpty || t.directories.contains (Place.key names)

/-- Whether there is a file at a place in the tree. -/
def hasFile (t : FileTree) (names : List String) : Bool := Table.contains (Place.key names) t.files

/-- Adds a directory at a place in the tree. -/
def addDirectory (t : FileTree) (names : List String) : FileTree :=
  if t.hasDirectory names then t else { t with directories := Place.key names :: t.directories }

/-- Adds a file with its text at a place in the tree. -/
def addFile (t : FileTree) (names : List String) (text : String) : FileTree :=
  { t with files := Table.insert (Place.key names) text t.files }

/-- The names that lead from the working directory to a path. A path that starts at the root of all
files leads nowhere in the tree, unless it starts with the path of the working directory. -/
def relative? (t : FileTree) (path : String) : Option (List String) :=
  let cs := path.toList
  let top := t.root.toList
  match cs.take top.length == top, cs.drop top.length with
  | true, [] => some []
  | true, '/' :: rest => some (Path.names (String.ofList rest))
  | _, _ => if cs.head? = some '/' then none else some (Path.names path)

/-- Follows names from a place. -/
def follow (t : FileTree) : Place → List String → Option Place
  | place, [] => some place
  | .outside, _ => some .outside
  | .inside here, name :: rest =>
    if t.hasDirectory here then
      if name = "" ∨ name = "." then t.follow (.inside here) rest
      else if name = ".." then
        match here with
        | [] => some .outside
        | _ :: up => t.follow (.inside up) rest
      else t.follow (.inside (name :: here)) rest
    else none

/-- The number of bytes that a name may have. -/
def nameLimit : Nat := 255

/-- The number of bytes that a path may have. -/
def pathLimit : Nat := 4095

/-- The place in the tree that a path leads to. The empty path and one that is too long lead
nowhere. -/
def locate? (t : FileTree) (path : String) : Option (List String) :=
  if path = "" ∨ pathLimit < path.utf8ByteSize then none
  else
    match (t.relative? path).bind (t.follow (.inside [])) with
    | some (.inside names) => some names
    | _ => none

/-- The text of the file at a path. -/
def read? (t : FileTree) (path : String) : Option String :=
  (t.locate? path).bind fun names => Table.get? (Place.key names) t.files

/-- Makes the directories that names lead through from a place. -/
def makeDirectories : FileTree → Place → List String → Option (FileTree × Place)
  | t, place, [] => some (t, place)
  | t, .outside, _ => some (t, .outside)
  | t, .inside here, name :: rest =>
    if name = "" ∨ name = "." then t.makeDirectories (.inside here) rest
    else if name = ".." then
      match here with
      | [] => some (t, .outside)
      | _ :: up => t.makeDirectories (.inside up) rest
    else if t.hasFile (name :: here) ∨ nameLimit < name.utf8ByteSize then none
    else (t.addDirectory (name :: here)).makeDirectories (.inside (name :: here)) rest

/-- Adds a file with its text, or without a text a directory, at a path, and the directories on the
way to it. What cannot be added is left out. -/
def add (t : FileTree) (path : String) : Option String → FileTree
  | some text =>
    match t.makeDirectories (.inside []) (Path.names path).dropLast, (Path.names path).getLast? with
    | some (t, .inside here), some name => t.addFile (name :: here) text
    | _, _ => t
  | none => ((t.makeDirectories (.inside []) (Path.names path)).map Prod.fst).getD t

/-- The tree with files and, where there is no text, directories at the given paths. -/
def ofList (root : String) (entries : List (String × Option String)) : FileTree :=
  entries.foldl (fun t entry => t.add entry.1 entry.2) (empty root)

/-- Whether a file may have a path and a name: neither is too long, and the path has no character
zero. -/
def mayName (path name : String) : Bool :=
  path.utf8ByteSize ≤ pathLimit && name.utf8ByteSize ≤ nameLimit && !path.toList.contains '\x00'

/-- Opens a log file for appending: the directories on the way to it are made if they are not
there, and so is the file. It fails if a file is in the way of a directory or a directory in the way
of the file, or if no file may have its path. Files outside of the tree leave no trace in it. -/
def open? (t : FileTree) (file : LogFile) : Option FileTree := do
  if mayName (Path.join file.directory file.name) file.name then
    match t.relative? file.directory with
    | none => some t
    | some names =>
      match ← t.makeDirectories (.inside []) names with
      | (t, .inside here) =>
        if t.hasDirectory (file.name :: here) then none
        else if t.hasFile (file.name :: here) then some t
        else some (t.addFile (file.name :: here) "")
      | (t, .outside) => some t
  else none

/-- The surroundings of a program that runs in the working directory. The directory for the
configurations of a user lies in it. -/
def surroundings (t : FileTree) (environment : Table String) (now : Moment) : Surroundings :=
  { file? := fun path => (t.read? path).map .text
    opens := fun file => (t.open? file).isSome
    environment := environment
    workingDirectory := t.root
    userDirectory := some (Path.join t.root "xdg")
    now := now }

/-- The paths of the files in a tree that are not among the given ones, in order. -/
def filesBeside (t : FileTree) (known : List String) : List String :=
  t.files.names.filter fun path => !known.contains path

end FileTree

end Switchboard
