/-!
# Paths

A path is a text whose names are separated by slashes. Slashes at the end and dots that stand for
the directory itself do not count, except a dot that starts the path.

* `Path.name?`, `Path.parent?`: the last name of a path and the path before it;
* `Path.stem?`, `Path.extension?`: the last name before and behind its last point;
* `Path.join`: a path inside a directory; `Path.sibling`: another name beside a path.
-/

namespace Switchboard.Path

/-- Drops slashes and dots at the end of a path that is given from its end. The slash of the root
stays. -/
def trimEnd : List Char → List Char
  | '/' :: rest => if rest.isEmpty then ['/'] else trimEnd rest
  | '.' :: '/' :: rest => trimEnd ('/' :: rest)
  | cs => cs

/-- The characters of a path from its end on, without what does not count there. -/
def reversed (path : String) : List Char := trimEnd path.toList.reverse

/-- No slash. -/
def inName (c : Char) : Bool := c ≠ '/'

/-- The last name of a path. The root, the directory itself and its parent have none. -/
def name? (path : String) : Option String :=
  let name := ((reversed path).takeWhile inName).reverse
  if name = [] ∨ name = ['.'] ∨ name = ['.', '.'] then none else some (String.ofList name)

/-- The path without its last name. The root and the empty path have none. -/
def parent? (path : String) : Option String :=
  let cs := reversed path
  if cs = [] ∨ cs = ['/'] then none
  else some (String.ofList (trimEnd (cs.dropWhile inName)).reverse)

/-- The text before and behind the last point. A point that starts a name does not count. -/
def splitAtPoint (name : String) : String × Option String :=
  let cs := name.toList.reverse
  match cs.dropWhile (· ≠ '.') with
  | '.' :: before =>
    if before = [] then (name, none)
    else (String.ofList before.reverse, some (String.ofList (cs.takeWhile (· ≠ '.')).reverse))
  | _ => (name, none)

/-- The last name of a path without its extension. -/
def stem? (path : String) : Option String := (name? path).map fun name => (splitAtPoint name).1

/-- The part of the last name of a path behind its last point. -/
def extension? (path : String) : Option String :=
  (name? path).bind fun name => (splitAtPoint name).2

/-- A path inside a directory. A path that starts at the root stands for itself. -/
def join (directory path : String) : String :=
  if path.toList.head? = some '/' ∨ directory = "" then path
  else if directory.toList.getLast? = some '/' then directory ++ path
  else directory ++ "/" ++ path

/-- Another name in the directory of a path. -/
def sibling (path name : String) : String := join ((parent? path).getD "") name

/-- The names of a path between its slashes, the empty ones included. -/
def names (path : String) : List String := path.splitOn "/"

end Switchboard.Path
