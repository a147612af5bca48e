import Switchboard.Toml.Scalar

/-!
# TOML: statements

A document is a list of statements, one a line: headers of tables and of items of arrays of tables,
and pairs of a key and a value. A key may have several parts, and values may stand inside each
other, both up to `depthLimit`. What the statements mean together is the matter of `Toml.Tree`.
-/

namespace Switchboard.Toml

/-- A value as it is written: a finished one, or a table in one line with its pairs. -/
inductive Written where
  | value (v : Value)
  | array (items : List Written)
  | table (pairs : List (List String × Written))

/-- One line of a document. -/
inductive Statement where
  /-- The pairs that follow belong to this table. -/
  | table (key : List String)
  /-- The pairs that follow belong to a new item of this array. -/
  | item (key : List String)
  | pair (key : List String) (w : Written)

/-- How many parts a key may have, and how many arrays and tables in one line may stand inside each
other. -/
def depthLimit : Nat := 79

/-- A character of keys without quotes. -/
def isBareKeyChar (c : Char) : Bool := c.isAlphanum || c = '_' || c = '-'

/-- Reads one part of a key. -/
def readKeyPart : List Char → Option (String × List Char)
  | '"' :: rest => Text.readQuoted rest
  | '\'' :: rest => (readLiteral rest).map fun (ds, rest) => (String.ofList ds, rest)
  | cs =>
    let part := cs.takeWhile isBareKeyChar
    if part.isEmpty then none else some (String.ofList part, cs.dropWhile isBareKeyChar)

/-- Reads a key of so many parts at most, with the blanks around it. -/
def readKeyParts : Nat → List Char → Option (List String × List Char)
  | 0, _ => none
  | count + 1, cs => do
    let (part, rest) ← readKeyPart (skipSpace cs)
    match skipSpace rest with
    | '.' :: rest =>
      let (parts, rest) ← readKeyParts count rest
      some (part :: parts, rest)
    | rest => some ([part], rest)

/-- Reads a key with the blanks around it. -/
def readKey (cs : List Char) : Option (List String × List Char) := readKeyParts depthLimit cs

/-- Reads a comment. -/
def skipComment : List Char → List Char
  | '#' :: rest => rest.dropWhile Text.isPlain
  | cs => cs

/-- Reads the end of a line: blanks, a comment, and the line end or the end of the document. -/
def lineEnd? (cs : List Char) : Option (List Char) :=
  match skipComment (skipSpace cs) with
  | [] => some []
  | rest => newline? rest

/-- Drops blanks, comments and line ends inside an array. -/
def skipFiller : Nat → List Char → List Char
  | 0, cs => cs
  | fuel + 1, cs =>
    match skipSpace cs with
    | '#' :: rest =>
      match newline? (rest.dropWhile Text.isPlain) with
      | some rest => skipFiller fuel rest
      | none => '#' :: rest
    | rest =>
      match newline? rest with
      | some rest => skipFiller fuel rest
      | none => rest

mutual

/-- Reads a value in which so many arrays and tables at most stand inside each other. -/
def readValue : Nat → Nat → List Char → Option (Written × List Char)
  | 0, _, _ => none
  | fuel + 1, depth, cs =>
    match cs with
    | '[' :: rest =>
      match depth with
      | 0 => none
      | depth + 1 => (readItems fuel depth rest).map fun (items, rest) => (.array items, rest)
    | '\x7b' :: rest =>
      match depth, skipSpace rest with
      | 0, _ => none
      | _, '\x7d' :: rest => some (.table [], rest)
      | depth + 1, rest => (readPairs fuel depth rest).map fun (pairs, rest) => (.table pairs, rest)
    | '"' :: _ | '\'' :: _ => (readString cs).map fun (s, rest) => (.value (.string s), rest)
    | _ => (readToken cs).map fun (v, rest) => (.value v, rest)

/-- Reads the items of an array with the closing bracket. A comma may stand behind the last. -/
def readItems : Nat → Nat → List Char → Option (List Written × List Char)
  | 0, _, _ => none
  | fuel + 1, depth, cs =>
    match skipFiller fuel cs with
    | ']' :: rest => some ([], rest)
    | cs => do
      let (w, rest) ← readValue fuel depth cs
      match skipFiller fuel rest with
      | ',' :: rest =>
        let (ws, rest) ← readItems fuel depth rest
        some (w :: ws, rest)
      | ']' :: rest => some ([w], rest)
      | _ => none

/-- Reads the pairs of a table in one line, which has one, with the closing brace. -/
def readPairs : Nat → Nat → List Char → Option (List (List String × Written) × List Char)
  | 0, _, _ => none
  | fuel + 1, depth, cs => do
    let (key, rest) ← readKey cs
    let rest ← expect? '=' rest
    let (w, rest) ← readValue fuel depth (skipSpace rest)
    match skipSpace rest with
    | ',' :: rest =>
      let (pairs, rest) ← readPairs fuel depth rest
      some ((key, w) :: pairs, rest)
    | '\x7d' :: rest => some ([(key, w)], rest)
    | _ => none

end

/-- Reads one statement, which starts the line. -/
def readStatement (cs : List Char) : Option (Statement × List Char) :=
  match cs with
  | '[' :: '[' :: rest => do
    let (key, rest) ← readKey rest
    let rest ← expect? ']' rest >>= expect? ']'
    some (.item key, rest)
  | '[' :: rest => do
    let (key, rest) ← readKey rest
    let rest ← expect? ']' rest
    some (.table key, rest)
  | _ => do
    let (key, rest) ← readKey cs
    let rest ← expect? '=' rest
    let rest := skipSpace rest
    let (w, rest) ← readValue (2 * rest.length + 2) depthLimit rest
    some (.pair key w, rest)

/-- Reads the statements of a document. -/
def readStatements : Nat → List Char → Option (List Statement)
  | 0, _ => none
  | fuel + 1, cs =>
    match lineEnd? cs with
    | some [] => some []
    | some rest => readStatements fuel rest
    | none => do
      let (s, rest) ← readStatement (skipSpace cs)
      let rest ← lineEnd? rest
      let statements ← readStatements fuel rest
      some (s :: statements)

end Switchboard.Toml
