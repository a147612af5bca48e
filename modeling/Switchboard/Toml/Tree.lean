import Switchboard.Toml.Statement

/-!
# TOML: the tables of a document

The statements of a document build a tree of tables. Every table and every key is defined once:

* a header may name a table that so far only stands on the way to another one, but none that has
  had a header, none made by a key with several parts, and nothing else that is there;
* a key with several parts adds to a table that such keys have made; on the way there it may pass
  through tables without a header and through the last items of arrays of tables;
* an array of tables grows by headers only.

`Toml.parse?` reads a document as one value.
-/

namespace Switchboard.Toml

/-- How a table has come into being. -/
inductive Origin where
  /-- By a header of its own, or in one line. -/
  | header
  /-- On the way to a table with a header. -/
  | passage
  /-- By a key with several parts. -/
  | dotted
deriving DecidableEq

/-- What a name stands for. -/
inductive Node where
  | leaf (v : Value)
  | table (origin : Origin) (entries : List (String × Node))
  /-- An array of tables, the last item first. -/
  | items (tables : List (List (String × Node)))

/-- The entries of a table. -/
abbrev Entries := List (String × Node)

/-- What a name stands for in a table. -/
def find? (name : String) : Entries → Option Node
  | [] => none
  | (key, node) :: rest => if name = key then some node else find? name rest

/-- Sets what a name stands for. -/
def set (name : String) (node : Node) : Entries → Entries
  | [] => [(name, node)]
  | (key, old) :: rest =>
    if name = key then (key, node) :: rest else (key, old) :: set name node rest

mutual

/-- The value of what a name stands for. -/
def Node.value : Node → Value
  | .leaf v => v
  | .table _ entries => Value.ofPairs (entryValues entries)
  | .items tables => .array (tableValues tables).reverse

/-- The values of the entries of a table. -/
def entryValues : List (String × Node) → List (String × Value)
  | [] => []
  | (name, node) :: rest => (name, node.value) :: entryValues rest

/-- The values of tables. -/
def tableValues : List (List (String × Node)) → List Value
  | [] => []
  | entries :: rest => Value.ofPairs (entryValues entries) :: tableValues rest

end

/-- Adds a pair to a table. The parts of the key but the last lead from table to table; the last of
these tables has to be one that such keys make. -/
def addPair (v : Node) : List String → Entries → Option Entries
  | [], _ => none
  | [name], entries => if (find? name entries).isSome then none else some (set name v entries)
  | name :: rest, entries =>
    match find? name entries with
    | none => (addPair v rest []).map fun inner => set name (.table .dotted inner) entries
    | some (.table .dotted inner) =>
      (addPair v rest inner).map fun inner => set name (.table .dotted inner) entries
    | some (.table .passage inner) =>
      match rest with
      | _ :: _ :: _ =>
        (addPair v rest inner).map fun inner => set name (.table .passage inner) entries
      | _ => none
    | some (.items (last :: tables)) =>
      match rest with
      | _ :: _ :: _ =>
        (addPair v rest last).map fun last => set name (.items (last :: tables)) entries
      | _ => none
    | some _ => none

mutual

/-- The node of a written value. -/
def Written.node : Written → Option Node
  | .value v => some (.leaf v)
  | .array items => (itemValues items).map fun vs => .leaf (.array vs)
  | .table pairs =>
    (addWritten pairs []).map fun entries => .leaf (Node.table .header entries).value

/-- The values of the items of an array. -/
def itemValues : List Written → Option (List Value)
  | [] => some []
  | w :: rest => do
    let node ← w.node
    let vs ← itemValues rest
    some (node.value :: vs)

/-- Adds the pairs of a table in one line. -/
def addWritten : List (List String × Written) → Entries → Option Entries
  | [], entries => some entries
  | (key, w) :: rest, entries => do
    let node ← w.node
    let entries ← addPair node key entries
    addWritten rest entries

end

/-- Adds pairs to a table. -/
def addPairs (pairs : List (List String × Node)) (entries : Entries) : Option Entries :=
  pairs.foldlM (fun entries pair => addPair pair.2 pair.1 entries) entries

/-- Changes the table that all parts of a key but the last lead to. Tables that are not there yet
are made on the way; an array of tables stands for its last item. -/
def onParent (f : String → Entries → Option Entries) : List String → Entries → Option Entries
  | [], _ => none
  | [name], entries => f name entries
  | name :: rest, entries =>
    match find? name entries with
    | none => (onParent f rest []).map fun inner => set name (.table .passage inner) entries
    | some (.table origin inner) =>
      (onParent f rest inner).map fun inner => set name (.table origin inner) entries
    | some (.items (last :: tables)) =>
      (onParent f rest last).map fun last => set name (.items (last :: tables)) entries
    | some _ => none

/-- Defines a table with its pairs. -/
def defineTable (pairs : List (List String × Node)) (name : String) (parent : Entries) :
    Option Entries :=
  match find? name parent with
  | none => (addPairs pairs []).map fun t => set name (.table .header t) parent
  | some (.table .passage inner) =>
    (addPairs pairs inner).map fun t => set name (.table .header t) parent
  | some _ => none

/-- Adds an item with its pairs to an array of tables. -/
def defineItem (pairs : List (List String × Node)) (name : String) (parent : Entries) :
    Option Entries :=
  match find? name parent with
  | none => (addPairs pairs []).map fun t => set name (.items [t]) parent
  | some (.items tables) => (addPairs pairs []).map fun t => set name (.items (t :: tables)) parent
  | some _ => none

/-- The pairs that stand before the next header, and the statements from there on. -/
def leadingPairs : List Statement → Option (List (List String × Node) × List Statement)
  | .pair key w :: rest => do
    let node ← w.node
    let (pairs, rest) ← leadingPairs rest
    some ((key, node) :: pairs, rest)
  | rest => some ([], rest)

/-- Adds the sections of a document, each a header with its pairs. -/
def addSections : Nat → List Statement → Entries → Option Entries
  | _, [], root => some root
  | 0, _, _ => none
  | fuel + 1, s :: rest, root => do
    let (pairs, rest) ← leadingPairs rest
    let root ← match s with
      | .table key => onParent (defineTable pairs) key root
      | .item key => onParent (defineItem pairs) key root
      | .pair .. => none
    addSections fuel rest root

/-- The tables of a document. -/
def build (statements : List Statement) : Option Entries := do
  let (pairs, rest) ← leadingPairs statements
  let root ← addPairs pairs []
  addSections rest.length rest root

/-- Reads a document, which may start with a byte order mark. -/
def parse? (text : String) : Option Value := do
  let cs := match text.toList with
    | '\uFEFF' :: rest => rest
    | cs => cs
  let statements ← readStatements (cs.length + 1) cs
  let root ← build statements
  some (Node.table .header root).value

end Switchboard.Toml
