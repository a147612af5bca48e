import Switchboard.Proofs.Value.Layers
import Switchboard.Toml.Tree

/-!
# Documents are tidy

A document has every name of a table once and no nulls, whatever its text. The finished values in it
are, and the tables that the statements build keep it so.

* `Toml.tidy_of_readValue`: the values as they are written;
* `Toml.Node.Tidy.value`: the tables of a tree with tidy leaves;
* `Toml.isLayer_of_parse?`: a whole document, which is a table.
-/

namespace Switchboard.Toml

/-! ### Written values -/

theorem tidy_of_integer? {cs : List Char} {v : Value} (h : integer? cs = some v) : v.Tidy := by
  have hfit : ∀ {negative base ds}, fit? negative base ds = some v → v.Tidy := by
    intro negative base ds hv
    obtain ⟨n, -, hv⟩ := Option.bind_eq_some_iff.1 hv
    obtain ⟨-, hv⟩ := Option.ite_none_right_eq_some.1 hv
    cases hv
    exact .int _
  unfold integer? at h
  split at h
  all_goals
    obtain ⟨ds, -, hv⟩ := Option.bind_eq_some_iff.1 h
    exact hfit hv

theorem tidy_of_float? {cs : List Char} {v : Value} (h : float? cs = some v) : v.Tidy := by
  unfold float? at h
  simp only at h
  split at h
  · cases h
    exact .double _
  · split at h
    · cases h
      exact .double _
    · obtain ⟨whole, -, h⟩ := Option.bind_eq_some_iff.1 h
      split at h
      all_goals
        obtain ⟨⟨fraction, rest⟩, -, h⟩ := Option.bind_eq_some_iff.1 h
        simp only at h
        split at h
        all_goals
          obtain ⟨exponent, -, h⟩ := Option.bind_eq_some_iff.1 h
          obtain ⟨-, h⟩ := Option.ite_none_left_eq_some.1 h
          cases h
          exact .double _

theorem tidy_moment (cs : List Char) : (moment cs).Tidy :=
  .object (List.pairwise_singleton _ _) fun pair hpair => by
    rw [List.mem_singleton.1 hpair]
    exact .string _

theorem tidy_of_readToken {cs rest : List Char} {v : Value} (h : readToken cs = some (v, rest)) :
    v.Tidy := by
  unfold readToken at h
  simp only at h
  split at h
  · cases h
    exact .bool _
  · split at h
    · cases h
      exact .bool _
    · split at h
      · obtain ⟨-, h⟩ := Option.ite_none_right_eq_some.1 h
        cases h
        exact tidy_moment _
      · split at h
        next v' hv =>
          cases h
          exact tidy_of_integer? hv
        next =>
          obtain ⟨v', hv, heq⟩ := Option.map_eq_some_iff.1 h
          cases heq
          exact tidy_of_float? hv

/-- A written value is tidy if its finished values are; those inside an array do not count. -/
inductive Written.Tidy : Written → Prop
  | value {v : Value} (h : v.Tidy) : Tidy (.value v)
  | array (items : List Written) : Tidy (.array items)
  | table {pairs : List (List String × Written)} (h : ∀ pair ∈ pairs, Tidy pair.2) :
    Tidy (.table pairs)

/-- Written values are tidy, with the pairs of tables in one line. -/
theorem tidy_of_readValue_readPairs (fuel : Nat) :
    (∀ depth cs w rest, readValue fuel depth cs = some (w, rest) → w.Tidy) ∧
      ∀ depth cs pairs rest, readPairs fuel depth cs = some (pairs, rest) →
        ∀ pair ∈ pairs, pair.2.Tidy := by
  -- the two readers call each other with less fuel; what arrays hold does not matter
  induction fuel with
  | zero =>
    constructor
    · intro depth cs w rest h
      rw [readValue] at h
      cases h
    · intro depth cs pairs rest h
      rw [readPairs] at h
      cases h
  | succ fuel ih =>
    obtain ⟨hvalue, hpairs⟩ := ih
    constructor
    · intro depth cs w rest h
      unfold readValue at h
      split at h
      · split at h
        · cases h
        · obtain ⟨found, -, heq⟩ := Option.map_eq_some_iff.1 h
          cases heq
          exact .array _
      · split at h
        · cases h
        · cases h
          exact .table (by simp)
        · obtain ⟨found, hfound, heq⟩ := Option.map_eq_some_iff.1 h
          cases heq
          exact .table (hpairs _ _ _ _ hfound)
      · obtain ⟨found, -, heq⟩ := Option.map_eq_some_iff.1 h
        cases heq
        exact .value (.string _)
      · obtain ⟨found, -, heq⟩ := Option.map_eq_some_iff.1 h
        cases heq
        exact .value (.string _)
      · obtain ⟨found, hfound, heq⟩ := Option.map_eq_some_iff.1 h
        cases heq
        exact .value (tidy_of_readToken hfound)
    · intro depth cs pairs rest h
      unfold readPairs at h
      obtain ⟨⟨key, rest'⟩, -, h⟩ := Option.bind_eq_some_iff.1 h
      obtain ⟨rest', -, h⟩ := Option.bind_eq_some_iff.1 h
      obtain ⟨⟨w, rest'⟩, hw, h⟩ := Option.bind_eq_some_iff.1 h
      have hw := hvalue _ _ _ _ hw
      simp only at h
      split at h
      · obtain ⟨⟨more, rest'⟩, hmore, h⟩ := Option.bind_eq_some_iff.1 h
        cases h
        exact List.forall_mem_cons.2 ⟨hw, hpairs _ _ _ _ hmore⟩
      · cases h
        exact List.forall_mem_singleton.2 hw
      · cases h

theorem tidy_of_readValue {fuel depth : Nat} {cs rest : List Char} {w : Written}
    (h : readValue fuel depth cs = some (w, rest)) : w.Tidy :=
  (tidy_of_readValue_readPairs fuel).1 depth cs w rest h

/-- A statement is tidy if the value of its pair is. -/
def Statement.Tidy : Statement → Prop
  | .pair _ w => w.Tidy
  | _ => True

theorem tidy_of_readStatement {cs rest : List Char} {s : Statement}
    (h : readStatement cs = some (s, rest)) : s.Tidy := by
  unfold readStatement at h
  split at h
  · obtain ⟨⟨key, rest'⟩, -, h⟩ := Option.bind_eq_some_iff.1 h
    obtain ⟨rest', -, h⟩ := Option.bind_eq_some_iff.1 h
    cases h
    trivial
  · obtain ⟨⟨key, rest'⟩, -, h⟩ := Option.bind_eq_some_iff.1 h
    obtain ⟨rest', -, h⟩ := Option.bind_eq_some_iff.1 h
    cases h
    trivial
  · obtain ⟨⟨key, rest'⟩, -, h⟩ := Option.bind_eq_some_iff.1 h
    obtain ⟨rest', -, h⟩ := Option.bind_eq_some_iff.1 h
    obtain ⟨⟨w, rest'⟩, hw, h⟩ := Option.bind_eq_some_iff.1 h
    cases h
    exact tidy_of_readValue hw

theorem tidy_of_readStatements {fuel : Nat} {cs : List Char} {ss : List Statement}
    (h : readStatements fuel cs = some ss) : ∀ s ∈ ss, s.Tidy := by
  induction fuel generalizing cs ss with
  | zero => cases h
  | succ fuel ih =>
    unfold readStatements at h
    split at h
    · cases h
      exact fun s hs => absurd hs List.not_mem_nil
    · exact ih h
    · obtain ⟨⟨s, rest⟩, hs, h⟩ := Option.bind_eq_some_iff.1 h
      obtain ⟨rest, -, h⟩ := Option.bind_eq_some_iff.1 h
      obtain ⟨more, hmore, h⟩ := Option.bind_eq_some_iff.1 h
      cases h
      exact List.forall_mem_cons.2 ⟨tidy_of_readStatement hs, ih hmore⟩

/-! ### Trees of tables -/

/-- A node is tidy if its leaves are; those inside an array do not count. -/
inductive Node.Tidy : Node → Prop
  | leaf {v : Value} (h : v.Tidy) : Tidy (.leaf v)
  | table {origin : Origin} {entries : Entries} (h : ∀ e ∈ entries, Tidy e.2) :
    Tidy (.table origin entries)
  | items (tables : List Entries) : Tidy (.items tables)

/-- All entries are tidy. -/
def Entries.Tidy (entries : Entries) : Prop := ∀ e ∈ entries, e.2.Tidy

theorem Entries.tidy_nil : Entries.Tidy [] := fun _ h => absurd h List.not_mem_nil

theorem mem_entryValues {entries : Entries} {pair : String × Value}
    (h : pair ∈ entryValues entries) : ∃ e ∈ entries, pair.2 = e.2.value := by
  induction entries with
  | nil =>
    rw [entryValues] at h
    cases h
  | cons e rest ih =>
    obtain ⟨name, node⟩ := e
    rw [entryValues] at h
    rcases List.mem_cons.1 h with rfl | h
    · exact ⟨_, List.mem_cons_self, rfl⟩
    · obtain ⟨e, he, hpair⟩ := ih h
      exact ⟨e, List.mem_cons_of_mem _ he, hpair⟩

theorem Node.Tidy.value {node : Node} (h : node.Tidy) : node.value.Tidy := by
  induction h with
  | leaf h => exact h
  | table h ih =>
    rw [Node.value]
    refine Value.Tidy.ofPairs fun pair hpair => ?_
    obtain ⟨e, he, heq⟩ := mem_entryValues hpair
    rw [heq]
    exact ih e he
  | items tables =>
    rw [Node.value]
    exact .array _

theorem Entries.Tidy.find? {entries : Entries} (h : entries.Tidy) {name : String} {node : Node}
    (hfind : find? name entries = some node) : node.Tidy := by
  induction entries with
  | nil => cases hfind
  | cons e rest ih =>
    obtain ⟨key, old⟩ := e
    obtain ⟨hold, hrest⟩ := List.forall_mem_cons.1 h
    unfold Toml.find? at hfind
    split at hfind
    · cases hfind
      exact hold
    · exact ih hrest hfind

theorem Entries.Tidy.set {entries : Entries} (h : entries.Tidy) (name : String) {node : Node}
    (hnode : node.Tidy) : (set name node entries).Tidy := by
  induction entries with
  | nil => exact List.forall_mem_singleton.2 hnode
  | cons e rest ih =>
    obtain ⟨key, old⟩ := e
    obtain ⟨hold, hrest⟩ := List.forall_mem_cons.1 h
    unfold Toml.set
    split
    · exact List.forall_mem_cons.2 ⟨hnode, hrest⟩
    · exact List.forall_mem_cons.2 ⟨hold, ih hrest⟩

theorem Node.Tidy.entries {origin : Origin} {entries : Entries} (h : Tidy (.table origin entries)) :
    Entries.Tidy entries := by
  cases h with
  | table h => exact h

theorem Entries.Tidy.addPair {v : Node} (hv : v.Tidy) {key : List String} {entries later : Entries}
    (h : entries.Tidy) (hadd : addPair v key entries = some later) : later.Tidy := by
  fun_induction Toml.addPair v key entries generalizing later with
  | case1 => cases hadd
  | case2 => cases hadd
  | case3 name entries hnone =>
    cases hadd
    exact h.set name hv
  | case4 name rest entries hrest hfind ih =>
    obtain ⟨inner, hinner, rfl⟩ := Option.map_eq_some_iff.1 hadd
    exact h.set name (.table (ih tidy_nil hinner))
  | case5 name rest entries hrest inner hfind ih =>
    obtain ⟨inner', hinner, rfl⟩ := Option.map_eq_some_iff.1 hadd
    exact h.set name (.table (ih (h.find? hfind).entries hinner))
  | case6 name entries inner hfind second third rest hrest ih =>
    obtain ⟨inner', hinner, rfl⟩ := Option.map_eq_some_iff.1 hadd
    exact h.set name (.table (ih (h.find? hfind).entries hinner))
  | case8 name entries last tables hfind =>
    obtain ⟨last', -, rfl⟩ := Option.map_eq_some_iff.1 hadd
    exact h.set name (.items _)
  | case7 | case9 | case10 => cases hadd

theorem Entries.Tidy.addPairs {pairs : List (List String × Node)}
    (hpairs : ∀ pair ∈ pairs, pair.2.Tidy) {entries later : Entries} (h : entries.Tidy)
    (hadd : addPairs pairs entries = some later) : later.Tidy := by
  induction pairs generalizing entries with
  | nil =>
    cases hadd
    exact h
  | cons pair rest ih =>
    obtain ⟨hpair, hrest⟩ := List.forall_mem_cons.1 hpairs
    rw [Toml.addPairs, List.foldlM_cons] at hadd
    obtain ⟨between, hbetween, hadd⟩ := Option.bind_eq_some_iff.1 hadd
    exact ih hrest (h.addPair hpair hbetween) hadd

theorem Entries.Tidy.addWritten {pairs : List (List String × Written)}
    (hpairs : ∀ pair ∈ pairs, ∀ node, pair.2.node = some node → node.Tidy)
    {entries later : Entries} (h : entries.Tidy) (hadd : addWritten pairs entries = some later) :
    later.Tidy := by
  induction pairs generalizing entries with
  | nil =>
    rw [Toml.addWritten] at hadd
    cases hadd
    exact h
  | cons pair rest ih =>
    obtain ⟨hpair, hrest⟩ := List.forall_mem_cons.1 hpairs
    rw [Toml.addWritten] at hadd
    obtain ⟨node, hnode, hadd⟩ := Option.bind_eq_some_iff.1 hadd
    obtain ⟨between, hbetween, hadd⟩ := Option.bind_eq_some_iff.1 hadd
    exact ih hrest (h.addPair (hpair node hnode) hbetween) hadd

/-- The node of a tidy written value is tidy. -/
theorem Written.Tidy.node {w : Written} (h : w.Tidy) {node : Node} (hnode : w.node = some node) :
    node.Tidy := by
  induction h generalizing node with
  | value h =>
    rw [Written.node] at hnode
    cases hnode
    exact .leaf h
  | array items =>
    rw [Written.node] at hnode
    obtain ⟨values, -, rfl⟩ := Option.map_eq_some_iff.1 hnode
    exact .leaf (.array _)
  | table h ih =>
    rw [Written.node] at hnode
    obtain ⟨entries, hentries, rfl⟩ := Option.map_eq_some_iff.1 hnode
    exact .leaf (Node.Tidy.table (Entries.tidy_nil.addWritten (fun pair hpair node => ih pair hpair)
      hentries)).value

/-! ### Documents -/

/-- A change that keeps tables tidy keeps them so below other tables. -/
theorem Entries.Tidy.onParent {f : String → Entries → Option Entries}
    (hf : ∀ name {entries later}, Entries.Tidy entries → f name entries = some later → later.Tidy)
    {key : List String} {entries later : Entries} (h : entries.Tidy)
    (hon : onParent f key entries = some later) : later.Tidy := by
  fun_induction Toml.onParent f key entries generalizing later with
  | case1 | case6 => cases hon
  | case2 name entries => exact hf name h hon
  | case3 name rest entries hrest hfind ih =>
    obtain ⟨inner, hinner, rfl⟩ := Option.map_eq_some_iff.1 hon
    exact h.set name (.table (ih tidy_nil hinner))
  | case4 name rest entries hrest origin inner hfind ih =>
    obtain ⟨inner', hinner, rfl⟩ := Option.map_eq_some_iff.1 hon
    exact h.set name (.table (ih (h.find? hfind).entries hinner))
  | case5 name rest entries hrest last tables hfind =>
    obtain ⟨last', -, rfl⟩ := Option.map_eq_some_iff.1 hon
    exact h.set name (.items _)

theorem Entries.Tidy.defineTable {pairs : List (List String × Node)}
    (hpairs : ∀ pair ∈ pairs, pair.2.Tidy) (name : String) {parent later : Entries}
    (h : parent.Tidy) (hdefine : defineTable pairs name parent = some later) : later.Tidy := by
  unfold Toml.defineTable at hdefine
  split at hdefine
  · obtain ⟨t, ht, rfl⟩ := Option.map_eq_some_iff.1 hdefine
    exact h.set name (.table (tidy_nil.addPairs hpairs ht))
  · obtain ⟨t, ht, rfl⟩ := Option.map_eq_some_iff.1 hdefine
    next hfind => exact h.set name (.table ((h.find? hfind).entries.addPairs hpairs ht))
  · cases hdefine

theorem Entries.Tidy.defineItem {pairs : List (List String × Node)} (name : String)
    {parent later : Entries} (h : parent.Tidy)
    (hdefine : defineItem pairs name parent = some later) : later.Tidy := by
  unfold Toml.defineItem at hdefine
  split at hdefine
  · obtain ⟨t, -, rfl⟩ := Option.map_eq_some_iff.1 hdefine
    exact h.set name (.items _)
  · obtain ⟨t, -, rfl⟩ := Option.map_eq_some_iff.1 hdefine
    exact h.set name (.items _)
  · cases hdefine

theorem tidy_of_leadingPairs {ss rest : List Statement} {pairs : List (List String × Node)}
    (h : ∀ s ∈ ss, s.Tidy) (hpairs : leadingPairs ss = some (pairs, rest)) :
    (∀ pair ∈ pairs, pair.2.Tidy) ∧ ∀ s ∈ rest, s.Tidy := by
  fun_induction leadingPairs ss generalizing pairs rest with
  | case1 key w ss ih =>
    obtain ⟨hw, hss⟩ := List.forall_mem_cons.1 h
    obtain ⟨node, hnode, hpairs⟩ := Option.bind_eq_some_iff.1 hpairs
    obtain ⟨⟨more, rest'⟩, hmore, hpairs⟩ := Option.bind_eq_some_iff.1 hpairs
    cases hpairs
    obtain ⟨hmore, hrest⟩ := ih hss hmore
    have hnode : node.Tidy := Written.Tidy.node (by exact hw) hnode
    exact ⟨List.forall_mem_cons.2 ⟨hnode, hmore⟩, hrest⟩
  | case2 ss =>
    cases hpairs
    exact ⟨fun pair hpair => absurd hpair List.not_mem_nil, h⟩

theorem Entries.Tidy.addSections {fuel : Nat} {ss : List Statement} (hss : ∀ s ∈ ss, s.Tidy)
    {root later : Entries} (h : root.Tidy) (hadd : addSections fuel ss root = some later) :
    later.Tidy := by
  fun_induction Toml.addSections fuel ss root generalizing later with
  | case1 =>
    cases hadd
    exact h
  | case2 => cases hadd
  | case3 fuel s rest root ih =>
    obtain ⟨⟨pairs, rest'⟩, hleading, hadd⟩ := Option.bind_eq_some_iff.1 hadd
    obtain ⟨hpairs, hrest⟩ := tidy_of_leadingPairs (List.forall_mem_cons.1 hss).2 hleading
    cases s with
    | table key =>
      obtain ⟨between, hbetween, hadd⟩ := Option.bind_eq_some_iff.1 hadd
      have hbetween := h.onParent (fun name => Entries.Tidy.defineTable hpairs name) hbetween
      exact ih _ _ hrest hbetween hadd
    | item key =>
      obtain ⟨between, hbetween, hadd⟩ := Option.bind_eq_some_iff.1 hadd
      have hbetween := h.onParent (fun name => Entries.Tidy.defineItem name) hbetween
      exact ih _ _ hrest hbetween hadd
    | pair key w => cases hadd

/-- A document that can be read is a tidy table. -/
theorem isLayer_of_parse? {text : String} {v : Value} (h : parse? text = some v) :
    v.IsLayer := by
  unfold parse? at h
  obtain ⟨ss, hss, h⟩ := Option.bind_eq_some_iff.1 h
  obtain ⟨root, hroot, h⟩ := Option.bind_eq_some_iff.1 h
  cases h
  have hss := tidy_of_readStatements hss
  unfold build at hroot
  obtain ⟨⟨pairs, rest⟩, hleading, hroot⟩ := Option.bind_eq_some_iff.1 hroot
  obtain ⟨between, hbetween, hroot⟩ := Option.bind_eq_some_iff.1 hroot
  obtain ⟨hpairs, hrest⟩ := tidy_of_leadingPairs hss hleading
  have hroot := (Entries.tidy_nil.addPairs hpairs hbetween).addSections hrest hroot
  refine ⟨(Node.Tidy.table hroot).value, ?_⟩
  rw [Node.value]
  rfl

end Switchboard.Toml
