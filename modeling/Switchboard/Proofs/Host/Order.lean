import Switchboard.Proofs.Host.Assembly
import Switchboard.Proofs.Wiring.Places
import Switchboard.Proofs.Wiring.Ties

/-!
# Configured bindings in order

On a fresh host the entries are numbered one by one, and bindings that are not bound take no number.
The places of the bindings in the configuration stand in the same order as these numbers, so ranking
the entries by their numbers and ranking them by the places comes to the same.

* `Entry.map_draft_ranked_filter`: what the ranking of entries does not depend on;
* `start_resolve`: what a fresh host has for an event.
-/

namespace Switchboard

variable {β σ : Type}

/-- For the name of an event a dispatcher has the entries of its registry. -/
theorem Dispatcher.resolve_of_isEventName (d : Dispatcher β) {event : String}
    (h : Selector.isEventName event = true) : d.resolve event = .ok (d.registry.resolve event) := by
  obtain ⟨name, hname⟩ := Selector.isEventName_iff.1 h
  unfold resolve
  simp only [hname, Selector.name_of_eventName hname]

namespace Entry

/-- Entries for an event that ask for the same stand in the same order, whatever their numbers. -/
theorem map_draft_ranked_filter {l m : List (Entry β)} (h : l.map draft = m.map draft)
    (event : String) :
    (ranked (l.filter fun e => e.selector.accepts event)).map draft =
      (ranked (m.filter fun e => e.selector.accepts event)).map draft := by
  rw [map_draft_ranked, map_draft_ranked, map_draft_filter_accepts, map_draft_filter_accepts, h]

end Entry

namespace BindingConfig

variable {catalog : Catalog β} {standard : Int} {index : Nat} {bs : List BindingConfig}

/-- Whether the binding is bound. -/
def isBound (b : BindingConfig) (catalog : Catalog β) (standard : Int) : Bool :=
  (b.fate catalog standard).draft?.isSome

theorem drafts_filter_isBound :
    drafts catalog standard (bs.filter fun b => b.isBound catalog standard) =
      drafts catalog standard bs :=
  drafts_filter bs fun b d h => by rw [isBound, h]; rfl

theorem refusals_filter_isBound :
    refusals catalog standard index (bs.filter fun b => b.isBound catalog standard) = [] := by
  unfold refusals
  refine List.filterMap_eq_nil_iff.2 fun p hp => ?_
  obtain ⟨d, hd⟩ := Option.isSome_iff_exists.1
    (List.mem_filter.1 (List.fst_mem_of_mem_zipIdx hp)).2
  rw [refusal?, Fate.draft?_eq_some_iff.1 hd]
  rfl

end BindingConfig

namespace Config

/-- The configuration with no more than the bindings that are bound. -/
def pruned (c : Config) (catalog : Catalog β) : Config :=
  { c with bindings := c.bindings.filter fun b => b.isBound catalog c.dispatch.defaultPriority }

/-- The entries of the bindings for an event, by priority and then by their places. -/
def choices (c : Config) (catalog : Catalog β) (event : String) : List (Entry β) :=
  Entry.ranked ((BindingConfig.placed catalog c.dispatch.defaultPriority 0 c.bindings).filter
    fun e => e.selector.accepts event)

variable {c : Config} {catalog : Catalog β} {event : String}

theorem exists_mem_choices_iff {i : Nat} {d : Draft β} :
    (∃ e ∈ c.choices catalog event, e.sequence = i ∧ e.draft = d) ↔
      ∃ b, c.bindings[i]? = some b ∧ b.Asks catalog c.dispatch.defaultPriority d ∧
        d.selector.accepts event = true := by
  simp only [choices, Entry.mem_ranked, List.mem_filter]
  constructor
  · rintro ⟨e, ⟨he, haccepts⟩, hplace⟩
    obtain ⟨b, hb, hasks⟩ := BindingConfig.exists_mem_placed_iff.1 ⟨e, he, hplace⟩
    exact ⟨b, hb, hasks, hplace.2 ▸ haccepts⟩
  · rintro ⟨b, hb, hasks, haccepts⟩
    obtain ⟨e, he, hplace⟩ := BindingConfig.exists_mem_placed_iff.2 ⟨b, hb, hasks⟩
    refine ⟨e, ⟨he, ?_⟩, hplace⟩
    rw [← hplace.2] at haccepts
    exact haccepts

theorem ordered_choices : Entry.Ordered (c.choices catalog event) :=
  Entry.ordered_ranked (BindingConfig.ascending_placed.filter _)

/-- A fresh dispatcher with the entries of the bindings has these choices for an event, though its
entries are numbered otherwise. -/
theorem resolve_holding (c : Config) (catalog : Catalog β) (id : Nat)
    (hevent : Selector.isEventName event = true) :
    ∃ entries,
      ((c.dispatcher id).holding ((c.dispatcher id).wired catalog c.bindings)).resolve event =
        .ok entries ∧
      entries.map Entry.draft = (c.choices catalog event).map Entry.draft := by
  have hempty : (Registry.empty id : Registry β).Represents [] := Registry.represents_empty id
  have hrep := hempty.addAll (BindingConfig.drafts catalog c.dispatch.defaultPriority c.bindings)
  -- the entries on the dispatcher and those numbered by places ask for the same in the same order
  refine ⟨_, ?_, Entry.map_draft_ranked_filter (l := (c.dispatcher id).wired catalog c.bindings)
    ?_ event⟩
  · rw [Dispatcher.resolve_of_isEventName _ hevent]
    exact congrArg Except.ok (hrep.resolve_eq event)
  · rw [BindingConfig.map_draft_placed]
    exact Draft.map_draft_numbered _

/-- On such a dispatcher every handler is one of the catalog. -/
theorem exists_get?_of_mem_resolve (c : Config) (catalog : Catalog β) (id : Nat) {e : Entry β}
    (h : e ∈ ((c.dispatcher id).holding
      ((c.dispatcher id).wired catalog c.bindings)).registry.resolve event) :
    ∃ name, Table.get? name catalog = some e.handler := by
  have hempty : (Registry.empty id : Registry β).Represents [] := Registry.represents_empty id
  have hrep := hempty.addAll (BindingConfig.drafts catalog c.dispatch.defaultPriority c.bindings)
  have hwired : e ∈ (c.dispatcher id).wired catalog c.bindings :=
    (List.mem_filter.1 (Entry.mem_ranked.1 (hrep.resolve_eq event ▸ h))).1
  have hdraft : e.draft ∈
      BindingConfig.drafts catalog c.dispatch.defaultPriority c.bindings := by
    rw [← Draft.map_draft_numbered
      (BindingConfig.drafts catalog c.dispatch.defaultPriority c.bindings)]
    exact List.mem_map_of_mem hwired
  obtain ⟨b, -, hfate⟩ := List.mem_filterMap.1 hdraft
  have hasks := BindingConfig.fate_eq_bound_iff.1 (Fate.draft?_eq_some_iff.1 hfate)
  exact ⟨b.handler, hasks.handler⟩

/-- Without the bindings that are not bound the others have the same entries. -/
theorem wired_pruned (c : Config) (catalog : Catalog β) (id : Nat) :
    ((c.pruned catalog).dispatcher id).wired catalog (c.pruned catalog).bindings =
      (c.dispatcher id).wired catalog c.bindings :=
  congrArg (Draft.numbered _ _) BindingConfig.drafts_filter_isBound

theorem refusals_pruned (c : Config) (catalog : Catalog β) :
    (c.pruned catalog).refusals catalog = [] :=
  BindingConfig.refusals_filter_isBound

end Config

/-- On a host that has just been started, the entries for an event are those of the bindings that
are enabled, have a selector that can be read and accepts the event, and name a handler of the
catalog that can be invoked. They stand by priority, the highest first, and at one priority as in
the configuration. Leaving out the other bindings from the start makes no difference. -/
theorem start_resolve (w : World β σ) (id : Nat) (config : Config) (catalog : Catalog β)
    (s : Surroundings) {host : Host β}
    (hstart : (Host.start w id config catalog s).result = .ok host) {event : String}
    (hevent : Selector.isEventName event = true) :
    let dispatcher := (Host.start w id config catalog s).world.dispatcher host.dispatcher
    (∃ (entries : List (Entry β)) (found : List (Nat × Draft β)),
      dispatcher.resolve event = .ok entries ∧
      entries.map Entry.draft = found.map Prod.snd ∧
      (∀ i d, (i, d) ∈ found ↔
        ∃ b, config.bindings[i]? = some b ∧ b.Asks catalog config.dispatch.defaultPriority d ∧
          d.selector.accepts event = true) ∧
      found.Pairwise fun p q =>
        q.2.priority < p.2.priority ∨ p.2.priority = q.2.priority ∧ p.1 < q.1) ∧
    ∃ pruned, (Host.start w id (config.pruned catalog) catalog s).result = .ok pruned ∧
      (Host.start w id (config.pruned catalog) catalog s).world.dispatcher pruned.dispatcher =
        dispatcher := by
  intro dispatcher
  have hdispatcher : dispatcher =
      (config.dispatcher id).holding ((config.dispatcher id).wired catalog config.bindings) :=
    Host.dispatcher_of_start hstart
  constructor
  · obtain ⟨entries, hresolve, hentries⟩ := config.resolve_holding catalog id hevent
    refine ⟨entries, (config.choices catalog event).map fun e => (e.sequence, e.draft), ?_, ?_, ?_,
      List.pairwise_map.2 (Config.ordered_choices.imp fun h => Entry.before_iff.1 h)⟩
    · rw [hdispatcher, hresolve]
    · rw [hentries, List.map_map]
      rfl
    · intro i d
      rw [← Config.exists_mem_choices_iff, List.mem_map]
      simp only [Prod.mk.injEq]
  · -- the log starts as before, and strict wiring has nothing left to refuse
    obtain ⟨⟨file, hlog⟩, -⟩ := Host.startWith_eq_ok_iff.1 hstart
    obtain ⟨pruned, hpruned⟩ := Host.start_through w id (config.pruned catalog) catalog s hlog
      fun _ => config.refusals_pruned catalog
    refine ⟨pruned, hpruned, ?_⟩
    rw [hdispatcher, ← config.wired_pruned catalog id]
    exact Host.dispatcher_of_start hpruned

/-- Bindings with and without a priority of their own, between some that are not bound: one whose
handler the catalog lacks, one that is disabled, one whose handler cannot be invoked, and one
without a selector. -/
def mixedConfig : Config :=
  { dispatch := ⟨5, false⟩
    logging := default
    bindings :=
      [⟨"offer.accept", "audit", none, true⟩, ⟨"^=offer", "decline", none, true⟩,
        ⟨"offer.accept", "accept", some 9, false⟩, ⟨"^=offer", "accept", some 5, true⟩,
        ⟨"offer.accept", "closed", some 8, true⟩, ⟨"", "accept", none, true⟩,
        ⟨"offer.accept", "accept", some 7, true⟩] }

def mixedCatalog : Catalog Unit :=
  [("accept", .ofBody "accept" ()), ("audit", .ofBody "audit" ()),
    ("closed", ⟨"closed", false, ()⟩)]

/-- Surroundings without files. -/
def Surroundings.bare : Surroundings :=
  { file? := fun _ => none
    opens := fun _ => false
    environment := []
    workingDirectory := "/"
    userDirectory := none
    now := ⟨2024, 1, 1, 0, 0⟩ }

theorem start_resolve_mixed :
    ∃ host entries,
      (Host.start World.untouched 0 mixedConfig mixedCatalog Surroundings.bare).result = .ok host ∧
      Selector.isEventName "offer.accept" = true ∧
      ((Host.start World.untouched 0 mixedConfig mixedCatalog Surroundings.bare).world.dispatcher
        host.dispatcher).resolve "offer.accept" = .ok entries ∧
      entries.map (fun e => (e.handler.name, e.priority)) =
        [("accept", 7), ("audit", 5), ("accept", 5)] := by
  have hlog : ((LogSetup.ofConfig mixedConfig.logging).start Surroundings.bare).result = .ok none :=
    rfl
  obtain ⟨host, hstart⟩ := Host.start_through World.untouched 0 mixedConfig mixedCatalog _ hlog
    (by simp [mixedConfig])
  have hevent : Selector.isEventName "offer.accept" = true := rfl
  obtain ⟨⟨entries, found, hresolve, -, -, -⟩, -⟩ := start_resolve _ _ _ _ _ hstart hevent
  refine ⟨host, entries, hstart, hevent, hresolve, ?_⟩
  obtain ⟨entries', hresolve', hchoices⟩ := mixedConfig.resolve_holding mixedCatalog 0 hevent
  rw [Host.dispatcher_of_start hstart, hresolve'] at hresolve
  cases hresolve
  have hmap := congrArg (List.map fun d => (d.handler.name, d.priority)) hchoices
  rw [List.map_map, List.map_map] at hmap
  refine hmap.trans ?_
  -- unlike ranking, sorting by insertion computes
  unfold Config.choices
  rw [← Entry.sort_eq_ranked (BindingConfig.ascending_placed.filter _)]
  rfl

end Switchboard
