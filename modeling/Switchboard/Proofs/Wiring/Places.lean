import Switchboard.Proofs.Wiring.Run

/-!
# Places of configured bindings

The place of a binding is its index in the configuration. `BindingConfig.placed` lists the entries
of the bindings that are bound with their places in the stead of numbers, and
`BindingConfig.refusals` keeps the places of those that are refused. Both lists stand in the order
of the places, and with the disabled bindings they account for all of them.
-/

namespace Switchboard

variable {α β γ : Type}

/-- What is read off the items of a list, each with its place, stands in the order of the places. -/
theorem pairwise_filterMap_zipIdx {f : α × Nat → Option γ} (place : γ → Nat)
    (h : ∀ p c, f p = some c → place c = p.2) (items : List α) (start : Nat) :
    ((items.zipIdx start).filterMap f).Pairwise fun c d => place c < place d := by
  have hplaces : (items.zipIdx start).Pairwise fun p q => p.2 < q.2 := by
    rw [← List.pairwise_map, List.zipIdx_map_snd]
    exact List.pairwise_lt_range' 1
  refine List.pairwise_filterMap.2 (hplaces.imp fun {p q} hpq => ?_)
  intro c hc d hd
  rw [h p c hc, h q d hd]
  exact hpq

namespace BindingConfig

/-- The entries of the bindings that are bound. The number of an entry is the place of its binding,
the first binding having an index. -/
def placed (catalog : Catalog β) (standard : Int) (index : Nat) (bs : List BindingConfig) :
    List (Entry β) :=
  (bs.zipIdx index).filterMap fun p =>
    (p.1.fate catalog standard).draft?.map fun d => d.entry ⟨0, p.2⟩

variable {catalog : Catalog β} {standard : Int} {index : Nat} {bs : List BindingConfig}

theorem map_draft_placed :
    (placed catalog standard index bs).map Entry.draft = drafts catalog standard bs := by
  have hbs : drafts catalog standard bs =
      ((bs.zipIdx index).map Prod.fst).filterMap fun b => (b.fate catalog standard).draft? := by
    rw [List.zipIdx_map_fst]
    rfl
  rw [hbs, placed, List.map_filterMap, List.filterMap_map]
  congr 1
  funext p
  rw [Option.map_map]
  exact Option.map_id'

theorem ascending_placed : Entry.Ascending (placed catalog standard index bs) := by
  refine pairwise_filterMap_zipIdx Entry.sequence (fun p e he => ?_) bs index
  obtain ⟨d, -, rfl⟩ := Option.map_eq_some_iff.1 he
  rfl

/-- At a place there is an entry exactly if nothing stands against the binding there. -/
theorem exists_mem_placed_iff {i : Nat} {d : Draft β} :
    (∃ e ∈ placed catalog standard 0 bs, e.sequence = i ∧ e.draft = d) ↔
      ∃ b, bs[i]? = some b ∧ b.Asks catalog standard d := by
  simp only [placed, List.mem_filterMap, Option.map_eq_some_iff, Fate.draft?_eq_some_iff,
    fate_eq_bound_iff]
  constructor
  · rintro ⟨_, ⟨⟨b, j⟩, hb, d, hasks, rfl⟩, rfl, rfl⟩
    exact ⟨b, List.mk_mem_zipIdx_iff_getElem?.1 hb, hasks⟩
  · rintro ⟨b, hb, hasks⟩
    exact ⟨_, ⟨(b, i), List.mk_mem_zipIdx_iff_getElem?.2 hb, d, hasks, rfl⟩, rfl, rfl⟩

theorem pairwise_refusals :
    (refusals catalog standard index bs).Pairwise fun s t => s.index < t.index := by
  refine pairwise_filterMap_zipIdx SkippedBinding.index (fun p s hs => ?_) bs index
  obtain ⟨e, -, rfl⟩ := Option.map_eq_some_iff.1 hs
  rfl

theorem drafts_cons (b : BindingConfig) (bs : List BindingConfig) :
    drafts catalog standard (b :: bs) =
      (b.fate catalog standard).draft?.toList ++ drafts catalog standard bs := by
  simp only [drafts, List.filterMap_eq_flatMap_toList, List.flatMap_cons]

/-- Every binding is bound, refused or disabled. -/
theorem length_drafts_add_length_refusals :
    (drafts catalog standard bs).length + (refusals catalog standard index bs).length +
      bs.countP (fun b => !b.enabled) = bs.length := by
  induction bs generalizing index with
  | nil => rfl
  | cons b bs ih =>
    have hrest := @ih (index + 1)
    rw [drafts_cons, refusals_cons, refusals_singleton, refusal?]
    cases hfate : b.fate catalog standard with
    | disabled =>
      have hdisabled := fate_eq_disabled_iff.1 hfate
      simp [Fate.draft?, Fate.reason?, hdisabled]
      omega
    | refused e =>
      have henabled := enabled_of_refused hfate
      simp [Fate.draft?, Fate.reason?, henabled]
      omega
    | bound d =>
      have henabled := (fate_eq_bound_iff.1 hfate).enabled
      simp [Fate.draft?, Fate.reason?, henabled]
      omega

end BindingConfig

end Switchboard
