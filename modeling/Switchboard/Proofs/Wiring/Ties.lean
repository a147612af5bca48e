import Switchboard.Proofs.Wiring.Run

/-!
# Registrations in another order

What is found for an event stands by priority, and at one priority in the order of registration. So
registrations of different priorities may change places, be they of plain names or of patterns, and
whatever numbers their entries get.

* `Draft.Reordered`: the same registrations, those of one priority in the same order;
* `Draft.Reordered.ranked_eq`: such lists have one ranking;
* `Registry.map_draft_resolve`: what a new registry finds behind a list of registrations;
* `resolve_of_reordered`: both orders of registration find the same.
-/

namespace Switchboard

variable {β : Type}

namespace Draft

/-- Whether a draft has at least the priority of another one. -/
def atLeast (a b : Draft β) : Bool := b.priority ≤ a.priority

/-- The drafts by priority, the highest first. Drafts of one priority stay as they stand. -/
def ranked (ds : List (Draft β)) : List (Draft β) := ds.mergeSort atLeast

/-- The drafts of one priority, as they stand. -/
def tied (ds : List (Draft β)) (priority : Int) : List (Draft β) :=
  ds.filter fun d => d.priority = priority

/-- The same drafts in another order, in which those of one priority stand as they did. -/
structure Reordered (ds es : List (Draft β)) : Prop where
  perm : ds.Perm es
  ties : ∀ priority, tied ds priority = tied es priority

/-- No draft stands in front of one with a higher priority. -/
def Descending (ds : List (Draft β)) : Prop := ds.Pairwise fun a b => a.atLeast b = true

variable {ds es : List (Draft β)}

theorem atLeast_iff {a b : Draft β} : a.atLeast b = true ↔ b.priority ≤ a.priority := by
  simp [atLeast]

theorem atLeast_trans (a b c : Draft β) (hab : a.atLeast b = true) (hbc : b.atLeast c = true) :
    a.atLeast c = true := by
  rw [atLeast_iff] at *
  omega

theorem atLeast_total (a b : Draft β) : (a.atLeast b || b.atLeast a) = true := by
  rw [Bool.or_eq_true, atLeast_iff, atLeast_iff]
  omega

theorem ranked_perm (ds : List (Draft β)) : (ranked ds).Perm ds := List.mergeSort_perm _ _

theorem descending_ranked (ds : List (Draft β)) : Descending (ranked ds) :=
  List.pairwise_mergeSort atLeast_trans atLeast_total ds

theorem mem_tied {d : Draft β} {priority : Int} :
    d ∈ tied ds priority ↔ d ∈ ds ∧ d.priority = priority := by
  simp [tied]

/-- Drafts of one priority stand in no wrong order. -/
theorem descending_tied (ds : List (Draft β)) (priority : Int) : Descending (tied ds priority) := by
  refine List.pairwise_of_forall_mem_list fun a ha b hb => ?_
  rw [atLeast_iff, (mem_tied.1 ha).2, (mem_tied.1 hb).2]

/-- Ranking leaves the drafts of one priority as they stand. -/
theorem tied_ranked (ds : List (Draft β)) (priority : Int) :
    tied (ranked ds) priority = tied ds priority := by
  have hsublist : (tied ds priority).Sublist (ranked ds) :=
    List.sublist_mergeSort atLeast_trans atLeast_total (descending_tied ds priority)
      List.filter_sublist
  have hties : (tied ds priority).Sublist (tied (ranked ds) priority) := by
    have hfilter := hsublist.filter fun d => d.priority = priority
    rwa [tied, List.filter_filter, funext fun d => Bool.and_self _] at hfilter
  exact (hties.eq_of_length ((ranked_perm ds).filter _).length_eq.symm).symm

theorem tied_cons (d : Draft β) (ds : List (Draft β)) (priority : Int) :
    tied (d :: ds) priority =
      if d.priority = priority then d :: tied ds priority else tied ds priority := by
  simp only [tied, List.filter_cons, decide_eq_true_eq]

theorem Descending.le_head {d e : Draft β} (h : Descending (d :: ds)) (he : e ∈ d :: ds) :
    e.priority ≤ d.priority := by
  rcases List.mem_cons.1 he with rfl | he
  · exact le_rfl
  · exact atLeast_iff.1 ((List.pairwise_cons.1 h).1 e he)

theorem mem_iff_of_ties (h : ∀ priority, tied ds priority = tied es priority) {d : Draft β} :
    d ∈ ds ↔ d ∈ es := by
  have hd : d ∈ tied ds d.priority ↔ d ∈ tied es d.priority := by rw [h]
  simpa [mem_tied] using hd

/-- A list that goes down by priority is determined by the drafts of each priority. -/
theorem Descending.eq_of_ties (hd : Descending ds) (he : Descending es)
    (h : ∀ priority, tied ds priority = tied es priority) : ds = es := by
  induction ds generalizing es with
  | nil => exact (List.eq_nil_iff_forall_not_mem.2 fun e he => by
      simpa using (mem_iff_of_ties h).2 he).symm
  | cons d ds ih =>
    cases es with
    | nil => exact absurd ((mem_iff_of_ties h).1 List.mem_cons_self) List.not_mem_nil
    | cons e es =>
      -- both heads have the highest priority, and they are the first drafts of it
      have hpriority : e.priority = d.priority :=
        le_antisymm (hd.le_head ((mem_iff_of_ties h).2 List.mem_cons_self))
          (he.le_head ((mem_iff_of_ties h).1 List.mem_cons_self))
      have htop := h d.priority
      rw [tied_cons, tied_cons, if_pos rfl, if_pos hpriority] at htop
      obtain rfl : d = e := (List.cons.inj htop).1
      refine congrArg (List.cons d) (ih (List.pairwise_cons.1 hd).2 (List.pairwise_cons.1 he).2 ?_)
      intro priority
      have hrest := h priority
      rw [tied_cons, tied_cons] at hrest
      split at hrest
      · exact (List.cons.inj hrest).2
      · exact hrest

/-- A list and another order of it that keeps ties have one ranking. -/
theorem Reordered.ranked_eq (h : Reordered ds es) : ranked ds = ranked es :=
  (descending_ranked ds).eq_of_ties (descending_ranked es) fun priority => by
    rw [tied_ranked, tied_ranked, h.ties]

/-- Leaving out drafts on both sides keeps ties. -/
theorem Reordered.filter (h : Reordered ds es) (p : Draft β → Bool) :
    Reordered (ds.filter p) (es.filter p) where
  perm := h.perm.filter p
  ties priority := by
    unfold tied
    rw [List.filter_comm, List.filter_comm (l := es)]
    exact congrArg (List.filter p) (h.ties priority)

/-- The registration that a draft asks for. -/
def register (d : Draft β) : Change β := .register d.selector d.handler d.priority

end Draft

namespace Entry

/-- Ranking goes by what the entries ask for. -/
theorem map_draft_ranked (l : List (Entry β)) : (ranked l).map draft = Draft.ranked (l.map draft) :=
  List.map_mergeSort fun _ _ _ _ => rfl

theorem map_draft_filter_accepts (l : List (Entry β)) (event : String) :
    (l.filter fun e => e.selector.accepts event).map draft =
      (l.map draft).filter fun d => d.selector.accepts event := by
  rw [List.filter_map]
  rfl

end Entry

namespace Registry

/-- Registrations one after the other number the drafts whose handlers can be invoked. -/
theorem run_register (r : Registry β) (ds : List (Draft β)) :
    (r.run (ds.map Draft.register)).2 =
      r.addAll (Draft.numbered r.id r.nextSequence (ds.filter fun d => d.handler.invocable)) := by
  induction ds generalizing r with
  | nil => rfl
  | cons d ds ih =>
    show ((r.apply d.register).2.run (ds.map Draft.register)).2 = _
    rw [ih, Draft.register, apply_register, List.filter_cons]
    cases d.handler.invocable with
    | false => rfl
    | true =>
      simp only [if_true, id_add, nextSequence_add, Draft.numbered_cons, addAll_cons]
      rfl

/-- A new registry finds the drafts that it has bound and that accept the event, ranked. -/
theorem map_draft_resolve (id : Nat) (ds : List (Draft β)) (event : String) :
    (((empty id).run (ds.map Draft.register)).2.resolve event).map Entry.draft =
      Draft.ranked ((ds.filter fun d => d.handler.invocable).filter
        fun d => d.selector.accepts event) := by
  have hrep := (represents_empty id).addAll (ds.filter fun d => d.handler.invocable)
  rw [run_register, hrep.resolve_eq, Entry.map_draft_ranked, Entry.map_draft_filter_accepts,
    List.nil_append, Draft.map_draft_numbered]

end Registry

/-- Handlers are bound in two new registries in two orders that keep ties. For every event both find
the same handlers, by the same selectors and at the same priorities, in the same order. -/
theorem resolve_of_reordered (id id' : Nat) {ds es : List (Draft β)} (h : Draft.Reordered ds es)
    (event : String) :
    (((Registry.empty id).run (ds.map Draft.register)).2.resolve event).map Entry.draft =
      (((Registry.empty id').run (es.map Draft.register)).2.resolve event).map Entry.draft := by
  rw [Registry.map_draft_resolve, Registry.map_draft_resolve]
  exact ((h.filter _).filter _).ranked_eq

/-- A draft for the offer, as a plain name or as a pattern. -/
def offerDraft (operator : Operator) (priority : Int) (name : String) : Draft Unit :=
  ⟨⟨operator, "offer", Selector.isName_offer⟩, priority, .ofBody name ()⟩

theorem resolve_of_reordered_offer :
    let first := offerDraft .exact 1 "first"
    let audit := offerDraft .beginsWith 5 "audit"
    let second := offerDraft .beginsWith 1 "second"
    let found (ds : List (Draft Unit)) :=
      ((((Registry.empty 0).run (ds.map Draft.register)).2.resolve "offer").map Entry.draft).map
        fun d => d.handler.name
    Draft.Reordered [first, audit, second] [audit, first, second] ∧
      found [first, audit, second] = ["audit", "first", "second"] ∧
      found [audit, first, second] = ["audit", "first", "second"] := by
  intro first audit second found
  have h : Draft.Reordered [first, audit, second] [audit, first, second] := by
    refine ⟨List.Perm.swap _ _ _, fun priority => ?_⟩
    have hapart : ¬ (first.priority = priority ∧ audit.priority = priority) := by
      rintro ⟨rfl, h⟩
      cases h
    simp only [Draft.tied_cons]
    grind
  have haudit : found [audit, first, second] = ["audit", "first", "second"] := by
    decide +kernel
  exact ⟨h, (congrArg _ (resolve_of_reordered 0 0 h "offer")).trans haudit, haudit⟩

end Switchboard
