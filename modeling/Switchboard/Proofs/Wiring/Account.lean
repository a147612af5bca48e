import Switchboard.Proofs.Dispatch.Snapshot
import Switchboard.Proofs.Registry.Places
import Switchboard.Proofs.Wiring.Checked
import Switchboard.Proofs.Wiring.Places
import Switchboard.Proofs.Wiring.Strictness

/-!
# Lenient wiring accounts for every binding

Lenient wiring never fails. Each binding is in its report: an enabled one that something stands
against among those that are skipped, with the first `BindingConfig.Obstacle` that it meets, any
other enabled one among those that are bound, and a disabled one in the count.

* `BindingConfig.fate_eq_refused_iff_obstacle`: why a binding is refused;
* `BindingConfig.exists_places`: which bindings are bound, by their places;
* `wire_lenient_account`: the report of lenient wiring, and what the dispatcher holds behind it.
-/

namespace Switchboard

variable {β σ : Type}

namespace BindingConfig

/-- What stands against registering a binding: a flaw of its own, which its check finds; else that
the catalog lacks its handler; and else that the registry does not take the handler. -/
def Obstacle (b : BindingConfig) (catalog : Catalog β) (e : EngineError) : Prop :=
  b.Flaw e ∨ ¬ b.Flawed ∧ ∃ fault, b.Fault catalog fault ∧ e = .invalidCallback fault

variable {catalog : Catalog β} {standard : Int} {b : BindingConfig} {bs : List BindingConfig}

theorem fate_eq_refused_iff_obstacle {e : EngineError} :
    b.fate catalog standard = .refused e ↔ b.enabled = true ∧ b.Obstacle catalog e := by
  cases hcheck : b.check with
  | ok s =>
    have hsound : ¬ b.Flawed := not_flawed_iff.2 ⟨s, hcheck⟩
    have hnone : ¬ b.Flaw e := fun hflaw => hsound (exists_flaw_iff.1 ⟨e, hflaw⟩)
    rw [fate_eq_refused_iff hcheck, Obstacle]
    simp only [hnone, hsound, not_false_eq_true, true_and, false_or]
  | error cause =>
    have hflaw := check_eq_error_iff.1 hcheck
    have hflawed : b.Flawed := exists_flaw_iff.1 ⟨cause, hflaw⟩
    -- a binding has one flaw at most, the one that its check reports
    have hone : b.Obstacle catalog e ↔ e = cause := by
      rw [Obstacle, ← check_eq_error_iff, hcheck]
      simp only [hflawed, not_true_eq_false, false_and, or_false, Except.error.injEq, eq_comm]
    rw [hone]
    unfold fate lookUp
    rw [hcheck]
    cases b.enabled with
    | false => simp
    | true => simp [eq_comm]

/-- A place belongs to a binding that is enabled and not refused. -/
theorem not_refused_iff {i : Nat} (hb : bs[i]? = some b) (henabled : b.enabled = true) :
    (∀ s ∈ refusals catalog standard 0 bs, s.index ≠ i) ↔
      ∃ d, b.fate catalog standard = .bound d := by
  cases hfate : b.fate catalog standard with
  | disabled =>
    rw [fate_eq_disabled_iff.1 hfate] at henabled
    cases henabled
  | refused e =>
    simp only [reduceCtorEq, exists_false, iff_false]
    intro h
    exact h ⟨i, b.selector, b.handler, e⟩ (mem_refusals_iff.2 ⟨b, hb, hfate, rfl, rfl⟩) rfl
  | bound d =>
    simp only [Fate.bound.injEq, exists_eq', iff_true]
    rintro s hs rfl
    obtain ⟨c, hc, hrefused, -⟩ := mem_refusals_iff.1 hs
    cases hb.symm.trans hc
    cases hfate.symm.trans hrefused

/-- The places of the bindings that are bound: those of all enabled ones but the refused ones. Each
of them has its draft, in the order of the places. -/
theorem exists_places (catalog : Catalog β) (standard : Int) (bs : List BindingConfig) :
    ∃ places : List Nat, places.Pairwise (· < ·) ∧
      (∀ i, i ∈ places ↔ ∃ b, bs[i]? = some b ∧ b.enabled = true ∧
        ∀ s ∈ refusals catalog standard 0 bs, s.index ≠ i) ∧
      List.Forall₂ (fun i d => ∃ b, bs[i]? = some b ∧ b.Asks catalog standard d) places
        (drafts catalog standard bs) := by
  refine ⟨(placed catalog standard 0 bs).map Entry.sequence, List.pairwise_map.2 ascending_placed,
    fun i => ?_, ?_⟩
  · have hplaced : i ∈ (placed catalog standard 0 bs).map Entry.sequence ↔
        ∃ d, ∃ e ∈ placed catalog standard 0 bs, e.sequence = i ∧ e.draft = d := by
      rw [List.mem_map]
      exact ⟨fun ⟨e, he, hi⟩ => ⟨_, e, he, hi, rfl⟩, fun ⟨_, e, he, hi, _⟩ => ⟨e, he, hi⟩⟩
    simp only [hplaced, exists_mem_placed_iff, ← fate_eq_bound_iff]
    constructor
    · rintro ⟨d, b, hb, hfate⟩
      have henabled := (fate_eq_bound_iff.1 hfate).enabled
      exact ⟨b, hb, henabled, (not_refused_iff hb henabled).2 ⟨d, hfate⟩⟩
    · rintro ⟨b, hb, henabled, hnot⟩
      obtain ⟨d, hfate⟩ := (not_refused_iff hb henabled).1 hnot
      exact ⟨d, b, hb, hfate⟩
  · rw [← @map_draft_placed _ catalog standard 0 bs, List.forall₂_map_left_iff,
      List.forall₂_map_right_iff, List.forall₂_same]
    exact fun e he => exists_mem_placed_iff.1 ⟨e, he, rfl, rfl⟩

end BindingConfig

/-- Drafts that are numbered get the numbers from the next one on, none left out. -/
theorem Draft.map_token_numbered (registry next : Nat) (ds : List (Draft β)) :
    (numbered registry next ds).map Entry.token =
      (List.range' next ds.length).map (Token.mk registry) := by
  induction ds generalizing next with
  | nil => rfl
  | cons d ds ih =>
    rw [numbered_cons, List.map_cons, ih, List.length_cons, List.range'_succ, List.map_cons]
    rfl

/-- A registry that has come about from an empty one holds a flat list. -/
theorem World.Reachable.exists_represents {w : World β σ} (h : w.Reachable) (id : Nat) :
    ∃ live, (w.registry id).Represents live := by
  obtain ⟨changes, hchanges⟩ := h id
  rw [hchanges]
  exact (Registry.represents_empty id).run_any changes

/-- Lenient wiring comes to its end, and its report says what has become of each binding.
* Every binding is counted once: as bound, as skipped or as disabled.
* Skipped are the enabled bindings that something stands against, in order of their places, each
  with its place, its texts and the first thing that stands against it.
* Bound are all other enabled bindings, in order of their places. Each has the selector, the handler
  and the priority that it asks for, and the numbers of the entries follow on each other from the
  next number of the registry on: what is skipped takes none.
* The registry holds what it held before and the new entries, and nothing else. -/
theorem wire_lenient_account (w : World β σ) (id : Nat) (bs : List BindingConfig)
    (catalog : Catalog β) :
    let done := w.wire id bs catalog false
    let before := w.registry id
    let after := done.2.registry id
    ∃ report, done.1 = .ok report ∧
      report.bound.length + report.skipped.length + report.disabled = bs.length ∧
      (report.disabled = bs.countP fun b => !b.enabled) ∧
      (report.skipped.Pairwise fun s t => s.index < t.index) ∧
      (∀ s, s ∈ report.skipped ↔ ∃ b, bs[s.index]? = some b ∧ b.enabled = true ∧
        b.Obstacle catalog s.reason ∧ s.selector = b.selector ∧ s.handler = b.handler) ∧
      (∃ places : List Nat, places.Pairwise (· < ·) ∧
        (∀ i, i ∈ places ↔ ∃ b, bs[i]? = some b ∧ b.enabled = true ∧
          ∀ s ∈ report.skipped, s.index ≠ i) ∧
        List.Forall₂ (fun i e => ∃ b, bs[i]? = some b ∧
          b.Asks catalog (w.dispatcher id).defaultPriority e.draft) places report.bound) ∧
      report.bound.map Entry.token =
        (List.range' before.nextSequence report.bound.length).map (Token.mk before.id) ∧
      after.nextSequence = before.nextSequence + report.bound.length ∧
      (w.Reachable → after.entries.Perm (before.entries ++ report.bound) ∧
        after.count = before.count + report.bound.length) := by
  intro done before after
  obtain ⟨hreport, hwires⟩ := w.wire_through id bs catalog false (by simp)
  let drafts := BindingConfig.drafts catalog (w.dispatcher id).defaultPriority bs
  let skipped := BindingConfig.refusals catalog (w.dispatcher id).defaultPriority 0 bs
  let bound := (w.dispatcher id).wired catalog bs
  have hbound : bound.map Entry.draft = drafts := Draft.map_draft_numbered drafts
  have hlength : bound.length = drafts.length := Draft.length_numbered drafts
  have hafter : after = before.addAll bound := congrArg Dispatcher.registry hwires.dispatcher
  refine ⟨⟨bound, skipped, bs.countP fun b => !b.enabled⟩, ?_, ?_, rfl,
    BindingConfig.pairwise_refusals, fun s => ?_, ?_, ?_, ?_, fun hreach => ?_⟩
  · rw [hreport, WiringReport.after, WiringReport.empty, List.nil_append, List.nil_append,
      Nat.zero_add]
  · show bound.length + skipped.length + _ = _
    rw [hlength]
    exact BindingConfig.length_drafts_add_length_refusals
  · simp only [skipped, BindingConfig.mem_refusals_iff,
      BindingConfig.fate_eq_refused_iff_obstacle, and_assoc]
  · obtain ⟨places, hpairwise, hplaces, hasks⟩ :=
      BindingConfig.exists_places catalog (w.dispatcher id).defaultPriority bs
    refine ⟨places, hpairwise, hplaces, ?_⟩
    rw [show BindingConfig.drafts catalog _ bs = bound.map Entry.draft from hbound.symm] at hasks
    exact List.forall₂_map_right_iff.1 hasks
  · show bound.map Entry.token = (List.range' _ bound.length).map _
    rw [hlength]
    exact Draft.map_token_numbered _ _ drafts
  · rw [hafter, Registry.nextSequence_addAll]
  · obtain ⟨live, hlive⟩ := hreach.exists_represents id
    have hnew := hwires.represents hlive
    refine ⟨(hnew.entries_perm.trans (hlive.entries_perm.symm.append_right bound)), ?_⟩
    show (done.2.registry id).count = (w.registry id).count + bound.length
    rw [hnew.count_eq, hlive.count_eq, List.length_append]

/-- Two bindings that are bound, around one that is disabled and three that are skipped: one without
a selector, one whose handler the catalog lacks, and one whose handler cannot be invoked. -/
def patchyBindings : List BindingConfig :=
  [⟨"offer.accept", "accept", none, true⟩, ⟨"", "missing", none, true⟩,
    ⟨"offer.cancel", "accept", none, false⟩, ⟨"offer.decline", "missing", none, true⟩,
    ⟨"offer.close", "closed", none, true⟩, ⟨"^=offer", "accept", some 7, true⟩]

theorem wire_lenient_account_patchy :
    let w : World Unit Unit := ⟨Pool.empty, (), Log.empty⟩
    let catalog : Catalog Unit :=
      [("accept", .ofBody "accept" ()), ("closed", ⟨"closed", false, ()⟩)]
    let done := w.wire 0 patchyBindings catalog false
    w.Reachable ∧ ∃ report, done.1 = .ok report ∧
      report.bound.map (fun e => (e.selector.text, e.priority, e.sequence)) =
        [("offer.accept", 1, 0), ("^=offer", 7, 1)] ∧
      report.skipped.map (fun s => (s.index, s.reason)) =
        [(1, .undefinedSelector), (3, .invalidCallback (.unknown "missing")),
          (4, .invalidCallback (.notInvocable "closed" "offer.close"))] ∧
      report.disabled = 1 ∧ (done.2.registry 0).count = 2 := by
  intro w catalog done
  have hreach : w.Reachable := World.Reachable.initial () Log.empty
  obtain ⟨report, hreport, -, hdisabled, -, -, -, -, -, hheld⟩ :=
    wire_lenient_account w 0 patchyBindings catalog
  have hreport' : done.1 =
      .ok (WiringReport.empty.after (w.dispatcher 0) catalog 0 patchyBindings) := rfl
  cases hreport'.symm.trans hreport
  exact ⟨hreach, _, hreport, rfl, rfl, hdisabled, (hheld hreach).2⟩

end Switchboard
