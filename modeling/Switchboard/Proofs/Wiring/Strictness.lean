import Switchboard.Proofs.Wiring.Run

/-!
# Strict and lenient wiring

Both ways of wiring do the same up to the first binding that is refused. There strict wiring ends,
and leaves the dispatcher as lenient wiring has it at that point.

* `BindingConfig.forall₂_asks_drafts`: if none is refused, each enabled binding has its entry;
* `wire_strict_lenient`: what strict wiring comes to, read off the report of lenient wiring.
-/

namespace Switchboard

variable {β σ : Type}

namespace BindingConfig

variable {catalog : Catalog β} {standard : Int}

/-- Bindings of which none is refused are bound as soon as they are enabled. -/
theorem forall₂_asks_drafts {index : Nat} {bs : List BindingConfig}
    (h : refusals catalog standard index bs = []) :
    List.Forall₂ (fun b d => b.Asks catalog standard d) (bs.filter fun b => b.enabled)
      (drafts catalog standard bs) := by
  induction bs generalizing index with
  | nil => exact List.Forall₂.nil
  | cons b bs ih =>
    rw [refusals_cons, refusals_singleton] at h
    obtain ⟨hb, hbs⟩ := List.append_eq_nil_iff.1 h
    have hrest := ih hbs
    unfold drafts
    cases hfate : b.fate catalog standard with
    | disabled =>
      rw [List.filter_cons_of_neg (by simp [fate_eq_disabled_iff.1 hfate]),
        List.filterMap_cons_none (by rw [hfate]; rfl)]
      exact hrest
    | refused e =>
      rw [refusal?, hfate] at hb
      cases hb
    | bound d =>
      have hasks := fate_eq_bound_iff.1 hfate
      rw [List.filter_cons_of_pos hasks.enabled, List.filterMap_cons_some (by rw [hfate]; rfl)]
      exact List.Forall₂.cons hasks hrest

end BindingConfig

namespace World.Wires

variable {w w' w'' : World β σ} {id : Nat} {catalog : Catalog β} {bs : List BindingConfig}

/-- Wiring the same bindings leaves the same dispatchers. -/
theorem dispatcher_eq (h : w.Wires id catalog bs w') (h' : w.Wires id catalog bs w'')
    (other : Nat) : w'.dispatcher other = w''.dispatcher other := by
  by_cases hother : other = id
  · rw [hother, h.dispatcher, h'.dispatcher]
  · rw [h.others other hother, h'.others other hother]

/-- The new entries are bindings at the end of the flat list. -/
theorem represents (h : w.Wires id catalog bs w') {live : List (Entry β)}
    (hlive : (w.registry id).Represents live) :
    (w'.registry id).Represents (live ++ (w.dispatcher id).wired catalog bs) := by
  have hregistry : w'.registry id =
      (w.registry id).addAll ((w.dispatcher id).wired catalog bs) :=
    congrArg Dispatcher.registry h.dispatcher
  rw [hregistry]
  exact hlive.addAll _

end World.Wires

/-- Strict and lenient wiring of the same bindings. If lenient wiring skips none of them, strict
wiring gives the same report and leaves the same dispatchers. Otherwise it fails with the first one
that is skipped; the dispatcher has got the entries of the enabled bindings in front of that one,
which are the first of those that lenient wiring binds. -/
theorem wire_strict_lenient (w : World β σ) (id : Nat) (bindings : List BindingConfig)
    (catalog : Catalog β) :
    let strict := w.wire id bindings catalog true
    let lenient := w.wire id bindings catalog false
    ∃ report, lenient.1 = .ok report ∧
      (report.skipped = [] → strict.1 = .ok report ∧
        ∀ other, strict.2.dispatcher other = lenient.2.dispatcher other) ∧
      (∀ first others, report.skipped = first :: others →
        let before := bindings.take first.index
        ∃ b entries, bindings[first.index]? = some b ∧ b.enabled = true ∧
          first.selector = b.selector ∧ first.handler = b.handler ∧
          strict.1 = .error (.wiring first.index b.selector b.handler first.reason) ∧
          entries <+: report.bound ∧
          List.Forall₂ (fun b e => b.Asks catalog (w.dispatcher id).defaultPriority e.draft)
            (before.filter fun b => b.enabled) entries ∧
          strict.2.dispatcher id = (w.dispatcher id).holding entries ∧
          (∀ live, (w.registry id).Represents live →
            (strict.2.registry id).Represents (live ++ entries)) ∧
          ∀ other, strict.2.dispatcher other = (w.wire id before catalog false).2.dispatcher other) ∧
      ((∃ e, strict.1 = .error e) ↔ report.skipped ≠ []) := by
  intro strict lenient
  obtain ⟨hlenient, hwires⟩ := w.wire_through id bindings catalog false (by simp)
  refine ⟨_, hlenient, ?_, ?_, ?_⟩
  · intro hnone
    obtain ⟨hstrict, hwires'⟩ := w.wire_through id bindings catalog true fun _ => hnone
    exact ⟨hstrict, hwires'.dispatcher_eq hwires⟩
  · intro first others hfirst before
    obtain ⟨front, b, back, hbindings, hlength, hfront, hfate, hselector, hhandler, herror, hwires'⟩ :=
      w.wire_stopped id bindings catalog hfirst
    have hbefore : before = front := by
      show bindings.take first.index = front
      rw [hbindings, ← hlength, List.take_left]
    have hb : bindings[first.index]? = some b := by
      rw [hbindings, ← hlength]
      simp
    -- lenient wiring of the bindings in front comes to the same as strict wiring of all
    have hbeforeWires := (w.wire_through id front catalog false (by simp)).2
    refine ⟨b, (w.dispatcher id).wired catalog front, hb, BindingConfig.enabled_of_refused hfate,
      hselector, hhandler, ?_, ?_, ?_, hwires'.dispatcher, ?_, ?_⟩
    · rw [← hselector, ← hhandler]
      exact herror
    · show (w.dispatcher id).wired catalog front <+: [] ++ (w.dispatcher id).wired catalog bindings
      rw [List.nil_append, hbindings, Dispatcher.wired_append]
      exact List.prefix_append _ _
    · rw [hbefore]
      have hasks := BindingConfig.forall₂_asks_drafts hfront
      rw [← Draft.map_draft_numbered (BindingConfig.drafts catalog _ front)] at hasks
      exact List.forall₂_map_right_iff.1 hasks
    · exact fun live hlive => hwires'.represents hlive
    · rw [hbefore]
      exact hwires'.dispatcher_eq hbeforeWires
  · constructor
    · rintro ⟨e, he⟩ hnone
      have hstrict := (w.wire_through id bindings catalog true fun _ => hnone).1
      rw [show (w.wire id bindings catalog true).1 = .error e from he] at hstrict
      cases hstrict
    · intro hsome
      obtain ⟨first, others, hfirst⟩ := List.exists_cons_of_ne_nil hsome
      obtain ⟨-, -, -, -, -, -, -, -, -, herror, -⟩ := w.wire_stopped id bindings catalog hfirst
      exact ⟨_, herror⟩

/-- A binding whose handler may not be in the catalog, between others, one of them disabled. -/
def offerBindings : List BindingConfig :=
  [⟨"offer.accept", "accept", none, true⟩, ⟨"offer.cancel", "audit", none, false⟩,
    ⟨"offer.decline", "decline", none, true⟩, ⟨"^=offer", "accept", some 7, true⟩]

theorem wire_strict_lenient_stopped :
    let w : World Unit Unit := ⟨Pool.empty, (), Log.empty⟩
    let catalog : Catalog Unit := [("accept", .ofBody "accept" ())]
    ∃ report entries,
      (w.wire 0 offerBindings catalog false).1 = .ok report ∧ report.bound.length = 2 ∧
      (w.wire 0 offerBindings catalog true).1 =
        .error (.wiring 2 "offer.decline" "decline" (.invalidCallback (.unknown "decline"))) ∧
      entries.length = 1 ∧
      (w.wire 0 offerBindings catalog true).2.dispatcher 0 = (w.dispatcher 0).holding entries := by
  intro w catalog
  obtain ⟨report, hlenient, -, hstopped, -⟩ := wire_strict_lenient w 0 offerBindings catalog
  have hreport : (w.wire 0 offerBindings catalog false).1 =
      .ok (WiringReport.empty.after (w.dispatcher 0) catalog 0 offerBindings) := rfl
  cases hreport.symm.trans hlenient
  obtain ⟨b, entries, hb, -, -, -, herror, -, hentries, hdispatcher, -⟩ := hstopped _ _ rfl
  cases hb
  exact ⟨_, entries, hlenient, rfl, herror, hentries.length_eq.symm, hdispatcher⟩

end Switchboard
