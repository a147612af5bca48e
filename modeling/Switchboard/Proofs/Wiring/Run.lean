import Switchboard.Proofs.Wiring.Fate

/-!
# What wiring comes to

The entries that bindings get are the drafts of those that are bound, numbered in order from the
next number of the dispatcher on. `World.Wires` says that a dispatcher has got just these entries,
and that nothing else has changed but the log.

* `World.wireFrom_step`: wiring goes on behind one binding;
* `World.wire_through`: wiring that meets nothing to stop it, with its report;
* `World.wire_stopped`: strict wiring that meets a binding that is refused.
-/

namespace Switchboard

variable {β σ : Type}

/-! ### Numbers -/

namespace Draft

/-- Entries made from drafts, numbered in order from `next` on. -/
def numbered (registry next : Nat) (drafts : List (Draft β)) : List (Entry β) :=
  (drafts.zipIdx next).map fun (d, n) => d.entry ⟨registry, n⟩

variable {registry next : Nat}

@[simp] theorem numbered_nil : numbered registry next ([] : List (Draft β)) = [] := rfl

@[simp] theorem numbered_cons (d : Draft β) (ds : List (Draft β)) :
    numbered registry next (d :: ds) =
      d.entry ⟨registry, next⟩ :: numbered registry (next + 1) ds := rfl

@[simp] theorem length_numbered (ds : List (Draft β)) :
    (numbered registry next ds).length = ds.length := by
  simp [numbered]

@[simp] theorem map_draft_numbered (ds : List (Draft β)) :
    (numbered registry next ds).map Entry.draft = ds := by
  induction ds generalizing next with
  | nil => rfl
  | cons d ds ih => simp [ih]

theorem numbered_append (ds es : List (Draft β)) :
    numbered registry next (ds ++ es) =
      numbered registry next ds ++ numbered registry (next + ds.length) es := by
  simp [numbered, List.zipIdx_append]

end Draft

/-- Entries with the next numbers of a registry are new bindings at the end of its flat list. -/
theorem Registry.Represents.addAll {r : Registry β} {live : List (Entry β)} (h : r.Represents live)
    (ds : List (Draft β)) :
    (r.addAll (Draft.numbered r.id r.nextSequence ds)).Represents
      (live ++ Draft.numbered r.id r.nextSequence ds) := by
  induction ds generalizing r live with
  | nil => simpa using h
  | cons d ds ih =>
    have hadd := h.add (e := d.entry ⟨r.id, r.nextSequence⟩) rfl rfl
    have hrest := ih hadd
    rw [id_add, nextSequence_add] at hrest
    simpa using hrest

/-! ### Entries of bindings -/

namespace BindingConfig

/-- What the bindings ask for, of those that are bound. -/
def drafts (catalog : Catalog β) (standard : Int) (bs : List BindingConfig) : List (Draft β) :=
  bs.filterMap fun b => (b.fate catalog standard).draft?

/-- The binding as one that is skipped, if it is refused. -/
def refusal? (b : BindingConfig) (catalog : Catalog β) (standard : Int) (index : Nat) :
    Option SkippedBinding :=
  (b.fate catalog standard).reason?.map fun e => ⟨index, b.selector, b.handler, e⟩

/-- The bindings that are refused, the first of them all having an index. -/
def refusals (catalog : Catalog β) (standard : Int) (index : Nat) (bs : List BindingConfig) :
    List SkippedBinding :=
  (bs.zipIdx index).filterMap fun p => p.1.refusal? catalog standard p.2

variable {catalog : Catalog β} {standard : Int} {index : Nat}

theorem drafts_append (bs cs : List BindingConfig) :
    drafts catalog standard (bs ++ cs) = drafts catalog standard bs ++ drafts catalog standard cs :=
  List.filterMap_append

/-- Leaving out bindings that are not bound leaves the drafts as they are. -/
theorem drafts_filter {p : BindingConfig → Bool} (bs : List BindingConfig)
    (h : ∀ b d, b.fate catalog standard = .bound d → p b = true) :
    drafts catalog standard (bs.filter p) = drafts catalog standard bs := by
  unfold drafts
  rw [List.filterMap_filter]
  congr 1
  funext b
  cases hfate : b.fate catalog standard with
  | bound d => rw [h b d hfate, if_pos rfl]
  | disabled => simp [Fate.draft?]
  | refused e => simp [Fate.draft?]

/-- A refusal tells the place of a binding and why that one is refused. -/
theorem mem_refusals_iff {bs : List BindingConfig} {s : SkippedBinding} :
    s ∈ refusals catalog standard 0 bs ↔
      ∃ b, bs[s.index]? = some b ∧ b.fate catalog standard = .refused s.reason ∧
        s.selector = b.selector ∧ s.handler = b.handler := by
  simp only [refusals, refusal?, List.mem_filterMap, Option.map_eq_some_iff,
    Fate.reason?_eq_some_iff]
  constructor
  · rintro ⟨⟨b, i⟩, hb, e, hfate, rfl⟩
    exact ⟨b, List.mk_mem_zipIdx_iff_getElem?.1 hb, hfate, rfl, rfl⟩
  · rintro ⟨b, hb, hfate, hselector, hhandler⟩
    refine ⟨(b, s.index), List.mk_mem_zipIdx_iff_getElem?.2 hb, s.reason, hfate, ?_⟩
    rw [← hselector, ← hhandler]

theorem refusals_singleton (b : BindingConfig) :
    refusals catalog standard index [b] = (b.refusal? catalog standard index).toList := by
  unfold refusals
  rw [List.zipIdx_singleton, List.filterMap_cons]
  cases b.refusal? catalog standard index <;> rfl

theorem refusals_cons (b : BindingConfig) (bs : List BindingConfig) :
    refusals catalog standard index (b :: bs) =
      refusals catalog standard index [b] ++ refusals catalog standard (index + 1) bs := by
  rw [refusals_singleton]
  unfold refusals
  rw [List.zipIdx_cons, List.filterMap_cons]
  cases b.refusal? catalog standard index <;> rfl

/-- The first binding that is refused, between those before it, none of which is, and the others. -/
theorem refusals_eq_cons {bs : List BindingConfig} {first : SkippedBinding}
    {others : List SkippedBinding}
    (h : refusals catalog standard index bs = first :: others) :
    ∃ front b back, bs = front ++ b :: back ∧ refusals catalog standard index front = [] ∧
      b.fate catalog standard = .refused first.reason ∧
      first = ⟨index + front.length, b.selector, b.handler, first.reason⟩ := by
  induction bs generalizing index with
  | nil => cases h
  | cons b bs ih =>
    rw [refusals_cons, refusals_singleton] at h
    cases hreason : (b.fate catalog standard).reason? with
    | none =>
      have hnone : b.refusal? catalog standard index = none := by rw [refusal?, hreason]; rfl
      rw [hnone] at h
      obtain ⟨front, c, back, rfl, hfront, hfate, hfirst⟩ := ih h
      refine ⟨b :: front, c, back, rfl, ?_, hfate, ?_⟩
      · rw [refusals_cons, refusals_singleton, hnone, hfront]
        rfl
      · rw [hfirst, List.length_cons]
        congr 1
        omega
    | some e =>
      rw [refusal?, hreason] at h
      cases h
      exact ⟨[], b, bs, rfl, rfl, Fate.reason?_eq_some_iff.1 hreason, rfl⟩

end BindingConfig

namespace Dispatcher

/-- The dispatcher with more entries. -/
def holding (d : Dispatcher β) (es : List (Entry β)) : Dispatcher β :=
  { d with registry := d.registry.addAll es }

/-- The entries that bindings get on a dispatcher. -/
def wired (d : Dispatcher β) (catalog : Catalog β) (bs : List BindingConfig) : List (Entry β) :=
  Draft.numbered d.registry.id d.registry.nextSequence
    (BindingConfig.drafts catalog d.defaultPriority bs)

variable {catalog : Catalog β}

theorem wired_append (d : Dispatcher β) (bs cs : List BindingConfig) :
    d.wired catalog (bs ++ cs) =
      d.wired catalog bs ++ (d.holding (d.wired catalog bs)).wired catalog cs := by
  simp [wired, holding, BindingConfig.drafts_append, Draft.numbered_append]

theorem holding_append (d : Dispatcher β) (es fs : List (Entry β)) :
    d.holding (es ++ fs) = (d.holding es).holding fs := by
  simp [holding, Registry.addAll]

end Dispatcher

namespace World

/-- A dispatcher has got the entries of bindings; the other ones and the state outside are as they
were. -/
structure Wires (w : World β σ) (id : Nat) (catalog : Catalog β) (bs : List BindingConfig)
    (w' : World β σ) : Prop where
  dispatcher : w'.dispatcher id = (w.dispatcher id).holding ((w.dispatcher id).wired catalog bs)
  others : ∀ other, other ≠ id → w'.dispatcher other = w.dispatcher other
  outside : w'.outside = w.outside

namespace Wires

variable {w w' w'' : World β σ} {id : Nat} {catalog : Catalog β} {bs cs : List BindingConfig}

theorem refl (w : World β σ) (id : Nat) (catalog : Catalog β) : w.Wires id catalog [] w :=
  ⟨rfl, fun _ _ => rfl, rfl⟩

theorem append (h : w.Wires id catalog bs w') (h' : w'.Wires id catalog cs w'') :
    w.Wires id catalog (bs ++ cs) w'' where
  dispatcher := by
    rw [h'.dispatcher, h.dispatcher, Dispatcher.wired_append, Dispatcher.holding_append]
  others other hother := (h'.others other hother).trans (h.others other hother)
  outside := h'.outside.trans h.outside

/-- A binding that is not bound leaves a note at most. -/
theorem single_note {b : BindingConfig}
    (h : (b.fate catalog (w.dispatcher id).defaultPriority).draft? = none) (n : Notice) :
    w.Wires id catalog [b] (w.note n) where
  dispatcher := by
    simp [Dispatcher.wired, BindingConfig.drafts, h, Dispatcher.holding]
  others _ _ := rfl
  outside := rfl

theorem single_extended {b : BindingConfig} {d : Draft β}
    (h : b.fate catalog (w.dispatcher id).defaultPriority = .bound d) :
    w.Wires id catalog [b] (w.extended id (w.nextEntry id d)) where
  dispatcher := by
    rw [dispatcher_extended, if_pos rfl]
    simp [Dispatcher.wired, BindingConfig.drafts, h, Fate.draft?, Dispatcher.holding, nextEntry,
      registry]
  others other hother := by rw [dispatcher_extended, if_neg hother]
  outside := rfl

/-- The log does not matter. -/
theorem of_log {log log' : Log} (h : Wires { w with log := log } id catalog bs w') :
    w.Wires id catalog bs { w' with log := log' } := ⟨h.dispatcher, h.others, h.outside⟩

theorem defaultPriority (h : w.Wires id catalog bs w') :
    (w'.dispatcher id).defaultPriority = (w.dispatcher id).defaultPriority := by
  rw [h.dispatcher]
  rfl

theorem wired_append (h : w.Wires id catalog bs w') (cs : List BindingConfig) :
    (w.dispatcher id).wired catalog (bs ++ cs) =
      (w.dispatcher id).wired catalog bs ++ (w'.dispatcher id).wired catalog cs := by
  rw [h.dispatcher, Dispatcher.wired_append]

end Wires

end World

/-- The report with what becomes of further bindings, the first of them having an index. -/
def WiringReport.after (report : WiringReport β) (d : Dispatcher β) (catalog : Catalog β)
    (index : Nat) (bs : List BindingConfig) : WiringReport β :=
  ⟨report.bound ++ d.wired catalog bs,
    report.skipped ++ BindingConfig.refusals catalog d.defaultPriority index bs,
    report.disabled + bs.countP fun b => !b.enabled⟩

namespace WiringReport

variable {report : WiringReport β} {d : Dispatcher β} {catalog : Catalog β} {index : Nat}
  {b : BindingConfig}

theorem after_disabled (h : b.fate catalog d.defaultPriority = .disabled) :
    report.after d catalog index [b] = report.addDisabled := by
  have hdisabled := BindingConfig.fate_eq_disabled_iff.1 h
  simp [after, addDisabled, Dispatcher.wired, BindingConfig.drafts, BindingConfig.refusals,
    BindingConfig.refusal?, h, Fate.draft?, Fate.reason?, hdisabled]

theorem after_refused {e : EngineError} (h : b.fate catalog d.defaultPriority = .refused e) :
    report.after d catalog index [b] = report.addSkipped ⟨index, b.selector, b.handler, e⟩ := by
  have henabled := BindingConfig.enabled_of_refused h
  simp [after, addSkipped, Dispatcher.wired, BindingConfig.drafts, BindingConfig.refusals,
    BindingConfig.refusal?, h, Fate.draft?, Fate.reason?, henabled]

theorem after_bound {draft : Draft β} (h : b.fate catalog d.defaultPriority = .bound draft) :
    report.after d catalog index [b] =
      report.addBound (draft.entry ⟨d.registry.id, d.registry.nextSequence⟩) := by
  have henabled := (BindingConfig.fate_eq_bound_iff.1 h).enabled
  simp [after, addBound, Dispatcher.wired, BindingConfig.drafts, BindingConfig.refusals,
    BindingConfig.refusal?, h, Fate.draft?, Fate.reason?, henabled]

end WiringReport

namespace World

variable {id : Nat} {catalog : Catalog β}

theorem Wires.after_cons {w w' : World β σ} {b : BindingConfig} (h : w.Wires id catalog [b] w')
    (report : WiringReport β) (index : Nat) (bs : List BindingConfig) :
    (report.after (w.dispatcher id) catalog index [b]).after (w'.dispatcher id) catalog (index + 1)
        bs =
      report.after (w.dispatcher id) catalog index (b :: bs) := by
  have hwired : (w.dispatcher id).wired catalog (b :: bs) =
      (w.dispatcher id).wired catalog [b] ++ (w'.dispatcher id).wired catalog bs := h.wired_append bs
  have hcount : (b :: bs).countP (fun b => !b.enabled) =
      [b].countP (fun b => !b.enabled) + bs.countP (fun b => !b.enabled) := by
    rw [← List.singleton_append, List.countP_append]
  unfold WiringReport.after
  rw [hwired, BindingConfig.refusals_cons b bs, hcount, h.defaultPriority]
  simp only [List.append_assoc, Nat.add_assoc]

/-- Wiring goes on behind a binding, unless it is strict and the binding is refused. -/
theorem wireFrom_step (strict : Bool) (index : Nat) (b : BindingConfig) (report : WiringReport β)
    (w : World β σ)
    (h : strict = true →
      BindingConfig.refusals catalog (w.dispatcher id).defaultPriority index [b] = []) :
    ∃ w', w.Wires id catalog [b] w' ∧ ∀ rest,
      wireFrom id catalog strict index (b :: rest) report w =
        wireFrom id catalog strict (index + 1) rest
          (report.after (w.dispatcher id) catalog index [b]) w' := by
  cases hfate : b.fate catalog (w.dispatcher id).defaultPriority with
  | disabled =>
    refine ⟨_, Wires.single_note (by rw [hfate]; rfl) (.bindingDisabled index b.selector), ?_⟩
    intro rest
    rw [wireFrom_cons, hfate, WiringReport.after_disabled hfate]
  | refused e =>
    -- under strict wiring the refusal would stand in the list that is empty
    have hlenient : ¬ strict = true := by
      intro hstrict
      have hnone := h hstrict
      rw [BindingConfig.refusals_singleton, BindingConfig.refusal?, hfate] at hnone
      cases hnone
    refine ⟨_, Wires.single_note (by rw [hfate]; rfl)
      (.bindingSkipped index b.selector b.handler e.message), ?_⟩
    intro rest
    rw [wireFrom_cons, hfate, WiringReport.after_refused hfate]
    exact if_neg hlenient
  | bound d =>
    refine ⟨_, Wires.single_extended hfate, ?_⟩
    intro rest
    rw [wireFrom_cons, hfate, WiringReport.after_bound hfate]
    rfl

/-- Wiring that meets nothing to stop it deals with all bindings. -/
theorem wireFrom_through {strict : Bool} (index : Nat) (bs : List BindingConfig)
    (report : WiringReport β) (w : World β σ)
    (h : strict = true →
      BindingConfig.refusals catalog (w.dispatcher id).defaultPriority index bs = []) :
    ∃ w', w.Wires id catalog bs w' ∧
      wireFrom id catalog strict index bs report w =
        (.ok (report.after (w.dispatcher id) catalog index bs), w') := by
  induction bs generalizing index report w with
  | nil =>
    refine ⟨w, Wires.refl w id catalog, ?_⟩
    simp [wireFrom, WiringReport.after, Dispatcher.wired, BindingConfig.drafts,
      BindingConfig.refusals]
  | cons b bs ih =>
    rw [BindingConfig.refusals_cons] at h
    obtain ⟨w', hwires, hstep⟩ := wireFrom_step strict index b report w fun hstrict =>
      (List.append_eq_nil_iff.1 (h hstrict)).1
    obtain ⟨w'', hwires', hrun⟩ := ih (index + 1)
      (report.after (w.dispatcher id) catalog index [b]) w' fun hstrict => by
        rw [hwires.defaultPriority]
        exact (List.append_eq_nil_iff.1 (h hstrict)).2
    refine ⟨w'', hwires.append hwires', ?_⟩
    rw [hstep, hrun, hwires.after_cons]

/-- Strict wiring ends at the first binding that is refused; those before it stay. -/
theorem wireFrom_stopped (index : Nat) {front : List BindingConfig} {b : BindingConfig}
    (back : List BindingConfig) {e : EngineError} (report : WiringReport β) (w : World β σ)
    (hfront : BindingConfig.refusals catalog (w.dispatcher id).defaultPriority index front = [])
    (hb : b.fate catalog (w.dispatcher id).defaultPriority = .refused e) :
    ∃ w', w.Wires id catalog front w' ∧
      wireFrom id catalog true index (front ++ b :: back) report w =
        (.error (.wiring (index + front.length) b.selector b.handler e), w') := by
  induction front generalizing index report w with
  | nil =>
    refine ⟨w, Wires.refl w id catalog, ?_⟩
    rw [List.nil_append, wireFrom_cons, hb]
    rfl
  | cons c front ih =>
    rw [BindingConfig.refusals_cons] at hfront
    obtain ⟨hc, hrest⟩ := List.append_eq_nil_iff.1 hfront
    obtain ⟨w', hwires, hstep⟩ := wireFrom_step true index c report w fun _ => hc
    obtain ⟨w'', hwires', hrun⟩ := ih (index + 1)
      (report.after (w.dispatcher id) catalog index [c]) w'
      (by rw [hwires.defaultPriority]; exact hrest) (by rw [hwires.defaultPriority]; exact hb)
    refine ⟨w'', hwires.append hwires', ?_⟩
    rw [List.cons_append, hstep, hrun, List.length_cons, Nat.add_assoc, Nat.add_comm 1]

/-! ### Wiring inside its span -/

theorem wire_eq (w : World β σ) (id : Nat) (bs : List BindingConfig) (catalog : Catalog β)
    (strict : Bool) :
    w.wire id bs catalog strict =
      let done := wireFrom id catalog strict 0 bs WiringReport.empty
        { w with log := w.log.enter (.wiring bs.length strict) }
      (done.1, { done.2 with log := done.2.log.leave }) := rfl

/-- Wiring that meets nothing to stop it reports what becomes of each binding. -/
theorem wire_through (w : World β σ) (id : Nat) (bs : List BindingConfig) (catalog : Catalog β)
    (strict : Bool)
    (h : strict = true →
      BindingConfig.refusals catalog (w.dispatcher id).defaultPriority 0 bs = []) :
    (w.wire id bs catalog strict).1 =
        .ok (WiringReport.empty.after (w.dispatcher id) catalog 0 bs) ∧
      w.Wires id catalog bs (w.wire id bs catalog strict).2 := by
  obtain ⟨w', hwires, hrun⟩ := wireFrom_through 0 bs WiringReport.empty
    { w with log := w.log.enter (.wiring bs.length strict) } h
  rw [wire_eq, hrun]
  exact ⟨rfl, hwires.of_log⟩

/-- Strict wiring fails with the first binding that is refused, and has registered those before it.
-/
theorem wire_stopped (w : World β σ) (id : Nat) (bs : List BindingConfig) (catalog : Catalog β)
    {first : SkippedBinding} {others : List SkippedBinding}
    (h : BindingConfig.refusals catalog (w.dispatcher id).defaultPriority 0 bs = first :: others) :
    ∃ front b back, bs = front ++ b :: back ∧ front.length = first.index ∧
      BindingConfig.refusals catalog (w.dispatcher id).defaultPriority 0 front = [] ∧
      b.fate catalog (w.dispatcher id).defaultPriority = .refused first.reason ∧
      first.selector = b.selector ∧ first.handler = b.handler ∧
      (w.wire id bs catalog true).1 =
        .error (.wiring first.index first.selector first.handler first.reason) ∧
      w.Wires id catalog front (w.wire id bs catalog true).2 := by
  obtain ⟨front, b, back, rfl, hfront, hfate, hfirst⟩ := BindingConfig.refusals_eq_cons h
  obtain ⟨w', hwires, hrun⟩ := wireFrom_stopped 0 back WiringReport.empty
    { w with log := w.log.enter (.wiring (front ++ b :: back).length true) } hfront hfate
  refine ⟨front, b, back, rfl, ?_, hfront, hfate, ?_, ?_, ?_, ?_⟩
  · rw [hfirst, Nat.zero_add]
  · rw [hfirst]
  · rw [hfirst]
  · rw [wire_eq, hrun, hfirst]
  · rw [wire_eq, hrun]
    exact hwires.of_log

end World

end Switchboard
