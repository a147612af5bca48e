import Switchboard.Proofs.Config.Check
import Switchboard.Proofs.Host.Assembly
import Switchboard.Proofs.Value.Shape
import Switchboard.Proofs.Wiring.Strictness

/-!
# Bindings that are turned off

Wiring counts the bindings that are disabled and does nothing else with them. Leaving them out of a
configuration moves the places of the others, from their places among all bindings to their ranks
among the enabled ones. The check of a configuration under strict wiring is of another kind: it
looks at disabled bindings as well, and one that does not pass keeps the host from being started.

* `BindingConfig.refusals_active`, `checkBindings_active`: what is refused without disabled
  bindings;
* `launch_withoutDisabled`: a host with disabled bindings and without them.
-/

namespace Switchboard

variable {β σ : Type}

/-! ### Places and ranks -/

namespace BindingConfig

/-- The bindings that are enabled. -/
def active (bs : List BindingConfig) : List BindingConfig := bs.filter fun b => b.enabled

/-- The number of enabled bindings in front of a place. -/
def rank (bs : List BindingConfig) (i : Nat) : Nat := (bs.take i).countP fun b => b.enabled

/-- The place of an enabled binding among the enabled ones is its rank. -/
theorem getElem?_active_rank {bs : List BindingConfig} {i : Nat} {b : BindingConfig}
    (hb : bs[i]? = some b) (henabled : b.enabled = true) : (active bs)[rank bs i]? = some b := by
  obtain ⟨hi, rfl⟩ := List.getElem?_eq_some_iff.1 hb
  have hsplit : active bs = active (bs.take i) ++ bs[i] :: active (bs.drop (i + 1)) := by
    conv_lhs => rw [← List.take_append_drop i bs, List.drop_eq_getElem_cons hi]
    rw [active, List.filter_append, List.filter_cons_of_pos henabled]
    rfl
  have hrank : rank bs i = (active (bs.take i)).length := List.countP_eq_length_filter
  rw [hsplit, hrank, List.getElem?_append_right (Nat.le_refl _), Nat.sub_self]
  rfl

theorem rank_length_append (front back : List BindingConfig) :
    rank (front ++ back) front.length = front.countP fun b => b.enabled := by
  rw [rank, List.take_left]

end BindingConfig

/-- The same refusal at another place. -/
def SkippedBinding.moved (f : Nat → Nat) (s : SkippedBinding) : SkippedBinding :=
  { s with index := f s.index }

/-- The same error, with another place for the binding that it blames. -/
def ConfigError.moved (f : Nat → Nat) : ConfigError → ConfigError
  | .binding i cause => .binding (f i) cause
  | e => e

/-- The same error, with another place for the binding that it blames. -/
def HostError.moved (f : Nat → Nat) : HostError → HostError
  | .config cause => .config (cause.moved f)
  | .wiring i selector handler cause => .wiring (f i) selector handler cause
  | e => e

/-- The place of the binding that the error blames. -/
def HostError.place? : HostError → Option Nat
  | .config (.binding i _) => some i
  | .wiring i _ _ _ => some i
  | _ => none

/-- The configuration without its disabled bindings. -/
def Config.withoutDisabled (c : Config) : Config :=
  { c with bindings := BindingConfig.active c.bindings }

@[simp] theorem Config.dispatch_withoutDisabled (c : Config) :
    c.withoutDisabled.dispatch = c.dispatch := rfl

@[simp] theorem Config.logging_withoutDisabled (c : Config) :
    c.withoutDisabled.logging = c.logging := rfl

@[simp] theorem Config.bindings_withoutDisabled (c : Config) :
    c.withoutDisabled.bindings = BindingConfig.active c.bindings := rfl

/-! ### What is refused -/

namespace BindingConfig

variable {catalog : Catalog β} {standard : Int}

theorem drafts_active (bs : List BindingConfig) :
    drafts catalog standard (active bs) = drafts catalog standard bs :=
  drafts_filter bs fun _ _ h => (fate_eq_bound_iff.1 h).enabled

theorem active_cons (b : BindingConfig) (bs : List BindingConfig) :
    active (b :: bs) = if b.enabled then b :: active bs else active bs := List.filter_cons

/-- A binding by itself is refused at the number of enabled ones in front of it. -/
theorem refusals_moved (front back : List BindingConfig) (b : BindingConfig) :
    (refusals catalog standard front.length [b]).map
        (SkippedBinding.moved (rank (front ++ b :: back))) =
      refusals catalog standard (front.countP fun b => b.enabled) [b] := by
  rw [refusals_singleton, refusals_singleton, refusal?, refusal?]
  cases (b.fate catalog standard).reason? with
  | none => rfl
  | some e =>
    show [SkippedBinding.mk _ _ _ _] = [SkippedBinding.mk _ _ _ _]
    rw [rank_length_append]

/-- Wiring refuses the same bindings, each at its rank. The bindings in front are those that have
been dealt with, and are what the ranks of the others depend on. -/
theorem refusals_active (front back : List BindingConfig) :
    refusals catalog standard (front.countP fun b => b.enabled) (active back) =
      (refusals catalog standard front.length back).map
        (SkippedBinding.moved (rank (front ++ back))) := by
  induction back generalizing front with
  | nil => rfl
  | cons b back ih =>
    -- the binding joins those in front, disabled or not, but only an enabled one raises the ranks
    have hrest := ih (front ++ [b])
    rw [List.countP_append, List.countP_singleton, List.length_append, List.length_singleton,
      List.append_assoc, List.singleton_append] at hrest
    rw [refusals_cons b back, List.map_append, ← hrest, refusals_moved, active_cons]
    cases henabled : b.enabled with
    | false =>
      rw [refusals_singleton, refusal?, fate_eq_disabled_iff.2 henabled]
      rfl
    | true => rw [if_pos rfl, refusals_cons, if_pos rfl]

end BindingConfig

/-- The check refuses the same binding at its rank, provided that it is enabled. -/
theorem checkBindings_active (front back : List BindingConfig)
    (h : ∀ i b cause, checkBindings front.length back = .error (.binding i cause) →
      (front ++ back)[i]? = some b → b.enabled = true) :
    checkBindings (front.countP fun b => b.enabled) (BindingConfig.active back) =
      (checkBindings front.length back).mapError
        (ConfigError.moved (BindingConfig.rank (front ++ back))) := by
  induction back generalizing front with
  | nil => rfl
  | cons b back ih =>
    have hrest := ih (front ++ [b])
    rw [List.countP_append, List.countP_singleton, List.length_append, List.length_singleton,
      List.append_assoc, List.singleton_append] at hrest
    rw [BindingConfig.active_cons, checkBindings]
    rw [checkBindings] at h
    cases hcheck : b.check with
    | error cause =>
      -- this is the binding that is blamed, and the check without it would go on behind it
      have henabled : b.enabled = true := by
        rw [hcheck] at h
        exact h front.length b cause rfl (by simp)
      rw [if_pos henabled, checkBindings, hcheck,
        ← BindingConfig.rank_length_append front (b :: back)]
      rfl
    | ok s =>
      rw [hcheck] at h
      rw [← hrest h]
      cases henabled : b.enabled with
      | false => rfl
      | true => rw [if_pos rfl, checkBindings, hcheck, if_pos rfl]

namespace Config

/-- The check has the same outcome without disabled bindings if it does not blame one of them. -/
theorem check_withoutDisabled {c : Config}
    (h : ∀ i b cause, c.RefusedFor i b cause → b.enabled = true) :
    c.withoutDisabled.check =
      c.check.mapError (ConfigError.moved (BindingConfig.rank c.bindings)) := by
  have hblamed : ∀ i b cause, c.check = .error (.binding i cause) → c.bindings[i]? = some b →
      b.enabled = true := by
    intro i b cause hcheck hb
    obtain ⟨b', hrefused⟩ := check_eq_binding_iff.1 hcheck
    cases hb.symm.trans hrefused.binding
    exact h i b cause hrefused
  unfold check at hblamed ⊢
  rw [logging_withoutDisabled, dispatch_withoutDisabled, bindings_withoutDisabled]
  cases hlogging : c.logging.check with
  | error e =>
    cases e with
    | binding i cause => exact absurd hlogging (c.logging.check_ne_binding i cause)
    | _ => rfl
  | ok u =>
    rw [hlogging] at hblamed
    by_cases hstrict : c.dispatch.strict = true
    · simp only [hstrict, if_true] at hblamed ⊢
      exact checkBindings_active [] c.bindings hblamed
    · simp only [if_neg hstrict]
      rfl

end Config

/-! ### Launching -/

/-- Disabled bindings get no entries. -/
theorem Dispatcher.wired_active (d : Dispatcher β) (catalog : Catalog β) (bs : List BindingConfig) :
    d.wired catalog (BindingConfig.active bs) = d.wired catalog bs := by
  rw [wired, wired, BindingConfig.drafts_active]

theorem World.Wires.active {w w' : World β σ} {id : Nat} {catalog : Catalog β}
    {bs : List BindingConfig} (h : w.Wires id catalog bs w') :
    w.Wires id catalog (BindingConfig.active bs) w' where
  dispatcher := by rw [h.dispatcher, Dispatcher.wired_active]
  others := h.others
  outside := h.outside

/-- What wiring refuses without the disabled bindings, each at its rank. -/
theorem Config.refusals_withoutDisabled (c : Config) (catalog : Catalog β) :
    c.withoutDisabled.refusals catalog =
      (c.refusals catalog).map (SkippedBinding.moved (BindingConfig.rank c.bindings)) :=
  BindingConfig.refusals_active [] c.bindings

/-- A report on bindings, and one on those of them that are enabled: what is bound is the same, what
is skipped is at its rank, and nothing is disabled. -/
structure WiringReport.Reduces (report report' : WiringReport β) (bs : List BindingConfig) : Prop where
  bound : report'.bound = report.bound
  skipped : report'.skipped = report.skipped.map (SkippedBinding.moved (BindingConfig.rank bs))
  disabled : report'.disabled = 0

theorem WiringReport.reduces_after (d : Dispatcher β) (catalog : Catalog β)
    (bs : List BindingConfig) :
    (empty.after d catalog 0 bs).Reduces (empty.after d catalog 0 (BindingConfig.active bs)) bs where
  bound := congrArg ([] ++ ·) (d.wired_active catalog bs)
  skipped := BindingConfig.refusals_active [] bs
  disabled := by
    show 0 + (BindingConfig.active bs).countP _ = 0
    rw [Nat.zero_add, List.countP_eq_zero]
    intro b hb
    simp [(List.mem_filter.1 hb).2]

namespace Host

variable {w : World β σ} {id : Nat} {c : Config} {catalog : Catalog β}

/-- If nothing stops the wiring, nothing stops it without the disabled bindings. -/
theorem assemble_withoutDisabled (h : c.dispatch.strict = true → c.refusals catalog = []) :
    ∃ host host', (assemble w id c catalog).1 = .ok host ∧
      (assemble w id c.withoutDisabled catalog).1 = .ok host' ∧
      host.report.Reduces host'.report c.bindings ∧
      (assemble w id c.withoutDisabled catalog).2.dispatcher host'.dispatcher =
        (assemble w id c catalog).2.dispatcher host.dispatcher := by
  obtain ⟨hhost, hwires⟩ : (assemble w id c catalog).1 = _ ∧ _ := assemble_through h
  obtain ⟨hhost', hwires'⟩ : (assemble w id c.withoutDisabled catalog).1 = _ ∧ _ :=
    assemble_through fun hstrict => by rw [c.refusals_withoutDisabled, h hstrict]; rfl
  exact ⟨_, _, hhost, hhost', WiringReport.reduces_after _ catalog c.bindings,
    hwires'.dispatcher_eq hwires.active id⟩

/-- A binding that is blamed is enabled, as far as the check does not blame a disabled one. -/
theorem enabled_of_place {e : HostError}
    (h : ∀ i b cause, c.RefusedFor i b cause → b.enabled = true)
    (he : (launch w id c catalog).1 = .error e) {i : Nat} (hi : e.place? = some i) :
    ∃ b, c.bindings[i]? = some b ∧ b.enabled = true := by
  rcases launch_cases w id c catalog with ⟨e', hcheck, hfull⟩ |
    ⟨first, others, -, -, hrefusals, hfull⟩ | ⟨-, -, host, hfull⟩
  · cases hfull.symm.trans he
    cases e' with
    | binding j cause =>
      cases hi
      obtain ⟨b, hb⟩ := Config.check_eq_binding_iff.1 hcheck
      exact ⟨b, hb.binding, h i b cause hb⟩
    | _ => cases hi
  · cases hfull.symm.trans he
    cases hi
    obtain ⟨b, hb, hfate, -, -⟩ := BindingConfig.mem_refusals_iff.1
      (hrefusals ▸ List.mem_cons_self : first ∈ c.refusals catalog)
    exact ⟨b, hb, BindingConfig.enabled_of_refused hfate⟩
  · cases hfull.symm.trans he

end Host

/-- A host with the disabled bindings of its configuration and without them. A host that reads its
configuration is built by launching it, after some notes in the log. If the check under
strict wiring blames a disabled binding, there is no host with it. Otherwise leaving them out makes
no difference: a launch that fails still fails and blames the same binding for the same reason, at
its rank among the enabled ones; and a host that is started still is, with the same dispatcher. -/
theorem launch_withoutDisabled (w : World β σ) (id : Nat) (c : Config) (catalog : Catalog β) :
    let full := Host.launch w id c catalog
    let reduced := Host.launch w id c.withoutDisabled catalog
    let rank := BindingConfig.rank c.bindings
    (∀ (p : HostPlan β) (s : Surroundings), p.catalog = catalog → p.Reads s c → ∃ log,
      let noted := Host.launch { w with log := log } id c catalog
      (p.build w id s).result = noted.1.mapError .host ∧ (p.build w id s).world = noted.2) ∧
    (∀ i b cause, c.RefusedFor i b cause → full.1 = .error (.config (.binding i cause))) ∧
    ((∀ i b cause, c.RefusedFor i b cause → b.enabled = true) →
      (∀ e, full.1 = .error e → reduced.1 = .error (e.moved rank) ∧
        ∀ i, e.place? = some i →
          ∃ b, c.bindings[i]? = some b ∧ c.withoutDisabled.bindings[rank i]? = some b) ∧
      ∀ host, full.1 = .ok host → ∃ host', reduced.1 = .ok host' ∧
        host.report.Reduces host'.report c.bindings ∧
        reduced.2.dispatcher host'.dispatcher = full.2.dispatcher host.dispatcher) := by
  intro full reduced rank
  refine ⟨?_, ?_, fun henabled => ?_⟩
  · rintro p s rfl hread
    exact hread.build w id
  · intro i b cause hb
    show (Host.launch w id c catalog).1 = _
    rw [Host.launch_of_check_error (Config.check_eq_binding_iff.2 ⟨b, hb⟩)]
  -- both launches take the same of the three ways, and along each of them what is refused is moved
  have hcheck' := Config.check_withoutDisabled henabled
  constructor
  · intro e he
    refine ⟨?_, fun i hi => ?_⟩
    · show (Host.launch w id c.withoutDisabled catalog).1 = _
      rcases Host.launch_cases w id c catalog with ⟨e', hcheck, hfull⟩ |
        ⟨first, others, hcheck, hstrict, hrefusals, hfull⟩ | ⟨-, -, host, hfull⟩
      · cases hfull.symm.trans he
        rw [hcheck] at hcheck'
        rw [Host.launch_of_check_error hcheck']
        rfl
      · cases hfull.symm.trans he
        rw [hcheck] at hcheck'
        rw [Host.launch_of_check_ok hcheck']
        have hrefusals' := c.refusals_withoutDisabled catalog
        rw [hrefusals] at hrefusals'
        exact Host.assemble_stopped (by exact hstrict) hrefusals'
      · cases hfull.symm.trans he
    · obtain ⟨b, hb, hbenabled⟩ := Host.enabled_of_place henabled he hi
      exact ⟨b, hb, BindingConfig.getElem?_active_rank hb hbenabled⟩
  · intro host hhost
    rcases Host.launch_cases w id c catalog with ⟨e, -, hfull⟩ | ⟨first, others, -, -, -, hfull⟩ |
      ⟨hcheck, hthrough, -⟩
    · cases hfull.symm.trans hhost
    · cases hfull.symm.trans hhost
    · rw [hcheck] at hcheck'
      obtain ⟨host₁, host', hhost₁, hreduced⟩ :
          ∃ host host', (Host.assemble w id c catalog).1 = .ok host ∧ _ :=
        Host.assemble_withoutDisabled hthrough
      rw [← Host.launch_of_check_ok hcheck] at hhost₁ hreduced
      rw [← Host.launch_of_check_ok hcheck'] at hreduced
      cases hhost₁.symm.trans hhost
      exact ⟨host', hreduced⟩

/-- Under strict wiring a disabled binding without a selector. -/
def blankConfig : Config := ⟨⟨5, true⟩, default, [⟨"", "audit", none, false⟩]⟩

/-- A file with that configuration. -/
def blankSurroundings : Surroundings :=
  { file? := fun path =>
      if path = "reacton.toml" then
        some (.text <| "[dispatch]\ndefault_priority = 5\nstrict = true\n" ++
          "[[bindings]]\nselector = \"\"\nhandler = \"audit\"\nenabled = false\n")
      else none
    opens := fun _ => true
    environment := []
    workingDirectory := ""
    userDirectory := none
    now := ⟨2024, 1, 1, 0, 0⟩ }

/-- A host without handlers and without a log. -/
def blankPlan : HostPlan Unit := { HostPlan.usual [] with startsLog := false }

/-- The file is the only layer besides the initial configuration. -/
theorem reads_blankPlan : blankPlan.Reads blankSurroundings blankConfig where
  loads := rfl
  quiet := rfl
  extract := by
    have hsources : ((blankPlan.loader blankSurroundings).sources blankSurroundings.isFile
        ((blankPlan.loader blankSurroundings).directories blankSurroundings)).toOption =
        some (some ⟨"reacton.toml", none⟩) := by decide +kernel
    have hconfig : ((blankPlan.loader blankSurroundings).layers blankSurroundings
        ["reacton.toml"]).toOption.bind (fun layers => (Loader.extract layers).toOption) =
        some blankConfig := by decide +kernel
    obtain ⟨layers, hlayers, hextract⟩ := Option.bind_eq_some_iff.1 hconfig
    exact ⟨_, layers, toOption_eq_some_iff.1 hsources, toOption_eq_some_iff.1 hlayers,
      toOption_eq_some_iff.1 hextract⟩

/-- A disabled binding can keep a host from being started, also one that reads its configuration. -/
theorem launch_refused_for_disabled :
    (Host.launch World.untouched 0 blankConfig []).1 =
        .error (.config (.binding 0 .undefinedSelector)) ∧
      (∃ host, (Host.launch World.untouched 0 blankConfig.withoutDisabled []).1 = .ok host) ∧
      blankPlan.Reads blankSurroundings blankConfig ∧
      (blankPlan.build World.untouched 0 blankSurroundings).result =
        .error (.host (.config (.binding 0 .undefinedSelector))) := by
  obtain ⟨log, hresult, -⟩ := reads_blankPlan.build World.untouched 0
  refine ⟨rfl, ⟨_, rfl⟩, reads_blankPlan, ?_⟩
  rw [hresult]
  rfl

/-- Under strict wiring disabled bindings around one that is bound, and another one whose handler
the catalog lacks. -/
def sparseConfig : Config :=
  { dispatch := ⟨5, true⟩
    logging := default
    bindings :=
      [⟨"offer.cancel", "audit", none, false⟩, ⟨"offer.accept", "accept", none, true⟩,
        ⟨"^=offer", "audit", some 3, false⟩, ⟨"offer.decline", "decline", none, true⟩] }

theorem launch_withoutDisabled_sparse :
    let catalog : Catalog Unit := [("accept", .ofBody "accept" ())]
    let cause : EngineError := .invalidCallback (.unknown "decline")
    (∀ i b cause, sparseConfig.RefusedFor i b cause → b.enabled = true) ∧
      (Host.launch World.untouched 0 sparseConfig catalog).1 =
        .error (.wiring 3 "offer.decline" "decline" cause) ∧
      (Host.launch World.untouched 0 sparseConfig.withoutDisabled catalog).1 =
        .error (.wiring 1 "offer.decline" "decline" cause) := by
  intro catalog cause
  have hpass : ∀ i b cause, sparseConfig.RefusedFor i b cause → b.enabled = true := by
    intro i b cause hb
    have hcheck : sparseConfig.check = .ok () := rfl
    cases hcheck.symm.trans (Config.check_eq_binding_iff.2 ⟨b, hb⟩)
  have hfull : (Host.launch World.untouched 0 sparseConfig catalog).1 =
      .error (.wiring 3 "offer.decline" "decline" cause) := rfl
  obtain ⟨hfailed, -⟩ :=
    (launch_withoutDisabled World.untouched 0 sparseConfig catalog).2.2 hpass
  exact ⟨hpass, hfull, (hfailed _ hfull).1⟩

end Switchboard
