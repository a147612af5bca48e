import Mathlib.Data.List.TakeWhile
import Switchboard.Proofs.Config.Check
import Switchboard.Proofs.Wiring.Run

/-!
# Wiring what has passed the check

Under strict wiring the bindings are looked at twice, by the check of the configuration and when they
are registered. What the check lets through can only be refused for the handler that it names; and
the check blames a binding for what can be seen without a catalog.

* `BindingConfig.check_eq_error_iff`: the flaws of a binding, in the words of the grammar;
* `BindingConfig.fate_eq_refused_iff`: what is left for the catalog to refuse;
* `World.wire_strict_eq_error_iff`: strict wiring fails with the first binding that is refused;
* `strict_check_wiring`: the check and wiring together.
-/

namespace Switchboard

variable {β σ : Type}

/-- Trimming leaves nothing of a text if that is all white space. -/
theorem Text.trim_eq_empty_iff {s : String} : trim s = "" ↔ allBlank s = true := by
  rw [trim, ← String.toList_eq_nil_iff, String.toList_ofList, trimChars, List.reverse_eq_nil_iff,
    List.dropWhile_eq_nil_iff, allBlank, List.all_eq_true]
  simp only [List.mem_reverse]
  constructor
  · intro h c hc
    rw [← List.takeWhile_append_dropWhile (p := isBlank) (l := s.toList)] at hc
    rcases List.mem_append.1 hc with hc | hc
    · exact List.mem_takeWhile_imp hc
    · exact h c hc
  · exact fun h c hc => h c ((List.dropWhile_sublist _).mem hc)

namespace BindingConfig

/-! ### Flaws -/

/-- What stands against a binding by itself. -/
inductive Flaw (b : BindingConfig) : EngineError → Prop
  | noSelector (h : b.selector = "") : Flaw b .undefinedSelector
  | noGrammar (h : b.selector ≠ "") (hspelled : ∀ op name, ¬ Selector.Spelled b.selector op name) :
    Flaw b (.invalidSelector b.selector)
  | noHandler {op : Operator} {name : String} (h : Selector.Spelled b.selector op name)
    (hblank : Text.trim b.handler = "") : Flaw b (.invalidCallback (.unnamed b.selector))

/-- A binding whose selector is empty or not in the grammar, or whose handler has a blank name. -/
def Flawed (b : BindingConfig) : Prop :=
  b.selector = "" ∨ (∀ op name, ¬ Selector.Spelled b.selector op name) ∨ Text.trim b.handler = ""

theorem check_eq_error_iff {b : BindingConfig} {e : EngineError} :
    b.check = .error e ↔ b.Flaw e := by
  constructor
  · intro h
    unfold check at h
    split at h
    next hempty =>
      cases h
      exact .noSelector hempty
    next hempty =>
      cases hparse : Selector.parse b.selector with
      | error e' =>
        rw [hparse] at h
        cases h
        obtain ⟨hspelled, rfl⟩ := Selector.parse_eq_error_iff.1 hparse
        exact .noGrammar hempty hspelled
      | ok s =>
        have htext := Selector.parse_eq_ok_iff.1 hparse
        cases hblank : Text.allBlank b.handler with
        | false => simp [hparse, hblank] at h
        | true =>
          simp only [hparse, hblank, if_true, Except.error.injEq] at h
          rw [← h, htext]
          have hspelled := Selector.spelled_text s
          rw [htext] at hspelled
          exact .noHandler hspelled (Text.trim_eq_empty_iff.2 hblank)
  · intro h
    unfold check
    cases h with
    | noSelector h => rw [if_pos h]
    | noGrammar h hspelled => rw [if_neg h, Selector.parse_eq_error_iff.2 ⟨hspelled, rfl⟩]
    | noHandler h hblank =>
      have htext := Selector.parse_eq_ok_iff.1 h.parse_eq
      rw [if_neg h.ne_empty, h.parse_eq]
      simp only [Text.trim_eq_empty_iff.1 hblank, if_true, htext]

/-- A binding has a flaw if and only if it is flawed. -/
theorem exists_flaw_iff {b : BindingConfig} : (∃ e, b.Flaw e) ↔ b.Flawed := by
  constructor
  · rintro ⟨e, h | ⟨-, h⟩ | ⟨-, h⟩⟩
    · exact Or.inl h
    · exact Or.inr (Or.inl h)
    · exact Or.inr (Or.inr h)
  · intro h
    cases hcheck : b.check with
    | error e => exact ⟨e, check_eq_error_iff.1 hcheck⟩
    | ok s =>
      exfalso
      obtain ⟨hparse, hblank⟩ := check_eq_ok_iff.1 hcheck
      have hspelled := Selector.spelled_text s
      rw [Selector.parse_eq_ok_iff.1 hparse] at hspelled
      rcases h with h | h | h
      · exact hspelled.ne_empty h
      · exact h _ _ hspelled
      · rw [Text.trim_eq_empty_iff.1 h] at hblank
        cases hblank

theorem not_flawed_iff {b : BindingConfig} : ¬ b.Flawed ↔ ∃ s, b.check = .ok s := by
  rw [← exists_flaw_iff]
  simp only [← check_eq_error_iff]
  cases b.check <;> simp

/-! ### Handlers that the catalog does not serve -/

/-- What stands against the handler of a binding by the catalog. -/
inductive Fault (catalog : Catalog β) (b : BindingConfig) : CallbackFault → Prop
  | missing (h : Table.get? b.handler catalog = none) : Fault catalog b (.unknown b.handler)
  | notInvocable {handler : Handler β} (h : Table.get? b.handler catalog = some handler)
    (hinvocable : handler.invocable = false) :
    Fault catalog b (.notInvocable handler.name b.selector)

/-- An enabled binding whose handler is not in the catalog, or cannot be invoked. -/
def Unserved (catalog : Catalog β) (b : BindingConfig) : Prop :=
  b.enabled = true ∧ (Table.get? b.handler catalog = none ∨
    ∃ handler, Table.get? b.handler catalog = some handler ∧ handler.invocable = false)

variable {catalog : Catalog β} {standard : Int} {b : BindingConfig}

theorem unserved_iff :
    b.Unserved catalog ↔ b.enabled = true ∧ ∃ fault, Fault catalog b fault := by
  refine and_congr_right fun _ => ⟨?_, ?_⟩
  · rintro (h | ⟨handler, h, hinvocable⟩)
    · exact ⟨_, .missing h⟩
    · exact ⟨_, .notInvocable h hinvocable⟩
  · rintro ⟨fault, h | ⟨h, hinvocable⟩⟩
    · exact Or.inl h
    · exact Or.inr ⟨_, h, hinvocable⟩

/-- A binding that has passed its check is refused if it is enabled and the catalog does not serve
it, and for no other reason. -/
theorem fate_eq_refused_iff {s : Selector} (hcheck : b.check = .ok s) {e : EngineError} :
    b.fate catalog standard = .refused e ↔
      b.enabled = true ∧ ∃ fault, Fault catalog b fault ∧ e = .invalidCallback fault := by
  have htext := Selector.parse_eq_ok_iff.1 (check_eq_ok_iff.1 hcheck).1
  simp only [fate, lookUp, Catalog.find, hcheck]
  cases henabled : b.enabled with
  | false => simp
  | true =>
    simp only [if_true, true_and]
    cases hfind : Table.get? b.handler catalog with
    | none =>
      constructor
      · rintro ⟨⟩
        exact ⟨_, .missing hfind, rfl⟩
      · rintro ⟨fault, h | ⟨h, -⟩, rfl⟩
        · rfl
        · cases hfind.symm.trans h
    | some handler =>
      by_cases hinvocable : handler.invocable = true
      · simp only [if_pos hinvocable]
        constructor
        · rintro ⟨⟩
        · rintro ⟨fault, h | ⟨h, hnot⟩, -⟩
          · cases hfind.symm.trans h
          · cases hfind.symm.trans h
            cases hinvocable.symm.trans hnot
      · simp only [if_neg hinvocable, htext]
        constructor
        · rintro ⟨⟩
          exact ⟨_, .notInvocable hfind (Bool.eq_false_iff.2 hinvocable), rfl⟩
        · rintro ⟨fault, h | ⟨h, -⟩, rfl⟩
          · cases hfind.symm.trans h
          · cases hfind.symm.trans h
            rfl

/-! ### The first binding -/

/-- The first of the bindings that have a property. -/
structure First (p : BindingConfig → Prop) (bs : List BindingConfig) (i : Nat)
    (b : BindingConfig) : Prop where
  binding : bs[i]? = some b
  holds : p b
  least : ∀ j c, bs[j]? = some c → p c → i ≤ j

variable {p : BindingConfig → Prop} {bs : List BindingConfig} {i : Nat}

theorem first_iff_forall_take :
    First p bs i b ↔ bs[i]? = some b ∧ p b ∧ ∀ c ∈ bs.take i, ¬ p c := by
  constructor
  · rintro ⟨hb, hp, hleast⟩
    refine ⟨hb, hp, fun c hc hpc => ?_⟩
    obtain ⟨j, hj, rfl⟩ := List.mem_take_iff_getElem.1 hc
    have := hleast j _ (List.getElem?_eq_getElem _) hpc
    omega
  · rintro ⟨hb, hp, hbefore⟩
    refine ⟨hb, hp, fun j c hc hpc => ?_⟩
    by_contra hlt
    refine hbefore c (List.mem_take_iff_getElem.2 ?_) hpc
    obtain ⟨hj, rfl⟩ := List.getElem?_eq_some_iff.1 hc
    exact ⟨j, by omega, rfl⟩

theorem First.unique {j : Nat} {c : BindingConfig} (h : First p bs i b) (h' : First p bs j c) :
    i = j ∧ b = c := by
  obtain rfl : i = j :=
    Nat.le_antisymm (h.least j c h'.binding h'.holds) (h'.least i b h.binding h.holds)
  exact ⟨rfl, Option.some.inj (h.binding.symm.trans h'.binding)⟩

theorem First.congr {q : BindingConfig → Prop} (hpq : ∀ c ∈ bs, p c ↔ q c) (h : First p bs i b) :
    First q bs i b where
  binding := h.binding
  holds := (hpq b (List.mem_of_getElem? h.binding)).1 h.holds
  least j c hc hqc := h.least j c hc ((hpq c (List.mem_of_getElem? hc)).2 hqc)

/-- There is a first binding with a property as soon as there is one with it. -/
theorem exists_first_iff : (∃ i b, First p bs i b) ↔ ∃ b ∈ bs, p b := by
  constructor
  · rintro ⟨i, b, hb⟩
    exact ⟨b, List.mem_of_getElem? hb.binding, hb.holds⟩
  · rintro ⟨b, hb, hp⟩
    classical
    have hex : ∃ i : Nat, ∃ b, bs[i]? = some b ∧ p b := by
      obtain ⟨i, hi⟩ := List.mem_iff_getElem?.1 hb
      exact ⟨i, b, hi, hp⟩
    obtain ⟨b, hb, hp⟩ := Nat.find_spec hex
    exact ⟨_, b, hb, hp, fun j c hc hpc => Nat.find_min' hex ⟨c, hc, hpc⟩⟩

end BindingConfig

/-! ### Strict wiring -/

namespace BindingConfig

/-- The binding is refused, for whatever reason. -/
def Refused (catalog : Catalog β) (standard : Int) (b : BindingConfig) : Prop :=
  ∃ cause, b.fate catalog standard = .refused cause

/-- Behind its check only the catalog can refuse a binding. -/
theorem refused_iff_unserved {catalog : Catalog β} {standard : Int} {b : BindingConfig}
    {s : Selector} (hcheck : b.check = .ok s) :
    Refused catalog standard b ↔ Unserved catalog b := by
  rw [unserved_iff]
  constructor
  · rintro ⟨cause, hfate⟩
    obtain ⟨henabled, fault, hfault, -⟩ := (fate_eq_refused_iff hcheck).1 hfate
    exact ⟨henabled, fault, hfault⟩
  · rintro ⟨henabled, fault, hfault⟩
    exact ⟨_, (fate_eq_refused_iff hcheck).2 ⟨henabled, fault, hfault, rfl⟩⟩

theorem refusals_eq_nil_iff {catalog : Catalog β} {standard : Int} {bs : List BindingConfig} :
    refusals catalog standard 0 bs = [] ↔ ∀ b ∈ bs, ¬ Refused catalog standard b := by
  rw [List.eq_nil_iff_forall_not_mem]
  constructor
  · rintro h b hb ⟨cause, hfate⟩
    obtain ⟨i, hi⟩ := List.mem_iff_getElem?.1 hb
    exact h ⟨i, b.selector, b.handler, cause⟩ (mem_refusals_iff.2 ⟨b, hi, hfate, rfl, rfl⟩)
  · intro h s hs
    obtain ⟨b, hb, hfate, -, -⟩ := mem_refusals_iff.1 hs
    exact h b (List.mem_of_getElem? hb) ⟨_, hfate⟩

end BindingConfig

open BindingConfig

/-- Strict wiring fails with the first binding that is refused, and with no other one. -/
theorem World.wire_strict_eq_error_iff (w : World β σ) (id : Nat) (bs : List BindingConfig)
    (catalog : Catalog β) {e : HostError} :
    (w.wire id bs catalog true).1 = .error e ↔
      ∃ i b cause, First (Refused catalog (w.dispatcher id).defaultPriority) bs i b ∧
        b.fate catalog (w.dispatcher id).defaultPriority = .refused cause ∧
        e = .wiring i b.selector b.handler cause := by
  cases hrefusals : refusals catalog (w.dispatcher id).defaultPriority 0 bs with
  | nil =>
    rw [(w.wire_through id bs catalog true fun _ => hrefusals).1]
    constructor
    · rintro ⟨⟩
    · rintro ⟨i, b, cause, hb, -⟩
      exact absurd hb.holds (refusals_eq_nil_iff.1 hrefusals b (List.mem_of_getElem? hb.binding))
  | cons first others =>
    obtain ⟨front, b, back, rfl, hlength, hfront, hfate, hselector, hhandler, herror, -⟩ :=
      w.wire_stopped id bs catalog hrefusals
    have hfirst : First (Refused catalog (w.dispatcher id).defaultPriority) (front ++ b :: back)
        first.index b := by
      refine first_iff_forall_take.2 ⟨?_, ⟨_, hfate⟩, ?_⟩
      · rw [← hlength]
        simp
      · rw [← hlength, List.take_left]
        exact refusals_eq_nil_iff.1 hfront
    rw [herror, hselector, hhandler]
    constructor
    · rintro ⟨⟩
      exact ⟨_, b, _, hfirst, hfate, rfl⟩
    · rintro ⟨i, c, cause, hc, hcause, rfl⟩
      obtain ⟨rfl, rfl⟩ := hfirst.unique hc
      cases hfate.symm.trans hcause
      rfl

namespace Config

variable {c : Config}

/-- A configuration is refused for the first of its bindings that has a flaw. -/
theorem refusedFor_iff {i : Nat} {b : BindingConfig} {cause : EngineError} :
    c.RefusedFor i b cause ↔
      c.logging.check = .ok () ∧ c.dispatch.strict = true ∧ First Flawed c.bindings i b ∧
        b.Flaw cause := by
  constructor
  · rintro ⟨hlogging, hstrict, hb, hfirst, hcause⟩
    have hflaw := check_eq_error_iff.1 hcause
    refine ⟨hlogging, hstrict, first_iff_forall_take.2 ⟨hb, exists_flaw_iff.1 ⟨_, hflaw⟩, ?_⟩, hflaw⟩
    exact fun c hc => not_flawed_iff.2 (hfirst c hc)
  · rintro ⟨hlogging, hstrict, hb, hflaw⟩
    obtain ⟨hb, -, hfirst⟩ := first_iff_forall_take.1 hb
    exact ⟨hlogging, hstrict, hb, fun c hc => not_flawed_iff.1 (hfirst c hc),
      check_eq_error_iff.2 hflaw⟩

/-- Strict wiring and a log that nothing stands against leave only the bindings to be blamed. -/
theorem check_strict_eq_error_iff (hstrict : c.dispatch.strict = true)
    (hlogging : c.logging.check = .ok ()) {e : ConfigError} :
    c.check = .error e ↔
      ∃ i b cause, First Flawed c.bindings i b ∧ b.Flaw cause ∧ e = .binding i cause := by
  constructor
  · intro h
    have hbindings : checkBindings 0 c.bindings = .error e := by
      rw [check, hlogging] at h
      simpa only [hstrict, if_true] using h
    obtain ⟨i, b, cause, -, -, -, rfl⟩ := checkBindings_eq_error_iff.1 hbindings
    obtain ⟨b, hrefused⟩ := check_eq_binding_iff.1 h
    obtain ⟨-, -, hfirst, hflaw⟩ := refusedFor_iff.1 hrefused
    exact ⟨_, b, cause, hfirst, hflaw, rfl⟩
  · rintro ⟨i, b, cause, hfirst, hflaw, rfl⟩
    exact check_eq_binding_iff.2 ⟨b, refusedFor_iff.2 ⟨hlogging, hstrict, hfirst, hflaw⟩⟩

/-- As soon as a binding has a flaw, one is blamed. -/
theorem exists_check_strict_eq_error_iff (hstrict : c.dispatch.strict = true)
    (hlogging : c.logging.check = .ok ()) :
    (∃ e, c.check = .error e) ↔ ∃ b ∈ c.bindings, b.Flawed := by
  rw [← exists_first_iff]
  constructor
  · rintro ⟨e, he⟩
    obtain ⟨i, b, -, hfirst, -⟩ := (check_strict_eq_error_iff hstrict hlogging).1 he
    exact ⟨i, b, hfirst⟩
  · rintro ⟨i, b, hfirst⟩
    obtain ⟨cause, hflaw⟩ := exists_flaw_iff.2 hfirst.holds
    exact ⟨_, (check_strict_eq_error_iff hstrict hlogging).2 ⟨i, b, cause, hfirst, hflaw, rfl⟩⟩

theorem logging_check_of_check (h : c.check = .ok ()) : c.logging.check = .ok () := by
  cases hlogging : c.logging.check with
  | error e =>
    rw [check, hlogging] at h
    cases h
  | ok u => rfl

/-- Behind the check of a configuration with strict wiring every binding has passed its own. -/
theorem exists_check_of_mem (hstrict : c.dispatch.strict = true) (h : c.check = .ok ())
    {b : BindingConfig} (hb : b ∈ c.bindings) : ∃ s, b.check = .ok s := by
  refine not_flawed_iff.1 fun hflawed => ?_
  obtain ⟨e, he⟩ :=
    (exists_check_strict_eq_error_iff hstrict (logging_check_of_check h)).2 ⟨b, hb, hflawed⟩
  cases h.symm.trans he

end Config

/-- What the check of a configuration promises to wiring. If a configuration with strict wiring has
passed, its bindings fail to be wired only with the first enabled one whose handler is not in the
catalog or cannot be invoked, and for that reason. If nothing stands against the log, which is looked
at first, a configuration with strict wiring passes unless a binding has a flaw, and the first one
that has is blamed. Without strict wiring the bindings do not matter. -/
theorem strict_check_wiring (c : Config) (catalog : Catalog β) (w : World β σ) (id : Nat) :
    let wired := (w.wire id c.bindings catalog c.dispatch.strict).1
    (c.dispatch.strict = true → c.check = .ok () →
      (∀ e, wired = .error e ↔ ∃ i b fault, First (Unserved catalog) c.bindings i b ∧
        b.Fault catalog fault ∧ e = .wiring i b.selector b.handler (.invalidCallback fault)) ∧
      ((∃ e, wired = .error e) ↔ ∃ b ∈ c.bindings, b.Unserved catalog)) ∧
    (c.dispatch.strict = true → c.logging.check = .ok () →
      (∀ e, c.check = .error e ↔ ∃ i b cause, First Flawed c.bindings i b ∧ b.Flaw cause ∧
        e = .binding i cause) ∧
      ((∃ e, c.check = .error e) ↔ ∃ b ∈ c.bindings, b.Flawed)) ∧
    (∀ e, c.logging.check = .error e → c.check = .error e) ∧
    (c.dispatch.strict = false → c.check = c.logging.check) := by
  intro wired
  refine ⟨fun hstrict hcheck => ?_, fun hstrict hlogging => ?_, fun e he => ?_, fun hstrict => ?_⟩
  · have hpass := fun b => Config.exists_check_of_mem hstrict hcheck (b := b)
    have hiff : ∀ b ∈ c.bindings,
        Refused catalog (w.dispatcher id).defaultPriority b ↔ Unserved catalog b :=
      fun b hb => refused_iff_unserved (hpass b hb).choose_spec
    have hwired : ∀ e, wired = .error e ↔ ∃ i b fault, First (Unserved catalog) c.bindings i b ∧
        b.Fault catalog fault ∧ e = .wiring i b.selector b.handler (.invalidCallback fault) := by
      intro e
      show (w.wire id c.bindings catalog c.dispatch.strict).1 = .error e ↔ _
      rw [hstrict, w.wire_strict_eq_error_iff]
      constructor
      · rintro ⟨i, b, cause, hfirst, hfate, rfl⟩
        obtain ⟨s, hs⟩ := hpass b (List.mem_of_getElem? hfirst.binding)
        obtain ⟨-, fault, hfault, rfl⟩ := (fate_eq_refused_iff hs).1 hfate
        exact ⟨i, b, fault, hfirst.congr hiff, hfault, rfl⟩
      · rintro ⟨i, b, fault, hfirst, hfault, rfl⟩
        obtain ⟨s, hs⟩ := hpass b (List.mem_of_getElem? hfirst.binding)
        exact ⟨i, b, _, hfirst.congr fun c hc => (hiff c hc).symm,
          (fate_eq_refused_iff hs).2 ⟨hfirst.holds.1, fault, hfault, rfl⟩, rfl⟩
    refine ⟨hwired, ?_⟩
    rw [← exists_first_iff]
    constructor
    · rintro ⟨e, he⟩
      obtain ⟨i, b, -, hfirst, -⟩ := (hwired e).1 he
      exact ⟨i, b, hfirst⟩
    · rintro ⟨i, b, hfirst⟩
      obtain ⟨-, fault, hfault⟩ := unserved_iff.1 hfirst.holds
      exact ⟨_, (hwired _).2 ⟨i, b, fault, hfirst, hfault, rfl⟩⟩
  · exact ⟨fun e => Config.check_strict_eq_error_iff hstrict hlogging,
      Config.exists_check_strict_eq_error_iff hstrict hlogging⟩
  · rw [Config.check, he]
  · rw [Config.check, hstrict]
    cases c.logging.check <;> rfl

/-- Three bindings under strict wiring, with a selector of choice for the one that is disabled. -/
def deskConfig (selector : String) : Config :=
  { dispatch := ⟨5, true⟩
    logging := default
    bindings :=
      [⟨"offer.accept", "accept", none, true⟩, ⟨selector, "audit", none, false⟩,
        ⟨"offer.decline", "decline", none, true⟩] }

theorem strict_check_wiring_desk :
    let w : World Unit Unit := ⟨Pool.empty, (), Log.empty⟩
    let catalog : Catalog Unit :=
      [("accept", .ofBody "accept" ()), ("decline", ⟨"decline", false, ()⟩)]
    (w.wire 0 (deskConfig "offer.cancel").bindings catalog true).1 =
        .error (.wiring 2 "offer.decline" "decline"
          (.invalidCallback (.notInvocable "decline" "offer.decline"))) ∧
      (deskConfig "").check = .error (.binding 1 .undefinedSelector) := by
  intro w catalog
  constructor
  · obtain ⟨hwired, -⟩ := (strict_check_wiring (deskConfig "offer.cancel") catalog w 0).1 rfl rfl
    refine (hwired _).2 ⟨2, _, _, first_iff_forall_take.2 ⟨rfl, ⟨rfl, Or.inr ⟨_, rfl, rfl⟩⟩, ?_⟩,
      .notInvocable rfl rfl, rfl⟩
    intro c hc
    rcases List.mem_pair.1 hc with rfl | rfl
    · rintro ⟨-, h | ⟨handler, h, hinvocable⟩⟩
      · cases h
      · cases h
        cases hinvocable
    · rintro ⟨henabled, -⟩
      cases henabled
  · obtain ⟨hchecked, -⟩ := (strict_check_wiring (deskConfig "") catalog w 0).2.1 rfl rfl
    refine (hchecked _).2 ⟨1, _, _, first_iff_forall_take.2 ⟨rfl, Or.inl rfl, ?_⟩, .noSelector rfl, rfl⟩
    intro c hc
    rw [List.mem_singleton.1 hc]
    exact not_flawed_iff.2 ⟨_, rfl⟩

/-- Strict wiring with a log file that has no name and a binding that has no selector. -/
def namelessConfig : Config :=
  { dispatch := ⟨5, true⟩
    logging := { (default : LoggingConfig) with output := .file }
    bindings := [⟨"", "audit", none, true⟩] }

/-- The check does not blame a binding before the log is in order. -/
theorem strict_check_not_binding :
    namelessConfig.dispatch.strict = true ∧
      (∃ b, First Flawed namelessConfig.bindings 0 b) ∧
      namelessConfig.check = .error (.missingField "logging.file_path") :=
  ⟨rfl, ⟨_, rfl, Or.inl rfl, fun j _ _ _ => Nat.zero_le j⟩, rfl⟩

end Switchboard
