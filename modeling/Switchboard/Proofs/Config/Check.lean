import Switchboard.Config.Validation

/-!
# When a configuration is refused for a binding

Bindings are looked at only under strict wiring, and only if nothing stands against the log. The
first binding that does not pass its check is reported, enabled or not.

* `checkBindings_eq_error_iff`: which of the bindings is reported;
* `Config.check_eq_binding_iff`: when a configuration is refused for a binding, and for which.
-/

namespace Switchboard

/-- Bindings that all pass their checks. -/
def BindingConfig.Pass (bs : List BindingConfig) : Prop := ∀ b ∈ bs, ∃ s, b.check = .ok s

theorem BindingConfig.pass_cons {b : BindingConfig} {bs : List BindingConfig} :
    Pass (b :: bs) ↔ (∃ s, b.check = .ok s) ∧ Pass bs := List.forall_mem_cons

theorem checkBindings_eq_error_iff {index : Nat} {bs : List BindingConfig} {e : ConfigError} :
    checkBindings index bs = .error e ↔
      ∃ i b cause, bs[i]? = some b ∧ BindingConfig.Pass (bs.take i) ∧ b.check = .error cause ∧
        e = .binding (index + i) cause := by
  induction bs generalizing index with
  | nil => simp [checkBindings]
  | cons b bs ih =>
    rw [checkBindings]
    cases hb : b.check with
    | error cause =>
      constructor
      · rintro ⟨⟩
        exact ⟨0, b, cause, rfl, by simp [BindingConfig.Pass], hb, rfl⟩
      · rintro ⟨i, c, cause', hc, hpass, hcheck, rfl⟩
        cases i with
        | zero =>
          cases hc
          cases hb.symm.trans hcheck
          rfl
        | succ i =>
          obtain ⟨⟨s, hs⟩, -⟩ := BindingConfig.pass_cons.1 hpass
          cases hb.symm.trans hs
    | ok s =>
      refine ih.trans ?_
      constructor
      · rintro ⟨i, c, cause, hc, hpass, hcheck, rfl⟩
        refine ⟨i + 1, c, cause, hc, BindingConfig.pass_cons.2 ⟨⟨s, hb⟩, hpass⟩, hcheck, ?_⟩
        rw [Nat.add_right_comm, Nat.add_assoc]
      · rintro ⟨i, c, cause, hc, hpass, hcheck, rfl⟩
        cases i with
        | zero =>
          cases hc
          cases hb.symm.trans hcheck
        | succ i =>
          refine ⟨i, c, cause, hc, (BindingConfig.pass_cons.1 hpass).2, hcheck, ?_⟩
          rw [Nat.add_right_comm, Nat.add_assoc]

/-- What stands against the log is never a binding. -/
theorem LoggingConfig.check_ne_binding (c : LoggingConfig) (i : Nat) (cause : EngineError) :
    c.check ≠ .error (.binding i cause) := by
  unfold check
  split
  · simp
  · split <;> simp

namespace Config

/-- The configuration is refused for a binding: it is the first one that does not pass its check. -/
structure RefusedFor (c : Config) (i : Nat) (b : BindingConfig) (cause : EngineError) : Prop where
  logging : c.logging.check = .ok ()
  strict : c.dispatch.strict = true
  binding : c.bindings[i]? = some b
  first : BindingConfig.Pass (c.bindings.take i)
  cause : b.check = .error cause

theorem check_eq_binding_iff {c : Config} {i : Nat} {cause : EngineError} :
    c.check = .error (.binding i cause) ↔ ∃ b, c.RefusedFor i b cause := by
  unfold check
  cases hlogging : c.logging.check with
  | error e =>
    constructor
    · rintro ⟨⟩
      exact absurd hlogging (c.logging.check_ne_binding i cause)
    · rintro ⟨b, hb⟩
      cases hlogging.symm.trans hb.logging
  | ok u =>
    by_cases hstrict : c.dispatch.strict = true
    · simp only [hstrict, if_true, checkBindings_eq_error_iff]
      constructor
      · rintro ⟨i', b, cause', hb, hpass, hcheck, heq⟩
        cases heq
        rw [Nat.zero_add]
        exact ⟨b, hlogging, hstrict, hb, hpass, hcheck⟩
      · rintro ⟨b, hb⟩
        refine ⟨i, b, cause, hb.binding, hb.first, hb.cause, ?_⟩
        rw [Nat.zero_add]
    · simp only [if_neg hstrict]
      constructor
      · rintro ⟨⟩
      · rintro ⟨b, hb⟩
        exact absurd hb.strict hstrict

end Config

end Switchboard
