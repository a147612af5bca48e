import Mathlib.Data.List.Infix
import Mathlib.Logic.Relation
import Switchboard.Error

/-!
# Error reports keep the root cause

An error may stand around another one, that one around a third, and so on in to an innermost error.
What an error says about its causes is read off its layers: each layer adds some words in front of
the text of the error inside it, and names that text as a cause or passes its causes on.

* `Report`, `Report.inner?`, `Report.Innermost`: errors of all kinds, and the errors inside them;
* `Report.layers`: induction on the layers of an error;
* `Report.message_of_inner`, `Report.causes_of_inner`: what one layer does to text and causes;
* `Report.ends_causes`, `Report.getLast?_causes`: what all layers of an error come to;
* `EngineError.nested`: dispatches that fail inside each other;
* `reports_keep_root`: the texts of all errors and of their causes.
-/

namespace Switchboard

/-- An error of one of the four kinds, or a mismatch that an error has been made from. -/
inductive Report where
  | mismatch (m : Mismatch)
  | handler (e : HandlerError)
  | engine (e : EngineError)
  | config (e : ConfigError)
  | host (e : HostError)

/-- The text ends with another one. -/
def EndsWith (text ending : String) : Prop := ∃ front, text = front ++ ending

namespace EndsWith

theorem refl (text : String) : EndsWith text text := ⟨"", String.empty_append.symm⟩

theorem trans {text middle ending : String} (h : EndsWith text middle)
    (h' : EndsWith middle ending) : EndsWith text ending := by
  obtain ⟨front, rfl⟩ := h
  obtain ⟨front', rfl⟩ := h'
  exact ⟨front ++ front', (String.append_assoc ..).symm⟩

theorem length_le {text ending : String} (h : EndsWith text ending) :
    ending.length ≤ text.length := by
  obtain ⟨front, rfl⟩ := h
  rw [String.length_append]
  exact Nat.le_add_left _ _

theorem utf8ByteSize_le {text ending : String} (h : EndsWith text ending) :
    ending.utf8ByteSize ≤ text.utf8ByteSize := by
  obtain ⟨front, rfl⟩ := h
  rw [String.utf8ByteSize_append]
  exact Nat.le_add_left _ _

end EndsWith

namespace Report

/-- The text of an error. -/
def message : Report → String
  | mismatch m => m.message
  | handler e => e.message
  | engine e => e.message
  | config e => e.message
  | host e => e.message

/-- The texts of what stands behind an error, the nearest first. -/
def causes : Report → List String
  | mismatch _ => []
  | handler e => e.causes
  | engine e => e.causes
  | config e => e.causes
  | host e => e.causes

/-- The error that an error has been made from. -/
def inner? : Report → Option Report
  | mismatch _ => none
  | handler (.text _) => none
  | handler (.conversion m) => some (mismatch m)
  | handler (.handler e) => some (handler e)
  | handler (.engine e) => some (engine e)
  | handler (.config e) => some (config e)
  | handler (.host e) => some (host e)
  | engine (.handlerFailed _ _ _ e) => some (handler e)
  | engine _ => none
  | config (.binding _ e) => some (engine e)
  | config _ => none
  | host (.config e) => some (config e)
  | host (.wiring _ _ _ e) => some (engine e)
  | host (.engine e) => some (engine e)

/-- An error inside another one, with nothing further inside. -/
def Innermost (r root : Report) : Prop :=
  Relation.ReflTransGen (fun r s => r.inner? = some s) r root ∧ root.inner? = none

theorem sizeOf_inner {r s : Report} (h : r.inner? = some s) : sizeOf s < sizeOf r := by
  unfold inner? at h
  split at h
  all_goals cases h
  all_goals simp +arith

/-- An error is made in finitely many layers, so that what carries over from the error inside to the
one around it holds of all errors. -/
@[elab_as_elim]
theorem layers {P : Report → Prop} (r : Report)
    (h : ∀ r, (∀ s, r.inner? = some s → P s) → P r) : P r := by
  induction hsize : sizeOf r using Nat.strongRecOn generalizing r with
  | ind n ih => exact h r fun s hs => ih _ (hsize ▸ sizeOf_inner hs) s rfl

/-! ### One layer -/

/-- An error ends with the text of the error inside. -/
theorem message_of_inner {r s : Report} (h : r.inner? = some s) : EndsWith r.message s.message := by
  unfold inner? at h
  split at h
  all_goals cases h
  -- only a dispatch, a binding and a wiring add words of their own
  all_goals first | exact .refl _ | exact ⟨_, rfl⟩

/-- An error with nothing inside has no causes. -/
theorem causes_of_inner_eq_none {r : Report} (h : r.inner? = none) : r.causes = [] := by
  cases r with
  | mismatch m => rfl
  | handler e =>
    cases e with
    | text => rfl
    | conversion | handler | engine | config | host => cases h
  | engine e =>
    cases e with
    | handlerFailed => cases h
    | invalidSelector | invalidEventName | invalidCallback | undefinedSelector
    | unsupportedOperator | notAPattern => rfl
  | config e =>
    cases e with
    | binding => cases h
    | fileNotFound | unreadable | invalid | missingField => rfl
  | host e =>
    cases e with
    | config | wiring | engine => cases h

/-- An error names the text of the error inside as its nearest cause, unless it passes on text and
causes as they are. -/
theorem causes_of_inner {r s : Report} (h : r.inner? = some s) :
    r.causes = s.message :: s.causes ∨ (r.message = s.message ∧ r.causes = s.causes) := by
  unfold inner? at h
  split at h
  all_goals cases h
  all_goals first | exact Or.inl rfl | exact Or.inr ⟨rfl, rfl⟩

/-! ### All layers -/

theorem exists_innermost (r : Report) : ∃ root, r.Innermost root := by
  induction r using layers with
  | h r ih =>
    cases hr : r.inner? with
    | none => exact ⟨r, .refl, hr⟩
    | some s =>
      obtain ⟨root, hroot, hnone⟩ := ih s hr
      exact ⟨root, .head hr hroot, hnone⟩

theorem Innermost.of_inner {r s root : Report} (h : r.Innermost root) (hs : r.inner? = some s) :
    s.Innermost root := by
  obtain ⟨hroot, hnone⟩ := h
  rcases hroot.cases_head with rfl | ⟨s', hs', hroot⟩
  · cases hnone.symm.trans hs
  · cases hs.symm.trans hs'
    exact ⟨hroot, hnone⟩

theorem Innermost.unique {r root root' : Report} (h : r.Innermost root) (h' : r.Innermost root') :
    root = root' := by
  induction r using layers with
  | h r ih =>
    rcases h.1.cases_head with rfl | ⟨s, hs, -⟩
    · rcases h'.1.cases_head with rfl | ⟨s, hs, -⟩
      · rfl
      · cases h.2.symm.trans hs
    · exact ih s hs (h.of_inner hs) (h'.of_inner hs)

/-- Of the text of an error and those of its causes, each ends with all that come behind it. -/
theorem ends_causes (r : Report) : (r.message :: r.causes).Pairwise EndsWith := by
  induction r using layers with
  | h r ih =>
    cases hr : r.inner? with
    | none =>
      rw [causes_of_inner_eq_none hr]
      exact List.pairwise_singleton _ _
    | some s =>
      rcases causes_of_inner hr with hcauses | ⟨hmessage, hcauses⟩
      · rw [hcauses]
        refine List.pairwise_cons.2 ⟨fun t ht => ?_, ih s hr⟩
        have hends := message_of_inner hr
        rcases List.mem_cons.1 ht with rfl | ht
        · exact hends
        · exact hends.trans ((List.pairwise_cons.1 (ih s hr)).1 t ht)
      · rw [hmessage, hcauses]
        exact ih s hr

/-- The last cause is the innermost error. An error without causes has its text. -/
theorem getLast?_causes {r root : Report} (h : r.Innermost root) :
    (r.message :: r.causes).getLast? = some root.message := by
  induction r using layers with
  | h r ih =>
    cases hr : r.inner? with
    | none =>
      rcases h.1.cases_head with rfl | ⟨s, hs, -⟩
      · rw [causes_of_inner_eq_none hr]
        rfl
      · cases hr.symm.trans hs
    | some s =>
      have hs := ih s hr (h.of_inner hr)
      rcases causes_of_inner hr with hcauses | ⟨hmessage, hcauses⟩
      · rw [hcauses, List.getLast?_cons_cons]
        exact hs
      · rw [hmessage, hcauses]
        exact hs

end Report

/-! ### Dispatches inside each other -/

/-- Where a dispatch has failed: its event, the position of the handler, and the responses up to
there. -/
structure Abort where
  event : String
  position : Nat
  collected : Responses

namespace Abort

/-- The error of the dispatch, given that of the handler. -/
def error (a : Abort) (cause : HandlerError) : EngineError :=
  .handlerFailed a.event a.position a.collected cause

/-- The text of the error, given that of the handler. -/
def text (a : Abort) (cause : String) : String :=
  "handler #" ++ toString a.position ++ " for event '" ++ a.event ++ "' failed: " ++ cause

end Abort

/-- The error of the outermost of several dispatches, which have been triggered inside each other.
The handler of the innermost has failed with a reason in words, and each of the others has failed
because its handler has reported the error of the dispatch inside. The outermost comes first. -/
def EngineError.nested (reason : String) : Abort → List Abort → EngineError
  | a, [] => a.error (.text reason)
  | a, b :: inside => a.error (.engine (nested reason b inside))

/-- The text of the error of dispatches inside each other; without any, it is the reason. -/
def nestedText (reason : String) (aborts : List Abort) : String := aborts.foldr Abort.text reason

theorem EngineError.message_nested (reason : String) (a : Abort) (inside : List Abort) :
    (nested reason a inside).message = nestedText reason (a :: inside) := by
  induction inside generalizing a with
  | nil => rfl
  | cons b inside ih => exact congrArg a.text (ih b)

/-- The handler's error names the dispatch inside once more. -/
theorem EngineError.causes_nested_cons (reason : String) (a b : Abort) (inside : List Abort) :
    (nested reason a (b :: inside)).causes =
      nestedText reason (b :: inside) :: nestedText reason (b :: inside) ::
        (nested reason b inside).causes := by
  rw [← message_nested]
  rfl

/-- The causes are the texts of all dispatches inside, each of them twice, and the reason. -/
theorem EngineError.causes_nested (reason : String) (a : Abort) (inside : List Abort) :
    (nested reason a inside).causes =
      (inside.tails.dropLast.flatMap fun aborts =>
        [nestedText reason aborts, nestedText reason aborts]) ++ [reason] := by
  induction inside generalizing a with
  | nil => rfl
  | cons b inside ih =>
    have hne : inside.tails ≠ [] := List.ne_nil_of_mem ((List.mem_tails _ _).2 List.nil_suffix)
    rw [causes_nested_cons, ih b, List.tails_cons, List.dropLast_cons_of_ne_nil hne]
    rfl

theorem EngineError.length_causes_nested (reason : String) (a : Abort) (inside : List Abort) :
    (nested reason a inside).causes.length = 2 * (a :: inside).length - 1 := by
  induction inside generalizing a with
  | nil => rfl
  | cons b inside ih =>
    rw [causes_nested_cons, List.length_cons, List.length_cons, ih b]
    simp only [List.length_cons]
    omega

/-- The text of every error ends with the texts of its causes. These do not get longer from one to
the next, in characters or in bytes, and the last of them, if there is one, is the text of the
innermost error. If dispatches fail inside each other, the innermost for a reason in words and the
others because their handlers have reported the failure inside, then the causes of the outermost are
the texts of the dispatches inside, each twice, and at last the reason; and a host that reports it
changes neither the text nor the causes. -/
theorem reports_keep_root :
    (∀ r : Report,
      (∀ t ∈ r.causes, EndsWith r.message t) ∧
      r.causes.Pairwise (fun t u => u.length ≤ t.length ∧ u.utf8ByteSize ≤ t.utf8ByteSize) ∧
      ∃ root, (∀ other, r.Innermost other ↔ other = root) ∧
        (r.causes ≠ [] → r.causes.getLast? = some root.message)) ∧
    ∀ reason a inside,
      let e := EngineError.nested reason a inside
      e.message = nestedText reason (a :: inside) ∧
        e.causes = (inside.tails.dropLast.flatMap fun aborts =>
          [nestedText reason aborts, nestedText reason aborts]) ++ [reason] ∧
        e.causes.length = 2 * (a :: inside).length - 1 ∧
        (HostError.engine e).message = e.message ∧ (HostError.engine e).causes = e.causes := by
  refine ⟨fun r => ?_, fun reason a inside => ?_⟩
  · obtain ⟨hmessage, hcauses⟩ := List.pairwise_cons.1 r.ends_causes
    obtain ⟨root, hroot⟩ := r.exists_innermost
    refine ⟨hmessage, hcauses.imp fun h => ⟨h.length_le, h.utf8ByteSize_le⟩, root,
      fun other => ⟨fun h => h.unique hroot, fun h => h ▸ hroot⟩, fun hne => ?_⟩
    have hlast := Report.getLast?_causes hroot
    rwa [List.getLast?_cons_of_ne_nil hne] at hlast
  · exact ⟨EngineError.message_nested reason a inside, EngineError.causes_nested reason a inside,
      EngineError.length_causes_nested reason a inside, rfl, rfl⟩

end Switchboard
