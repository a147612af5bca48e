import Switchboard.Proofs.Dispatch.Course
import Switchboard.Proofs.Dispatch.Series

/-!
# Texts that are no event names

Only events can be asked for, not patterns, and the name of an event is looked at before anything
else is done. Several events are dispatched together only if all their names are event names.

* `Selector.isEventName_iff_chars`: what event names are made of;
* `dispatch_eq_invalid_iff`, `dispatchMany_eq_invalid_iff`: when a dispatch is refused for a name;
* `dispatch_of_invalid`, `dispatchMany_of_invalid`: a dispatch that is refused changes nothing;
* `event_names_refused`: this for every way to ask for events, with all calls written down.
-/

namespace Switchboard

variable {β τ σ : Type}

namespace Selector

/-- An event name is a name and nothing else. -/
theorem isEventName_iff_chars {t : String} :
    isEventName t = true ↔ t ≠ "" ∧ ∀ c ∈ t.toList, IsNameChar c := by
  rw [isEventName_iff]
  constructor
  · rintro ⟨s, hs⟩
    rw [← name_of_eventName hs]
    exact isName_iff.1 s.isName_name
  · intro h
    have hspelled : Spelled t .exact t := ⟨String.empty_append.symm, h.1, h.2⟩
    exact ⟨_, eventName_eq_ok_iff.2 ⟨hspelled.parse_eq, rfl⟩⟩

theorem eventName_of_invalid {t : String} (h : isEventName t = false) :
    eventName t = .error (.invalidEventName t) := by
  cases hname : eventName t with
  | ok s =>
    rw [isEventName_iff.2 ⟨s, hname⟩] at h
    cases h
  | error e => rw [eq_of_eventName_eq_error hname]

/-- Names are read up to the first text that is none. -/
theorem mapM_eventName_of_invalid {events : List String} {t : String}
    (h : events.find? (fun event => !isEventName event) = some t) :
    events.mapM eventName = .error (.invalidEventName t) := by
  induction events with
  | nil => cases h
  | cons event rest ih =>
    rw [List.mapM_cons]
    cases hevent : isEventName event with
    | false =>
      rw [List.find?_cons, hevent] at h
      cases h
      rw [eventName_of_invalid hevent]
      rfl
    | true =>
      obtain ⟨s, hs⟩ := isEventName_iff.1 hevent
      rw [List.find?_cons, hevent] at h
      rw [hs, ih h]
      rfl

end Selector

/-! ### One event -/

/-- A dispatch for a text that is no event name ends with that text, in the world in which it began.
-/
theorem dispatch_of_invalid (invoke : Invoke β τ σ) {q : Request τ σ}
    (h : Selector.isEventName q.event = false) (w : World β σ) :
    dispatch invoke q w = (.error (.invalidEventName q.event), w) := by
  rw [dispatch, Selector.eventName_of_invalid h]

/-- No dispatch is refused for another text than its own, and none for an event name. -/
theorem dispatch_eq_invalid_iff {invoke : Invoke β τ σ} {q : Request τ σ} {w : World β σ}
    {t : String} :
    (dispatch invoke q w).1 = .error (.invalidEventName t) ↔
      Selector.isEventName q.event = false ∧ t = q.event := by
  constructor
  · intro h
    cases hevent : Selector.isEventName q.event with
    | false =>
      rw [dispatch_of_invalid invoke hevent] at h
      cases h
      exact ⟨rfl, rfl⟩
    | true =>
      obtain ⟨position, own, cause, he⟩ := dispatch_error hevent h
      cases he
  · rintro ⟨hevent, rfl⟩
    rw [dispatch_of_invalid invoke hevent]

/-- A trigger without a predicate is refused for the same texts. -/
theorem triggerEvent_eq_invalid_iff {invoke : Invoke β τ σ} {d : Nat} {event : String} {target : τ}
    {arguments : Table Value} {w : World β σ} {t : String} :
    (triggerEvent invoke d event target arguments w).1 = .error (.invalidEventName t) ↔
      Selector.isEventName event = false ∧ t = event := dispatch_eq_invalid_iff

/-- A service that refuses a request leaves the world as it was. -/
theorem serve_of_invalid (invoke : Invoke β τ σ) {q : Request τ σ}
    (h : Selector.isEventName q.event = false) (w : World β σ) :
    serve invoke q w = (.error (.invalidEventName q.event), w) := by
  rw [serve, triggerEvent]
  exact dispatch_of_invalid invoke (q := { q with accept := Request.never }) h w

/-- The entries for a text are refused as its dispatch is. -/
theorem Dispatcher.resolve_eq_invalid_iff {d : Dispatcher β} {event t : String} :
    d.resolve event = .error (.invalidEventName t) ↔
      Selector.isEventName event = false ∧ t = event := by
  unfold resolve
  cases hevent : Selector.isEventName event with
  | false =>
    rw [Selector.eventName_of_invalid hevent]
    simp [eq_comm]
  | true =>
    obtain ⟨s, hs⟩ := Selector.isEventName_iff.1 hevent
    simp [hs]

/-! ### Several events -/

/-- A dispatch of several events ends with the first text that is no event name, in the world in
which it began. -/
theorem dispatchMany_of_invalid (invoke : Invoke β τ σ) (q : Request τ σ) {events : List String}
    {t : String} (h : events.find? (fun event => !Selector.isEventName event) = some t)
    (w : World β σ) : dispatchMany invoke q events w = (.error (.invalidEventName t), w) := by
  rw [dispatchMany, Selector.mapM_eventName_of_invalid h]

/-- A dispatch of several event names fails only by a handler. -/
theorem dispatchMany_error {invoke : Invoke β τ σ} {q : Request τ σ} {events : List String}
    (hevents : ∀ event ∈ events, Selector.isEventName event = true) {w : World β σ}
    {e : EngineError} (h : (dispatchMany invoke q events w).1 = .error e) :
    ∃ event position collected cause, e = .handlerFailed event position collected cause := by
  obtain ⟨names, hnames, hmap⟩ := Selector.mapM_eventName hevents
  rw [dispatchMany, hnames] at h
  simp only [dispatchEach_eq, hmap, Series.result] at h
  cases herror : (Series.run invoke q events w).1.error with
  | none =>
    rw [herror] at h
    cases h
  | some e' =>
    obtain ⟨event, position, own, cause, -, rfl⟩ := Series.run_error hevents herror
    rw [herror] at h
    cases h
    exact ⟨_, _, _, _, rfl⟩

theorem dispatchMany_eq_invalid_iff {invoke : Invoke β τ σ} {q : Request τ σ}
    {events : List String} {w : World β σ} {t : String} :
    (dispatchMany invoke q events w).1 = .error (.invalidEventName t) ↔
      events.find? (fun event => !Selector.isEventName event) = some t := by
  constructor
  · intro h
    cases hfind : events.find? fun event => !Selector.isEventName event with
    | none =>
      have hevents : ∀ event ∈ events, Selector.isEventName event = true := by
        simpa using hfind
      obtain ⟨_, _, _, _, he⟩ := dispatchMany_error hevents h
      cases he
    | some u =>
      rw [dispatchMany_of_invalid invoke q hfind] at h
      cases h
      rfl
  · intro h
    rw [dispatchMany_of_invalid invoke q h]

/-! ### All ways to ask for events -/

/-- The same request; each question to its predicate is written down. -/
def Request.traced (q : Request τ σ) : Request τ (σ × List (Call β τ)) :=
  { q with accept := tracedAccept q.accept }

/-- A text that is not one or more of the characters of names is no event name. Looking up the
entries for it is refused with the text, and so is every request for it: triggered with a predicate,
triggered without one, or handed to a dispatcher as to a service, which comes to the same. Several
events are refused with the first text that is no event name, wherever it stands. No other text is
refused. A dispatch that is refused leaves the world as it was, and has called neither a handler nor
the predicate. -/
theorem event_names_refused (invoke : Invoke β τ σ) (w : World β σ) :
    (∀ text, Selector.isEventName text = false ↔
      ¬ (text ≠ "" ∧ ∀ c ∈ text.toList, Selector.IsNameChar c)) ∧
    (∀ d text t, (w.dispatcher d).resolve text = .error (.invalidEventName t) ↔
      Selector.isEventName text = false ∧ t = text) ∧
    (∀ (q : Request τ σ) t, (dispatch invoke q w).1 = .error (.invalidEventName t) ↔
      Selector.isEventName q.event = false ∧ t = q.event) ∧
    (∀ d text target arguments t,
      (triggerEvent invoke d text target arguments w).1 = .error (.invalidEventName t) ↔
        Selector.isEventName text = false ∧ t = text) ∧
    (∀ (q : Request τ σ) t, (serve invoke q w).1 = .error (.invalidEventName t) ↔
      Selector.isEventName q.event = false ∧ t = q.event) ∧
    (∀ (q : Request τ σ) events t,
      (dispatchMany invoke q events w).1 = .error (.invalidEventName t) ↔
        events.find? (fun event => !Selector.isEventName event) = some t) ∧
    (∀ q : Request τ σ, Selector.isEventName q.event = false →
      dispatch invoke q w = (.error (.invalidEventName q.event), w) ∧
        dispatch invoke.traced q.traced (w.beside []) =
          (.error (.invalidEventName q.event), w.beside []) ∧
        serve invoke q w = (.error (.invalidEventName q.event), w) ∧
        serve invoke.traced q.traced (w.beside []) =
          (.error (.invalidEventName q.event), w.beside [])) ∧
    ∀ (q : Request τ σ) events t,
      events.find? (fun event => !Selector.isEventName event) = some t →
        dispatchMany invoke q events w = (.error (.invalidEventName t), w) ∧
          dispatchMany invoke.traced q.traced events (w.beside []) =
            (.error (.invalidEventName t), w.beside []) := by
  refine ⟨fun text => ?_, fun d text t => Dispatcher.resolve_eq_invalid_iff,
    fun q t => dispatch_eq_invalid_iff,
    fun d text target arguments t => triggerEvent_eq_invalid_iff,
    fun q t => triggerEvent_eq_invalid_iff, fun q events t => dispatchMany_eq_invalid_iff,
    fun q h => ⟨dispatch_of_invalid invoke h w, dispatch_of_invalid invoke.traced (q := q.traced) h _,
      serve_of_invalid invoke h w, serve_of_invalid invoke.traced (q := q.traced) h _⟩,
    fun q events t h => ⟨dispatchMany_of_invalid invoke q h w,
      dispatchMany_of_invalid invoke.traced q.traced h _⟩⟩
  rw [← Selector.isEventName_iff_chars, Bool.not_eq_true]

/-- A pattern and an empty text between event names. Handlers for them would stop or fail. -/
theorem event_names_refused_between :
    dispatch stopOrFail (.ofEvent 0 "^=offer" ()) stopThenFail =
        (.error (.invalidEventName "^=offer"), stopThenFail) ∧
      dispatchMany stopOrFail (.ofEvent 0 "" ()) ["offer", "^=offer", "", "close"] stopThenFail =
        (.error (.invalidEventName "^=offer"), stopThenFail) := by
  obtain ⟨-, -, -, -, -, -, hone, hseveral⟩ := event_names_refused stopOrFail stopThenFail
  exact ⟨(hone (.ofEvent 0 "^=offer" ()) (by decide)).1,
    (hseveral (.ofEvent 0 "" ()) _ "^=offer" (by decide)).1⟩

end Switchboard
