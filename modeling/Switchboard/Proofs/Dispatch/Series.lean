import Switchboard.Proofs.Dispatch.Step
import Switchboard.Proofs.Selector.Grammar

/-!
# Several events are dispatched one after the other

A `Series` is what single triggers come to if each is run on the world that the one before has left,
until one fails. Each is a dispatch of its own, from the target and the arguments of the request.

* `dispatch_error`: a dispatch of an event name can fail in one way only, by a handler;
* `dispatchEach_eq`: dispatching several events comes to what the series comes to;
* `dispatchMany_series`: how their responses and their error are put together.
-/

namespace Switchboard

variable {β τ σ : Type}

namespace Responses

@[simp] theorem append_empty (r : Responses) : r ++ empty = r := by
  show append r empty = r
  simp only [append, empty, List.append_nil, Bool.or_false]

@[simp] theorem empty_append (r : Responses) : empty ++ r = r := rfl

theorem append_assoc (r s t : Responses) : r ++ s ++ t = r ++ (s ++ t) := by
  show append (append r s) t = append r (append s t)
  simp only [append, List.append_assoc, Bool.or_assoc]

/-- The responses of several dispatches one after the other; stopped if one of them is. -/
def joined (rs : List Responses) : Responses := ⟨rs.flatMap values, rs.any stopped⟩

@[simp] theorem joined_nil : joined [] = empty := rfl

@[simp] theorem joined_cons (r : Responses) (rs : List Responses) :
    joined (r :: rs) = r ++ joined rs := rfl

end Responses

/-- What triggers one after the other come to: the responses of those that succeed, in order, and
the error of the first that fails. -/
structure Series where
  responses : List Responses
  error : Option EngineError

namespace Series

/-- Triggers events one after the other until one fails, each for itself. -/
def run (invoke : Invoke β τ σ) (q : Request τ σ) : List String → World β σ → Series × World β σ
  | [], w => (⟨[], none⟩, w)
  | event :: rest, w =>
    match dispatch invoke { q with event, accept := Request.never } w with
    | (.ok r, w) =>
      let done := run invoke q rest w
      (⟨r :: done.1.responses, done.1.error⟩, done.2)
    | (.error e, w) => (⟨[], some e⟩, w)

/-- The series as one dispatch, behind responses that are there already. An error of a handler gets
all responses before it. -/
def result (s : Series) (collected : Responses) : Except EngineError Responses :=
  match s.error with
  | none => .ok (collected ++ Responses.joined s.responses)
  | some (.handlerFailed event position r cause) =>
    .error (.handlerFailed event position (collected ++ Responses.joined s.responses ++ r) cause)
  | some e => .error e

theorem result_cons (r : Responses) (s : Series) (collected : Responses) :
    result ⟨r :: s.responses, s.error⟩ collected = s.result (collected ++ r) := by
  unfold result
  rw [Responses.joined_cons, ← Responses.append_assoc]

end Series

/-- Dispatching several events comes to what the series of them comes to. -/
theorem dispatchEach_eq (invoke : Invoke β τ σ) (q : Request τ σ) (names : List Selector)
    (collected : Responses) (w : World β σ) :
    dispatchEach invoke q names collected w =
      ((Series.run invoke q (names.map Selector.name) w).1.result collected,
        (Series.run invoke q (names.map Selector.name) w).2) := by
  induction names generalizing collected w with
  | nil =>
    show (Except.ok collected, w) = (Except.ok (collected ++ Responses.empty), w)
    rw [Responses.append_empty]
  | cons name rest ih =>
    rw [List.map_cons]
    unfold dispatchEach Series.run triggerEvent
    rcases dispatch invoke { q with event := name.name, accept := Request.never } w with ⟨r, w'⟩
    cases r with
    | ok r =>
      rw [Series.result_cons]
      exact ih (collected ++ r) w'
    | error e =>
      cases e with
      | handlerFailed event position r cause =>
        simp only [Series.result, Responses.joined_nil, Responses.append_empty]
      | _ => rfl

/-! ### Failures -/

/-- The error of a walk is that of a handler, at its position and with the answers before it. A walk
that fails has not been stopped. -/
theorem walk_error {invoke : Invoke β τ σ} {accept : Value → σ → Bool × σ} {es : List (Entry β)}
    {position : Nat} {collected : List Value} {ctx : Context τ} {w : World β σ} {e : EngineError}
    (h : (walk invoke accept es position collected ctx w).1 = .error e) :
    ∃ failed own cause, e = .handlerFailed ctx.event failed ⟨own, false⟩ cause := by
  induction es generalizing position collected ctx w with
  | nil => cases h
  | cons entry rest ih =>
    rw [walk_cons] at h
    simp only at h
    rcases turn_cases accept entry position collected ctx _ _ with
      ⟨cause, -, hturn⟩ | ⟨v, -, -, hturn⟩ | ⟨v, -, -, -, hturn⟩ | ⟨v, -, -, -, hturn⟩
    · rw [hturn] at h
      cases h
      exact ⟨position, collected, cause, rfl⟩
    · rw [hturn] at h
      cases h
    · rw [hturn] at h
      cases h
    · rw [hturn] at h
      -- the context of the rest is of the same event
      have hrest := ih h
      exact hrest

/-- A dispatch of an event name fails only by a handler. -/
theorem dispatch_error {invoke : Invoke β τ σ} {q : Request τ σ} {w : World β σ} {e : EngineError}
    (hname : Selector.isEventName q.event = true) (h : (dispatch invoke q w).1 = .error e) :
    ∃ position own cause, e = .handlerFailed q.event position ⟨own, false⟩ cause := by
  obtain ⟨name, hname⟩ := Selector.isEventName_iff.1 hname
  simp only [dispatch, hname] at h
  rw [← Selector.name_of_eventName hname]
  exact walk_error h

/-- If the events of a series have event names, what ends it early is a handler, in the first event
that has no responses. -/
theorem Series.run_error {invoke : Invoke β τ σ} {q : Request τ σ} {events : List String}
    (hevents : ∀ event ∈ events, Selector.isEventName event = true) {w : World β σ}
    {e : EngineError} (h : (run invoke q events w).1.error = some e) :
    ∃ event position own cause,
      events[(run invoke q events w).1.responses.length]? = some event ∧
        e = .handlerFailed event position ⟨own, false⟩ cause := by
  induction events generalizing w with
  | nil => cases h
  | cons event rest ih =>
    obtain ⟨hevent, hrest⟩ := List.forall_mem_cons.1 hevents
    unfold run at h ⊢
    rcases hdone : dispatch invoke { q with event, accept := Request.never } w with ⟨r, w'⟩
    rw [hdone] at h
    cases r with
    | ok r => simpa using ih hrest h
    | error err =>
      cases h
      obtain ⟨position, own, cause, he⟩ :=
        dispatch_error (q := { q with event, accept := Request.never }) hevent
          (congrArg Prod.fst hdone)
      exact ⟨event, position, own, cause, rfl, he⟩

/-- A series without an error has got responses from every event. -/
theorem Series.length_run {invoke : Invoke β τ σ} {q : Request τ σ} {events : List String}
    {w : World β σ} (h : (run invoke q events w).1.error = none) :
    (run invoke q events w).1.responses.length = events.length := by
  induction events generalizing w with
  | nil => rfl
  | cons event rest ih =>
    unfold run at h ⊢
    rcases hdone : dispatch invoke { q with event, accept := Request.never } w with ⟨r, w'⟩
    rw [hdone] at h
    cases r with
    | ok r => exact congrArg Nat.succ (ih h)
    | error err => cases h

/-! ### All events -/

/-- Event names are all read as themselves. -/
theorem Selector.mapM_eventName {events : List String}
    (h : ∀ event ∈ events, isEventName event = true) :
    ∃ names, events.mapM eventName = .ok names ∧ names.map name = events := by
  induction events with
  | nil => exact ⟨[], rfl, rfl⟩
  | cons event rest ih =>
    obtain ⟨hevent, hrest⟩ := List.forall_mem_cons.1 h
    obtain ⟨s, hs⟩ := isEventName_iff.1 hevent
    obtain ⟨names, hnames, hmap⟩ := ih hrest
    refine ⟨s :: names, ?_, ?_⟩
    · rw [List.mapM_cons, hs, hnames]
      rfl
    · rw [List.map_cons, hmap, name_of_eventName hs]

/-- Dispatching several events of proper names leaves the world as single triggers one after the
other leave it, each with the target and the arguments of the request. If all of them succeed, their
responses are joined in order. Otherwise the first that fails is the last that is dispatched: its
error is passed on, with the responses of the events before it in front of its own. -/
theorem dispatchMany_series (invoke : Invoke β τ σ) (q : Request τ σ) (events : List String)
    (h : ∀ event ∈ events, Selector.isEventName event = true) (w : World β σ) :
    let s := Series.run invoke q events w
    let rs := s.1.responses
    let done := dispatchMany invoke q events w
    done.2 = s.2 ∧
      (s.1.error = none → rs.length = events.length ∧
        done.1 = .ok ⟨rs.flatMap Responses.values, rs.any Responses.stopped⟩) ∧
      (∀ e, s.1.error = some e → ∃ event position own cause,
        events[rs.length]? = some event ∧
          e = .handlerFailed event position ⟨own, false⟩ cause ∧
          done.1 = .error (.handlerFailed event position
            ⟨rs.flatMap Responses.values ++ own, rs.any Responses.stopped⟩ cause)) ∧
      ∀ text, done.1 ≠ .error (.invalidEventName text) := by
  intro s rs done
  obtain ⟨names, hnames, hmap⟩ := Selector.mapM_eventName h
  have hdone : done = (s.1.result Responses.empty, s.2) := by
    show dispatchMany invoke q events w = _
    unfold dispatchMany
    rw [hnames]
    simp only
    rw [dispatchEach_eq, hmap]
  have hok : s.1.error = none → done.1 = .ok (Responses.joined rs) := by
    intro hnone
    rw [hdone, Series.result, hnone, Responses.empty_append]
  have herror : ∀ e, s.1.error = some e → ∃ event position own cause,
      events[rs.length]? = some event ∧ e = .handlerFailed event position ⟨own, false⟩ cause ∧
        done.1 = .error (.handlerFailed event position
          ⟨rs.flatMap Responses.values ++ own, rs.any Responses.stopped⟩ cause) := by
    intro e he
    obtain ⟨event, position, own, cause, hevent, rfl⟩ := Series.run_error h he
    refine ⟨event, position, own, cause, hevent, rfl, ?_⟩
    have hjoined : Responses.joined rs ++ ⟨own, false⟩ =
        ⟨rs.flatMap Responses.values ++ own, rs.any Responses.stopped⟩ := by
      show Responses.append (Responses.joined rs) ⟨own, false⟩ = _
      rw [Responses.append, Bool.or_false]
      rfl
    rw [hdone, Series.result, he, ← hjoined]
    rfl
  refine ⟨congrArg Prod.snd hdone, fun hnone => ⟨Series.length_run hnone, hok hnone⟩, herror, ?_⟩
  intro text hinvalid
  cases hs : s.1.error with
  | none =>
    rw [hok hs] at hinvalid
    cases hinvalid
  | some e =>
    obtain ⟨event, position, own, cause, -, -, hfailed⟩ := herror e hs
    rw [hfailed] at hinvalid
    cases hinvalid

/-- Handlers of two kinds: one answers and asks for the walk to stop, the other fails. -/
def stopOrFail : Invoke Bool Unit Unit := fun e ctx w =>
  if e.handler.body then (⟨.ok (.bool true), ctx.arguments, true⟩, w)
  else (⟨.error (.text "closed"), ctx.arguments, false⟩, w)

/-- A handler that stops on one event, and one that fails on another. -/
def stopThenFail : World Bool Unit :=
  let w : World Bool Unit := ⟨Pool.empty, (), Log.empty⟩
  let w := (w.bind 0 ⟨.exact, "offer", Selector.isName_offer⟩ (.ofBody "open" true) none).2
  (w.bind 0 ⟨.exact, "close", by decide⟩ (.ofBody "closed" false) none).2

unseal Merge.toList in
theorem dispatchMany_series_closed :
    (∀ event ∈ ["offer", "close", "offer"], Selector.isEventName event = true) ∧
      (dispatchMany stopOrFail (.ofEvent 0 "" ()) ["offer", "close", "offer"] stopThenFail).1 =
        .error (.handlerFailed "close" 0 ⟨[.bool true], true⟩ (.text "closed")) := by
  have hevents : ∀ event ∈ ["offer", "close", "offer"], Selector.isEventName event = true := by
    decide
  obtain ⟨-, -, hfailed, -⟩ := dispatchMany_series stopOrFail (.ofEvent 0 "" ()) _ hevents stopThenFail
  have hseries : (Series.run stopOrFail (.ofEvent 0 "" ()) ["offer", "close", "offer"] stopThenFail).1 =
      ⟨[⟨[.bool true], true⟩], some (.handlerFailed "close" 0 ⟨[], false⟩ (.text "closed"))⟩ := by
    rfl
  rw [hseries] at hfailed
  obtain ⟨event, position, own, cause, -, he, hdone⟩ := hfailed _ rfl
  cases he
  exact ⟨hevents, hdone⟩

end Switchboard
