import Switchboard.Proofs.Dispatch.Course
import Switchboard.Proofs.Dispatch.Cut

/-!
# What a trigger writes to the log

A trigger opens a span, and inside it notes how many entries it has found, each handler that it
invokes, and why its walk has ended early. In between stand the lines that handlers are the cause
of: their operations, and the triggers inside them with spans of their own.

* `Log.Grows`: a log has got further lines, and the open spans are what they were;
* `Program.grows_run`, `grows_dispatch`, `Bodies.grows_nested`: programs, dispatches, and triggers
  inside handlers let the log grow;
* `Passes.lines_eq`: the lines of a walk stage by stage;
* `ClosedBy`: the notice behind the last visit, and what the walk has come to;
* `trigger_log`: all lines of a trigger.
-/

namespace Switchboard

variable {α β κ τ σ ρ : Type}

/-! ### Logs that grow -/

namespace Log

/-- The later log has all lines of the earlier one in front of its own, the same spans are open, and
all its own lines have been written inside these. -/
structure Grows (log later : Log) : Prop where
  lines : later.lines.toList = log.lines.toList ++ log.since later
  spans : later.spans = log.spans
  inside : ∀ line ∈ log.since later, log.spans <+: line.spans

theorem since_eq {log later : Log} {lines : List LogLine}
    (h : later.lines.toList = log.lines.toList ++ lines) : log.since later = lines := by
  rw [since, h, List.drop_left' Array.length_toList]

namespace Grows

theorem of_lines {log later : Log} {lines : List LogLine}
    (hlines : later.lines.toList = log.lines.toList ++ lines) (hspans : later.spans = log.spans)
    (hinside : ∀ line ∈ lines, log.spans <+: line.spans) : log.Grows later := by
  have hsince := since_eq hlines
  exact ⟨hsince.symm ▸ hlines, hspans, hsince.symm ▸ hinside⟩

theorem refl (log : Log) : log.Grows log :=
  of_lines (List.append_nil _).symm rfl (by simp)

theorem note (log : Log) (n : Notice) : log.Grows (log.note n) :=
  of_lines (toList_lines_note n log) rfl (by simp)

theorem trans {log later last : Log} (h : log.Grows later) (h' : later.Grows last) :
    log.Grows last := by
  have hlines : last.lines.toList = log.lines.toList ++ (log.since later ++ later.since last) := by
    rw [h'.lines, h.lines, List.append_assoc]
  refine of_lines hlines (h'.spans.trans h.spans) (List.forall_mem_append.2 ⟨h.inside, ?_⟩)
  rw [← h.spans]
  exact h'.inside

/-- What is done inside a span stays inside the spans around it. -/
theorem within {log later : Log} {s : Span} (h : (log.enter s).Grows later) :
    log.Grows later.leave := by
  refine of_lines h.lines ?_ fun line hline => ?_
  · show later.spans.dropLast = log.spans
    rw [h.spans]
    exact List.dropLast_concat
  · exact (List.prefix_append _ _).trans (h.inside line hline)

end Grows

end Log

/-! ### What lets the log grow -/

theorem Operation.grows_run (op : Operation β) (w : World β σ) : w.log.Grows (op.run w).2.log := by
  cases op with
  | bind d s h p =>
    show w.log.Grows (w.bind d s h p).2.log
    unfold World.bind
    simp only
    split
    · exact .note _ _
    · exact .refl _
  | detach d e =>
    show w.log.Grows (w.detach d e).2.log
    unfold World.detach
    split <;> exact .note _ _
  | clear | count | holds => exact .refl _

theorem Program.grows_run {nested : Request τ σ → World β σ → Nested × World β σ}
    (h : ∀ q (w : World β σ), w.log.Grows (nested q w).2.log) (p : Program β τ σ ρ)
    (w : World β σ) : w.log.Grows (run nested p w).2.log := by
  induction p generalizing w with
  | done r => exact .refl _
  | look next ih => exact ih w.outside w
  | store s next ih => exact ih { w with outside := s }
  | perform op next ih => exact (op.grows_run w).trans (ih _ _)
  | trigger q next ih => exact (h q w).trans (ih _ _)

/-- Handlers that let the log grow. -/
def Invoke.LetsGrow (invoke : Invoke β τ σ) : Prop :=
  ∀ e ctx (w : World β σ), w.log.Grows (invoke e ctx w).2.log

theorem Log.Grows.noted {log later : Log} (h : log.Grows later) (n? : Option Notice) :
    log.Grows ((n?.map fun n => later.note n).getD later) := by
  cases n? with
  | none => exact h
  | some n => exact h.trans (.note later n)

namespace Passes

variable {invoke : Invoke β τ σ} {position : Nat} {log final : Log} {stages : List (Stage β τ)}

/-- The lines of a handler are those that have come to the log while it was running. -/
theorem grows_handler (hinvoke : invoke.LetsGrow) {e : Entry β} {ctx : Context τ} {o : Outcome}
    {w w' : World β σ} (hrun : invoke e ctx w = (o, w')) : w.log.Grows w'.log := by
  have hgrows := hinvoke e ctx w
  rwa [hrun] at hgrows

theorem grows_stage (hinvoke : invoke.LetsGrow) {s : Stage β τ} {w w' : World β σ}
    (hfound : w.log = log.note (s.visit.opening position))
    (hrun : invoke s.visit.entry s.visit.context w = (s.visit.outcome, w')) :
    log.Grows (((s.visit.closing? position).map fun n => w'.log.note n).getD w'.log) := by
  have hhandler := grows_handler hinvoke hrun
  rw [hfound] at hhandler
  exact ((Log.Grows.note log _).trans hhandler).noted _

theorem grows (hinvoke : invoke.LetsGrow) (h : Passes invoke position log stages final) :
    log.Grows final := by
  induction h with
  | done => exact .refl _
  | stage hfound hrun _ _ ih => exact (grows_stage hinvoke hfound hrun).trans ih

end Passes

theorem grows_dispatch {invoke : Invoke β τ σ} (hinvoke : invoke.LetsGrow) (q : Request τ σ)
    (w : World β σ) : w.log.Grows (dispatch invoke q w).2.log := by
  cases hname : Selector.eventName q.event with
  | error err =>
    rw [dispatch, hname]
    exact .refl _
  | ok name =>
    rw [dispatch_of_eventName invoke hname]
    obtain ⟨stages, -, -, hpasses⟩ := walk_stages (fun _ _ => ()) invoke q.accept
      ((w.registry q.dispatcher).resolve name.name) 0 []
      (Context.start name.name q.target q.arguments) (w.entered q name) []
    exact .within ((Log.Grows.note _ _).trans (hpasses.grows hinvoke))

namespace Bodies

theorem grows_nested (bodies : Bodies β τ σ) (depth : Nat) (q : Request τ σ) (w : World β σ) :
    w.log.Grows (bodies.nested depth q w).2.log := by
  induction depth generalizing q w with
  | zero => exact .refl _
  | succ depth ih =>
    have hinvoke : (bodies.invoke (bodies.nested depth)).LetsGrow :=
      fun e ctx w => Program.grows_run ih (bodies e.handler.body ctx) w
    exact grows_dispatch hinvoke q w

theorem letsGrow_invokeAt (bodies : Bodies β τ σ) (depth : Nat) :
    (bodies.invokeAt depth).LetsGrow :=
  fun e ctx w => Program.grows_run (bodies.grows_nested depth) (bodies e.handler.body ctx) w

end Bodies

/-! ### The lines of a walk -/

/-- The lines of a stage; those of the walk are written inside the spans that are open. -/
def Stage.written (spans : List Span) (s : Stage β τ) (position : Nat) : List LogLine :=
  ⟨s.visit.opening position, spans⟩ :: s.lines ++
    (s.visit.closing? position).toList.map (⟨·, spans⟩)

theorem Log.toList_lines_noted (log : Log) (n? : Option Notice) :
    ((n?.map fun n => log.note n).getD log).lines.toList =
      log.lines.toList ++ n?.toList.map (⟨·, log.spans⟩) := by
  cases n? with
  | none => simp
  | some n => exact toList_lines_note n log

namespace Passes

variable {invoke : Invoke β τ σ} {position : Nat} {log final : Log} {stages : List (Stage β τ)}

theorem lines_eq (hinvoke : invoke.LetsGrow) (h : Passes invoke position log stages final) :
    final.lines.toList = log.lines.toList ++
      (stages.zipIdx position).flatMap fun s => s.1.written log.spans s.2 := by
  induction h with
  | done => simp
  | @stage position log _ s _ w w' hfound hrun hlines _ ih =>
    have hhandler := grows_handler hinvoke hrun
    have hspans : w'.log.spans = log.spans := by
      rw [hhandler.spans, hfound]
      rfl
    rw [ih, (grows_stage hinvoke hfound hrun).spans, Log.toList_lines_noted, hspans,
      hhandler.lines, ← hlines, hfound, Log.toList_lines_note]
    simp [Stage.written]

/-- Handlers write their lines inside the spans that are open around the walk. -/
theorem inside (hinvoke : invoke.LetsGrow) (h : Passes invoke position log stages final) :
    ∀ s ∈ stages, ∀ line ∈ s.lines, log.spans <+: line.spans := by
  induction h with
  | done => simp
  | @stage position log _ s _ w w' hfound hrun hlines _ ih =>
    have hhandler := grows_handler hinvoke hrun
    have hfoundSpans : w.log.spans = log.spans := by
      rw [hfound]
      rfl
    rw [(grows_stage hinvoke hfound hrun).spans] at ih
    refine List.forall_mem_cons.2 ⟨?_, ih⟩
    rw [hlines, ← hfoundSpans]
    exact hhandler.inside

end Passes

/-- The notice behind the visits of a walk. -/
def closing? : Nat → List (Visit β τ) → Option Notice
  | _, [] => none
  | position, v :: rest => (v.closing? position).or (closing? (position + 1) rest)

theorem Visit.GoesOn.closing?_eq {v : Visit β τ} (h : v.GoesOn) (position : Nat) :
    v.closing? position = none := by
  obtain ⟨answer, hresult, hflag, hasked⟩ := h
  simp [Visit.closing?, hresult, hflag, hasked]

/-- Only behind the last visit there is a notice. -/
theorem written_eq (spans : List Span) {stages : List (Stage β τ)}
    (h : ∀ v ∈ (stages.map Stage.visit).dropLast, v.GoesOn) (position : Nat) :
    ((stages.zipIdx position).flatMap fun s => s.1.written spans s.2) =
      ((stages.zipIdx position).flatMap fun s =>
        ⟨s.1.visit.opening s.2, spans⟩ :: s.1.lines) ++
        (closing? position (stages.map Stage.visit)).toList.map (⟨·, spans⟩) := by
  induction stages generalizing position with
  | nil => rfl
  | cons s rest ih =>
    cases rest with
    | nil => simp [Stage.written, closing?]
    | cons t rest =>
      obtain ⟨hs, hrest⟩ := List.forall_mem_cons.1 (show ∀ v ∈ s.visit ::
        ((t :: rest).map Stage.visit).dropLast, v.GoesOn from h)
      rw [List.zipIdx_cons, List.flatMap_cons, List.flatMap_cons, ih hrest, List.append_assoc]
      simp [Stage.written, closing?, hs.closing?_eq]

/-- What the notice behind the visits of a walk tells of it: the failure that it has come to, the
wish of its last handler to stop, or that the predicate has accepted its last answer. There is none
behind a walk that has not been stopped. -/
structure ClosedBy (visits : List (Visit β τ)) (r : Except EngineError Responses)
    (n? : Option Notice) : Prop where
  failed : ∀ position text, n? = some (.handlerFailed position text) ↔
    ∃ event collected cause, r = .error (.handlerFailed event position collected cause) ∧
      cause.message = text
  error : ∀ e, r = .error e → ∃ position text, n? = some (.handlerFailed position text)
  stopped : ∀ handler, n? = some (.propagationStopped handler) ↔
    ∃ v answer, visits.getLast? = some v ∧ v.outcome.result = .ok answer ∧ v.flagged = true ∧
      v.entry.handler.name = handler
  accepted : ∀ handler, n? = some (.predicateAccepted handler) ↔
    ∃ v answer, visits.getLast? = some v ∧ v.asked = some (answer, true) ∧
      v.entry.handler.name = handler
  quiet : n? = none ↔ ∃ responses, r = .ok responses ∧ responses.stopped = false

/-- A visit in front behind which the walk goes on says nothing of its end. -/
theorem ClosedBy.cons {v : Visit β τ} {visits : List (Visit β τ)} {r : Except EngineError Responses}
    {n? : Option Notice} (hv : v.GoesOn) (h : ClosedBy visits r n?) :
    ClosedBy (v :: visits) r n? := by
  cases visits with
  | nil =>
    obtain ⟨answer, hresult, hflag, hasked⟩ := hv
    refine ⟨h.failed, h.error, fun handler => (h.stopped handler).trans ?_,
      fun handler => (h.accepted handler).trans ?_, h.quiet⟩
    · simp [hflag]
    · simp [hasked]
  | cons u rest =>
    refine ⟨h.failed, h.error, fun handler => ?_, fun handler => ?_, h.quiet⟩
    · rw [List.getLast?_cons_cons]
      exact h.stopped handler
    · rw [List.getLast?_cons_cons]
      exact h.accepted handler

/-- The notice behind the visits of a course tells what the walk has come to. -/
theorem Course.closedBy {es : List (Entry β)} {position : Nat} {collected : List Value}
    {ctx : Context τ} {visits : List (Visit β τ)} {r : Except EngineError Responses}
    (h : Course es position collected ctx visits r) :
    ClosedBy visits r (closing? position visits) := by
  induction h with
  | done => constructor <;> simp [closing?]
  | failed _ _ _ _ _ _ hresult =>
    constructor <;> simp [closing?, Visit.closing?, hresult]
  | stopped _ _ _ _ _ _ hresult hflag =>
    constructor <;> simp [closing?, Visit.closing?, Visit.flagged, hresult, hflag]
  | accepted _ _ _ _ _ _ hresult hflag =>
    constructor <;> simp [closing?, Visit.closing?, Visit.flagged, hresult, hflag]
  | @next e _ _ _ ctx o answer _ _ hresult hflag _ ih =>
    have hgo : Visit.GoesOn ⟨e, ctx, o, some (answer, false)⟩ := ⟨answer, hresult, hflag, rfl⟩
    rw [closing?, hgo.closing?_eq, Option.none_or]
    exact ih.cons hgo

/-! ### The lines of a trigger -/

/-- The same request; something is written down of each question to its predicate. -/
def Request.observed (see : Call β τ → List LogLine → κ) (q : Request τ σ) :
    Request τ (σ × List κ) :=
  ⟨q.dispatcher, q.event, q.target, q.arguments, observedAccept see q.accept⟩

/-- The log of a trigger. All that it writes is written inside its own span: how many entries it has
found, then stage by stage, in the order of these entries and with positions from zero on, that it
invokes the handler of the entry, and the lines of that handler; and at the end at most one notice
that tells what the walk has come to. The stages are those that are seen if handlers and predicate
are run with all calls written down, a handler with the lines that have come to the log meanwhile.

The same spans are open behind the trigger as in front of it, whatever it comes to, and this holds
of every trigger inside of handlers. -/
theorem trigger_log (bodies : Bodies β τ σ) (depth : Nat) (q : Request τ σ) (w : World β σ)
    {name : Selector} (hname : Selector.eventName q.event = .ok name) :
    let entries := (w.registry q.dispatcher).resolve name.name
    let spans := w.log.spans ++ [.dispatch name.text]
    let done := bodies.trigger depth q w
    ∃ (stages : List (Stage β τ)) (n? : Option Notice),
      dispatch ((bodies.invokeAt depth).observed Prod.mk) (q.observed Prod.mk) (w.beside []) =
          (done.1, done.2.beside (stages.flatMap (Stage.seen Prod.mk))) ∧
        stages.map (fun s => s.visit.entry) <+: entries ∧
        done.2.log.lines.toList = w.log.lines.toList ++ ⟨.resolved entries.length, spans⟩ ::
          ((stages.zipIdx.flatMap fun s => ⟨s.1.visit.opening s.2, spans⟩ :: s.1.lines) ++
            n?.toList.map (⟨·, spans⟩)) ∧
        ClosedBy (stages.map Stage.visit) done.1 n? ∧
        (∀ s ∈ stages, ∀ line ∈ s.lines, spans <+: line.spans) ∧
        done.2.log.spans = w.log.spans ∧
        ∀ inner q' (w' : World β σ), (bodies.nested inner q' w').2.log.spans = w'.log.spans := by
  intro entries spans done
  have hinvoke : (bodies.invokeAt depth : Invoke β τ σ).LetsGrow := bodies.letsGrow_invokeAt depth
  have hdone : done = _ := dispatch_of_eventName (bodies.invokeAt depth) hname w
  obtain ⟨stages, hwalk, hcourse, hpasses⟩ :=
    walk_stages Prod.mk (bodies.invokeAt depth) q.accept entries 0 []
      (Context.start name.name q.target q.arguments) (w.entered q name) []
  have hentered : (w.entered q name).log.lines.toList =
      w.log.lines.toList ++ [⟨.resolved entries.length, spans⟩] := Log.toList_lines_note _ _
  refine ⟨stages, closing? 0 (stages.map Stage.visit), ?_, ?_, ?_, ?_, hpasses.inside hinvoke, ?_,
    fun inner q' w' => (bodies.grows_nested inner q' w').spans⟩
  · have hobserved : ∀ see : Call β τ → List LogLine → Call β τ × List LogLine,
        Selector.eventName (q.observed see).event = .ok name := fun _ => hname
    rw [hdone, dispatch_of_eventName _ (hobserved _)]
    exact congrArg (fun done => (done.1, { done.2 with log := done.2.log.leave })) hwalk
  · have hentries := hcourse.entries
    rwa [List.map_map] at hentries
  · rw [hdone]
    have hwalked := hpasses.lines_eq hinvoke
    rw [show (w.entered q name).log.spans = spans from rfl, written_eq spans hcourse.goesOn,
      hentered, List.append_assoc, List.singleton_append] at hwalked
    exact hwalked
  · rw [hdone]
    exact hcourse.closedBy
  · exact (grows_dispatch hinvoke q w).spans

/-- A handler that triggers its own event and then wishes to stop. It fails if that was refused. -/
def echoing : Bodies Unit Unit Unit := fun _ ctx =>
  .trigger (.ofEvent 0 "offer" ()) fun nested =>
    .done ⟨if nested.isNone then .error (.text "too deep") else .ok .null, ctx.arguments, true⟩

/-- A dispatcher with that handler. -/
def echoingWorld : World Unit Unit :=
  (World.bind ⟨Pool.empty, (), Log.empty⟩ 0 ⟨.exact, "offer", Selector.isName_offer⟩ (.ofBody "echo" ())
    none).2

theorem trigger_log_echoing :
    Selector.eventName "offer" = .ok ⟨.exact, "offer", Selector.isName_offer⟩ ∧
      ∃ (stages : List (Stage Unit Unit)) (n? : Option Notice),
        (stages.flatMap (Stage.seen Prod.mk)).map Prod.snd =
          [[⟨.resolved 1, [.dispatch "offer", .dispatch "offer"]⟩,
            ⟨.invoking "echo" "offer" 1 0, [.dispatch "offer", .dispatch "offer"]⟩,
            ⟨.handlerFailed 0 "too deep", [.dispatch "offer", .dispatch "offer"]⟩]] ∧
          ClosedBy (stages.map Stage.visit)
            (echoing.trigger 1 (.ofEvent 0 "offer" ()) echoingWorld).1 n? ∧ n? ≠ none ∧
          (echoing.trigger 1 (.ofEvent 0 "offer" ()) echoingWorld).2.log.spans = [] := by
  have hname : Selector.eventName "offer" = .ok ⟨.exact, "offer", Selector.isName_offer⟩ := rfl
  have hstopped : (echoing.trigger 1 (.ofEvent 0 "offer" ()) echoingWorld).1.toOption.map
      Responses.stopped = some true := by decide +kernel
  obtain ⟨stages, n?, hseen, -, -, hclosed, -, hspans, -⟩ :=
    trigger_log echoing 1 (.ofEvent 0 "offer" ()) echoingWorld hname
  refine ⟨hname, stages, n?, ?_, hclosed, fun hnone => ?_, hspans⟩
  · have hstages := congrArg (fun done => done.2.outside.2.map Prod.snd) hseen
    refine hstages.symm.trans ?_
    decide +kernel
  · obtain ⟨responses, hresponses, hgone⟩ := hclosed.quiet.1 hnone
    rw [hresponses] at hstopped
    exact absurd (Option.some.inj hstopped) (by simp [hgone])

end Switchboard
