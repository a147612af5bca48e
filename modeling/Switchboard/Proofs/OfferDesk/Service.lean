import Switchboard.Proofs.Dispatch.Series
import Switchboard.Proofs.Host.Order
import Switchboard.Proofs.OfferDesk.Errand

/-!
# Orders are served

Whatever has been bound at the desk, an order for events with proper names is served: its errands
are run in order, and what is printed are their answers and their lines of the ledger.

* `Order.trigger_eq`, `Order.series_eq`: what triggering the events of an order does;
* `Order.perform_eq`, `Order.perform_until_eq`: what is printed;
* `serves_orders`: any host that is built on the catalog of the desk serves orders.
-/

namespace Switchboard.OfferDesk

/-- The tasks for an event on a dispatcher, in order. -/
def tasksFor (w : World Task Ledger) (id : Nat) (event : String) : List Task :=
  ((w.registry id).resolve event).map fun e => e.handler.body

/-- Lines in the ledger do not change what is bound. -/
theorem Writes.tasksFor_eq {w w' : World Task Ledger} {lines : List String}
    (h : Writes w lines w') : tasksFor w' = tasksFor w := by
  funext id event
  simp only [tasksFor, World.registry, World.dispatcher, h.pool]

namespace Order

variable {o : Order}

/-- Whether a counter-offer ends the walk for one of the events. -/
def isStopped (o : Order) (tasks : String → List Task) (events : List String) : Bool :=
  events.any fun event => o.isClosed (tasks event)

/-- What is printed once errands have been run. -/
def report (o : Order) (done : List Errand) (stopped : Bool) : Exit × List String × List String :=
  (.success, orderLines o.customer ⟨done.map o.answer, stopped⟩ (done.filterMap o.line?), [])

/-! ### Triggers -/

/-- Triggering one event of an order serves the tasks for it. -/
theorem trigger_eq (hfits : o.Fits) (P : Value → Bool) (id : Nat) {event : String}
    (hevent : Selector.isEventName event = true) (w : World Task Ledger) :
    let done := o.served P event (tasksFor w id event)
    ∃ w', Writes w (done.filterMap o.line?) w' ∧
      Task.program.trigger 0 ((o.request id event).stoppingAt (judging P)) w =
        (.ok ⟨done.map o.answer,
          o.isClosed (tasksFor w id event) || done.any fun x => P (o.answer x)⟩, w') := by
  obtain ⟨name, hname⟩ := Selector.isEventName_iff.1 hevent
  have hframes : o.Frames (Context.start event (.customer ⟨o.customer⟩) o.arguments) := ⟨rfl, rfl, rfl⟩
  let q := (o.request id event).stoppingAt (judging P)
  obtain ⟨w', hwrites, hwalk⟩ := walk_eq hfits P (Task.program.nested 0)
    ((w.registry id).resolve event) 0 [] hframes (w.entered q name)
  have hdispatch := dispatch_of_eventName (Task.program.invokeAt 0) (q := q) hname w
  rw [Selector.name_of_eventName hname] at hdispatch
  refine ⟨{ w' with log := w'.log.leave }, ⟨hwrites.pool, hwrites.outside⟩, hdispatch.trans ?_⟩
  exact congrArg (fun done => (done.1, { done.2 with log := done.2.log.leave })) hwalk

/-- Without a judge of its answers, an event is served with all errands that are attended to. -/
theorem trigger_never_eq (hfits : o.Fits) (id : Nat) {event : String}
    (hevent : Selector.isEventName event = true) (w : World Task Ledger) :
    let done := (o.attended (tasksFor w id event)).map (Errand.mk event)
    ∃ w', Writes w (done.filterMap o.line?) w' ∧
      Task.program.trigger 0 (o.request id event) w =
        (.ok ⟨done.map o.answer, o.isClosed (tasksFor w id event)⟩, w') := by
  obtain ⟨w', hwrites, htrigger⟩ := trigger_eq hfits (fun _ => false) id hevent w
  rw [served, upTo_false] at hwrites htrigger
  refine ⟨w', hwrites, htrigger.trans ?_⟩
  rw [List.any_eq_false.2 fun _ _ => Bool.false_ne_true, Bool.or_false]

/-- Triggering events one after the other serves each of them. -/
theorem series_eq (hfits : o.Fits) (id : Nat) {events : List String}
    (hevents : ∀ event ∈ events, Selector.isEventName event = true) (w : World Task Ledger) :
    let done := o.errands (tasksFor w id) events
    ∃ rs w', Writes w (done.filterMap o.line?) w' ∧
      Series.run (Task.program.invokeAt 0) (o.request id "") events w = (⟨rs, none⟩, w') ∧
      Responses.joined rs = ⟨done.map o.answer, o.isStopped (tasksFor w id) events⟩ := by
  induction events generalizing w with
  | nil => exact ⟨[], w, Writes.refl w, rfl, rfl⟩
  | cons event rest ih =>
    obtain ⟨hevent, hrest⟩ := List.forall_mem_cons.1 hevents
    obtain ⟨w', hwrites, htrigger⟩ := trigger_never_eq hfits id hevent w
    obtain ⟨rs, w'', hwrites', hseries, hrs⟩ := ih hrest w'
    rw [hwrites.tasksFor_eq] at hwrites' hrs
    simp only [errands_cons, List.filterMap_append, List.map_append]
    generalize (o.attended (tasksFor w id event)).map (Errand.mk event) = own at *
    refine ⟨⟨own.map o.answer, o.isClosed (tasksFor w id event)⟩ :: rs, w'',
      hwrites.append hwrites', ?_, ?_⟩
    · have hdispatch : Switchboard.dispatch (Task.program.invokeAt 0)
          { o.request id "" with event, accept := Request.never } w = _ := htrigger
      simp only [Series.run, hdispatch, hseries]
    · rw [Responses.joined_cons, hrs]
      rfl

/-! ### Performances -/

/-- An order without a stop text is served whole. -/
theorem perform_eq (hfits : o.Fits) (hstop : o.stopText = none)
    (hevents : ∀ event ∈ o.events, Selector.isEventName event = true) (host : Host Task)
    {w : World Task Ledger} (hw : w.outside = []) :
    perform host w (.trigger o) =
      o.report (o.errands (tasksFor w host.dispatcher) o.events)
        (o.isStopped (tasksFor w host.dispatcher) o.events) := by
  obtain ⟨names, hnames, hmap⟩ := Selector.mapM_eventName hevents
  obtain ⟨rs, w', hwrites, hseries, hrs⟩ := series_eq hfits host.dispatcher hevents w
  have hdispatch : o.dispatch host.dispatcher w = some (.ok (Responses.joined rs), w') := by
    unfold dispatch Bodies.triggerMany dispatchMany
    simp only [hstop, hnames, dispatchEach_eq, hmap]
    rw [hseries]
    rfl
  unfold perform
  simp only [hdispatch]
  rw [hwrites.outside, hw, hrs]
  rfl

/-- An order with a stop text and one event is served up to the first answer that contains it. -/
theorem perform_until_eq (hfits : o.Fits) {part event : String} (hstop : o.stopText = some part)
    (hevents : o.events = [event]) (hevent : Selector.isEventName event = true) (host : Host Task)
    {w : World Task Ledger} (hw : w.outside = []) :
    let done := upTo (fun x => holds part (o.answer x))
      (o.errands (tasksFor w host.dispatcher) o.events)
    perform host w (.trigger o) =
      o.report done (o.isStopped (tasksFor w host.dispatcher) o.events ||
        done.any fun x => holds part (o.answer x)) := by
  obtain ⟨w', hwrites, htrigger⟩ := trigger_eq hfits (holds part) host.dispatcher hevent w
  have hdispatch : o.dispatch host.dispatcher w = some (Task.program.trigger 0
      ((o.request host.dispatcher event).stoppingAt (judging (holds part))) w) := by
    unfold dispatch
    rw [← containsText_eq, hstop, hevents]
  intro done
  have hdone : done = o.served (holds part) event (tasksFor w host.dispatcher event) := by
    simp only [done, hevents, errands, List.flatMap_singleton]
    rfl
  have hstopped : o.isStopped (tasksFor w host.dispatcher) o.events =
      o.isClosed (tasksFor w host.dispatcher event) := by
    rw [isStopped, hevents, List.any_cons, List.any_nil, Bool.or_false]
  rw [hdone, hstopped]
  unfold perform
  simp only [hdispatch, htrigger]
  rw [hwrites.outside, hw]
  rfl

end Order

/-! ### What is bound -/

/-- Adding tasks to a catalog puts each handler under the name of its task. -/
theorem exists_task_of_mem_foldl {c : Catalog Task}
    (hc : ∀ pair ∈ c, ∃ t : Task, pair.1 = t.name ∧ pair.2 = t.handler) (ts : List Task) :
    ∀ pair ∈ ts.foldl (fun c t => (c.add t.name t.handler).2) c,
      ∃ t : Task, pair.1 = t.name ∧ pair.2 = t.handler := by
  induction ts generalizing c with
  | nil => exact hc
  | cons t ts ih =>
    refine ih fun pair hpair => ?_
    rcases Table.eq_or_mem_of_mem_insert hpair with rfl | hpair
    · exact ⟨t, rfl, rfl⟩
    · exact hc pair hpair

/-- The catalog has the tasks under their names, and nothing else. -/
theorem exists_task_of_get? {name : String} {h : Handler Task}
    (hget : Table.get? name catalog = some h) : ∃ t : Task, name = t.name ∧ h = t.handler :=
  exists_task_of_mem_foldl (by simp) Task.all _ (Table.mem_of_get? hget)

/-- On a host of the desk every entry has the handler of its task. -/
theorem handler_of_mem_resolve {p : HostPlan Task} (hcatalog : p.catalog = catalog) {id : Nat}
    {s : Surroundings} {host : Host Task} (h : (p.build emptyWorld id s).result = .ok host)
    {event : String} {e : Entry Task}
    (he : e ∈ ((p.build emptyWorld id s).world.registry host.dispatcher).resolve event) :
    e.handler = e.handler.body.handler := by
  obtain ⟨hid, config, hwires⟩ := HostPlan.wires_of_build h
  have hdispatcher := hwires.dispatcher
  rw [World.dispatcher_setDispatcher_self] at hdispatcher
  rw [World.registry, hid, hdispatcher, hcatalog] at he
  obtain ⟨name, hget⟩ := config.exists_get?_of_mem_resolve catalog id he
  obtain ⟨t, -, ht⟩ := exists_task_of_get? hget
  rw [ht]
  rfl

/-- Orders are served, whatever the desk has been configured with. The entries for an event have
handlers of the catalog, so that the desk only ever runs its own tasks. An order without a stop text
succeeds: for one event after the other the tasks have their turn, up to the first `floor` if the
amount is too low; their answers are printed, and the note that they stop early exactly if there has
been such a `floor`; and the ledger has a line of each audit, in the same order, which is also what
the audit has answered. With a stop text and one event the same holds up to the first answer that
contains the text. -/
theorem serves_orders {p : HostPlan Task} (hcatalog : p.catalog = catalog) {id : Nat}
    {s : Surroundings} {host : Host Task} (hhost : (p.build emptyWorld id s).result = .ok host)
    (o : Order) (hdollars : o.dollars < Nat.pow 2 32)
    (hlowest : ∀ n ∈ o.lowest, n < Nat.pow 2 32)
    (hevents : ∀ event ∈ o.events, Selector.isEventName event = true) :
    let w := (p.build emptyWorld id s).world
    let entries := (w.registry host.dispatcher).resolve
    let tasks := fun event => (entries event).map fun e => e.handler.body
    let errands := o.errands tasks o.events
    let stopped := o.events.any fun event => o.isLow && (tasks event).contains .floor
    (∀ event ∈ o.events, (w.dispatcher host.dispatcher).resolve event = .ok (entries event) ∧
      ∀ e ∈ entries event, e.handler = e.handler.body.handler) ∧
    (o.stopText = none → perform host w (.trigger o) = o.report errands stopped) ∧
    (∀ part event, o.stopText = some part → o.events = [event] →
      let done := upTo (fun x => holds part (o.answer x)) errands
      perform host w (.trigger o) =
        o.report done (stopped || done.any fun x => holds part (o.answer x))) ∧
    ∀ done : List Errand, (done.filter (·.task == .audit)).map o.answer =
      (done.filterMap o.line?).map fun line => Value.string ("logged " ++ line) := by
  intro w entries tasks errands stopped
  have hfits : o.Fits := ⟨hdollars, hlowest⟩
  have hempty : w.outside = [] := by
    obtain ⟨-, config, hwires⟩ := HostPlan.wires_of_build hhost
    exact hwires.outside
  refine ⟨fun event hevent => ⟨?_, fun e he => handler_of_mem_resolve hcatalog hhost he⟩,
    fun hstop => Order.perform_eq hfits hstop hevents host hempty,
    fun part event hstop hone => ?_, o.answer_audits⟩
  · exact Dispatcher.resolve_of_isEventName _ (hevents event hevent)
  · refine Order.perform_until_eq hfits hstop hone ?_ host hempty
    exact hevents event (hone ▸ List.mem_singleton_self event)

/-- The desk with the bindings that it is shipped with. -/
def usualDesk : HostPlan Task :=
  { HostPlan.usual catalog with
    config := some
      { dispatch := ⟨1, true⟩
        logging := default
        bindings :=
          [⟨"^=offer", "audit", some 100, true⟩, ⟨"offer.accept", "floor", some 10, true⟩,
            ⟨"offer.accept", "accept", none, true⟩, ⟨"offer.decline", "decline", none, true⟩,
            ⟨"~=withdrawn", "withdraw", none, true⟩] }
    startsLog := false }

/-- An offer below the lowest amount, which is then withdrawn. -/
def lowOffer : Order := ⟨["offer.accept", "offer.withdrawn"], "John", 5, none, none⟩

theorem serves_orders_low :
    usualDesk.catalog = catalog ∧ lowOffer.dollars < Nat.pow 2 32 ∧
      (∀ n ∈ lowOffer.lowest, n < Nat.pow 2 32) ∧
      (∀ event ∈ lowOffer.events, Selector.isEventName event = true) ∧
      ∃ host, (usualDesk.build emptyWorld 0 Surroundings.bare).result = .ok host ∧
        perform host (usualDesk.build emptyWorld 0 Surroundings.bare).world (.trigger lowOffer) =
          (.success,
            ["Responses:", "  #0: logged offer.accept ($5)",
              "  #1: John, $5 is below our floor; we can do $10",
              "  #2: logged offer.withdrawn ($5)", "  #3: John withdrew the offer",
              "(stopped early)", "Ledger for John:", "  offer.accept ($5)",
              "  offer.withdrawn ($5)"],
            []) := by
  have hdollars : lowOffer.dollars < Nat.pow 2 32 := by decide
  have hlowest : ∀ n ∈ lowOffer.lowest, n < Nat.pow 2 32 := by simp [lowOffer]
  have hevents : ∀ event ∈ lowOffer.events, Selector.isEventName event = true := by decide
  obtain ⟨host, hhost⟩ :
      ∃ host, (usualDesk.build emptyWorld 0 Surroundings.bare).result = .ok host := ⟨_, rfl⟩
  obtain ⟨-, hserved, -, -⟩ := serves_orders rfl hhost lowOffer hdollars hlowest hevents
  rw [(HostPlan.wires_of_build hhost).1] at hserved
  refine ⟨rfl, hdollars, hlowest, hevents, host, hhost, (hserved rfl).trans ?_⟩
  decide +kernel

end Switchboard.OfferDesk
