import Switchboard.Host
import Switchboard.Proofs.Wiring.Run

/-!
# Setting up a dispatcher from a configuration

A host starts from an empty dispatcher with the priority of its configuration and wires the bindings
of the configuration on it. It fails only under strict wiring, with the first binding that is
refused.

* `Host.assemble_through`: what a host comes to if nothing stops its wiring;
* `Host.assemble_stopped`: why there is no host otherwise;
* `Host.wires_of_start`, `HostPlan.wires_of_build`: a host that has been started, or built, holds
  the entries of its bindings;
* `Host.launch`: the check of a configuration and then the set-up;
* `HostPlan.Reads.build`: a host whose configuration has been read is launched.
-/

namespace Switchboard

variable {β σ : Type}

/-- The bindings of the configuration that are refused. -/
def Config.refusals (c : Config) (catalog : Catalog β) : List SkippedBinding :=
  BindingConfig.refusals catalog c.dispatch.defaultPriority 0 c.bindings

/-- The dispatcher that the configuration starts from. -/
def Config.dispatcher (c : Config) (id : Nat) : Dispatcher β :=
  Dispatcher.fresh id c.dispatch.defaultPriority

theorem World.dispatcher_setDispatcher (w : World β σ) (id other : Nat) (d : Dispatcher β) :
    (w.setDispatcher id d).dispatcher other = if other = id then d else w.dispatcher other :=
  Pool.set_apply w.pool id other d

@[simp] theorem World.dispatcher_setDispatcher_self (w : World β σ) (id : Nat) (d : Dispatcher β) :
    (w.setDispatcher id d).dispatcher id = d := by
  rw [dispatcher_setDispatcher, if_pos rfl]

/-- A world in which nothing has happened. -/
def World.untouched : World Unit Unit := ⟨Pool.empty, (), Log.empty⟩

namespace Host

variable {w : World β σ} {id : Nat} {config : Config} {catalog : Catalog β}

theorem assemble_eq (w : World β σ) (id : Nat) (config : Config) (catalog : Catalog β) :
    assemble w id config catalog =
      match (w.setDispatcher id (config.dispatcher id)).wire id config.bindings catalog
          config.dispatch.strict with
      | (.error e, w) => (.error e, w)
      | (.ok report, w) =>
        (.ok ⟨config, id, report⟩,
          w.note (.hostReady report.bound.length report.skipped.length report.disabled
            config.dispatch.defaultPriority)) := rfl

/-- If nothing stops the wiring, there is a host, and its report says what becomes of each binding.
-/
theorem assemble_through
    (h : config.dispatch.strict = true → config.refusals catalog = []) :
    (assemble w id config catalog).1 =
        .ok ⟨config, id,
          WiringReport.empty.after (config.dispatcher id) catalog 0 config.bindings⟩ ∧
      (w.setDispatcher id (config.dispatcher id)).Wires id catalog config.bindings
        (assemble w id config catalog).2 := by
  obtain ⟨hreport, hwires⟩ := (w.setDispatcher id (config.dispatcher id)).wire_through id
    config.bindings catalog config.dispatch.strict
    (by rw [World.dispatcher_setDispatcher_self]; exact h)
  rw [World.dispatcher_setDispatcher_self] at hreport
  rw [assemble_eq]
  split
  next e w' hrun =>
    rw [hrun] at hreport
    cases hreport
  next report w' hrun =>
    rw [hrun] at hreport hwires
    cases hreport
    exact ⟨rfl, hwires.dispatcher, hwires.others, hwires.outside⟩

/-- Under strict wiring the first binding that is refused is the reason why there is no host. -/
theorem assemble_stopped (hstrict : config.dispatch.strict = true) {first : SkippedBinding}
    {others : List SkippedBinding} (h : config.refusals catalog = first :: others) :
    (assemble w id config catalog).1 =
      .error (.wiring first.index first.selector first.handler first.reason) := by
  obtain ⟨-, -, -, -, -, -, -, -, -, herror, -⟩ :=
    (w.setDispatcher id (config.dispatcher id)).wire_stopped id config.bindings catalog
      (by rw [World.dispatcher_setDispatcher_self]; exact h)
  rw [assemble_eq, hstrict]
  split
  next e w' hrun =>
    rw [hrun] at herror
    cases herror
    rfl
  next report w' hrun =>
    rw [hrun] at herror
    cases herror

/-- There is a host exactly if nothing stops its wiring. -/
theorem assemble_eq_ok_iff {host : Host β} :
    (assemble w id config catalog).1 = .ok host ↔
      (config.dispatch.strict = true → config.refusals catalog = []) ∧
        host = ⟨config, id,
          WiringReport.empty.after (config.dispatcher id) catalog 0 config.bindings⟩ := by
  by_cases h : config.dispatch.strict = true → config.refusals catalog = []
  · rw [(assemble_through h).1]
    constructor
    · intro heq
      cases heq
      exact ⟨h, rfl⟩
    · rintro ⟨-, rfl⟩
      rfl
  · obtain ⟨hstrict, hrefusals⟩ := Classical.not_imp.1 h
    obtain ⟨first, others, hfirst⟩ := List.exists_cons_of_ne_nil hrefusals
    rw [assemble_stopped hstrict hfirst]
    simp [h]

/-- Starting the log comes before the dispatcher and has no bearing on it. -/
theorem startWith_eq_ok_iff {log : LogStart} {host : Host β} :
    (startWith log w id config catalog).result = .ok host ↔
      (∃ file, log.result = .ok file) ∧ (assemble w id config catalog).1 = .ok host := by
  unfold startWith
  cases log.result with
  | error e => simp
  | ok file =>
    rcases assemble w id config catalog with ⟨r, w'⟩
    cases r <;> simp

theorem world_startWith {log : LogStart} {file : Option LogFile} (h : log.result = .ok file) :
    (startWith log w id config catalog).world = (assemble w id config catalog).2 := by
  unfold startWith
  rw [h]
  simp only
  rcases assemble w id config catalog with ⟨r, w'⟩
  cases r <;> rfl

/-- Nothing but the log and strict wiring can keep a host from being started. -/
theorem start_through (w : World β σ) (id : Nat) (config : Config) (catalog : Catalog β)
    (s : Surroundings) {file : Option LogFile}
    (hlog : ((LogSetup.ofConfig config.logging).start s).result = .ok file)
    (h : config.dispatch.strict = true → config.refusals catalog = []) :
    ∃ host, (start w id config catalog s).result = .ok host :=
  ⟨_, startWith_eq_ok_iff.2 ⟨⟨file, hlog⟩, (assemble_through h).1⟩⟩

/-- A host that has been started is the one of its configuration, and its dispatcher has got the
entries of the bindings and no others. -/
theorem wires_of_startWith {log : LogStart} {host : Host β}
    (h : (startWith log w id config catalog).result = .ok host) :
    host.dispatcher = id ∧
      (config.dispatch.strict = true → config.refusals catalog = []) ∧
      (w.setDispatcher id (config.dispatcher id)).Wires id catalog config.bindings
        (startWith log w id config catalog).world := by
  obtain ⟨⟨file, hlog⟩, hhost⟩ := startWith_eq_ok_iff.1 h
  obtain ⟨hthrough, rfl⟩ := assemble_eq_ok_iff.1 hhost
  refine ⟨rfl, hthrough, ?_⟩
  rw [world_startWith hlog]
  exact (assemble_through hthrough).2

theorem wires_of_start {s : Surroundings} {host : Host β}
    (h : (start w id config catalog s).result = .ok host) :
    host.dispatcher = id ∧
      (config.dispatch.strict = true → config.refusals catalog = []) ∧
      (w.setDispatcher id (config.dispatcher id)).Wires id catalog config.bindings
        (start w id config catalog s).world :=
  wires_of_startWith h

theorem dispatcher_of_start {s : Surroundings} {host : Host β}
    (h : (start w id config catalog s).result = .ok host) :
    (start w id config catalog s).world.dispatcher host.dispatcher =
      (config.dispatcher id).holding ((config.dispatcher id).wired catalog config.bindings) := by
  obtain ⟨hid, -, hwires⟩ := wires_of_start h
  have hdispatcher := hwires.dispatcher
  rw [World.dispatcher_setDispatcher_self] at hdispatcher
  rw [hid]
  exact hdispatcher

end Host

/-- Building a host comes to starting it from some configuration, if it does not fail before. -/
theorem HostPlan.exists_start_of_build {p : HostPlan β} {w : World β σ} {id : Nat}
    {s : Surroundings} {host : Host β} (h : (p.build w id s).result = .ok host) :
    ∃ start config log,
      p.build w id s = Host.startWith start { w with log := log } id config p.catalog := by
  unfold build at h ⊢
  split at h
  next => cases h
  next config log hconfig =>
    cases p.startsLog with
    | true => exact ⟨_, config, log, rfl⟩
    | false => exact ⟨⟨[], .ok none⟩, config, log, rfl⟩

/-- A host that has been built holds the entries of the bindings of some configuration. -/
theorem HostPlan.wires_of_build {p : HostPlan β} {w : World β σ} {id : Nat} {s : Surroundings}
    {host : Host β} (h : (p.build w id s).result = .ok host) :
    host.dispatcher = id ∧ ∃ config : Config,
      (w.setDispatcher id (config.dispatcher id)).Wires id p.catalog config.bindings
        (p.build w id s).world := by
  obtain ⟨start, config, log, hbuild⟩ := exists_start_of_build h
  rw [hbuild] at h ⊢
  obtain ⟨hid, -, hwires⟩ := Host.wires_of_startWith h
  exact ⟨hid, config, hwires.dispatcher, hwires.others, hwires.outside⟩

/-! ### Launching -/

/-- Checks a configuration and sets up a dispatcher from it. -/
def Host.launch (w : World β σ) (id : Nat) (config : Config) (catalog : Catalog β) :
    Except HostError (Host β) × World β σ :=
  match Loader.checked config with
  | .error e => (.error (.config e), w)
  | .ok config => assemble w id config catalog

namespace Host

variable {w : World β σ} {id : Nat} {config : Config} {catalog : Catalog β}

theorem launch_of_check_error {e : ConfigError} (h : config.check = .error e) :
    launch w id config catalog = (.error (.config e), w) := by
  unfold launch Loader.checked
  rw [h]
  rfl

theorem launch_of_check_ok (h : config.check = .ok ()) :
    launch w id config catalog = assemble w id config catalog := by
  unfold launch Loader.checked
  rw [h]
  rfl

/-- A launch ends at the check, at a binding that strict wiring refuses, or with a host. -/
theorem launch_cases (w : World β σ) (id : Nat) (config : Config) (catalog : Catalog β) :
    (∃ e, config.check = .error e ∧ (launch w id config catalog).1 = .error (.config e)) ∨
      (∃ first others, config.check = .ok () ∧ config.dispatch.strict = true ∧
        config.refusals catalog = first :: others ∧
        (launch w id config catalog).1 =
          .error (.wiring first.index first.selector first.handler first.reason)) ∨
      (config.check = .ok () ∧ (config.dispatch.strict = true → config.refusals catalog = []) ∧
        ∃ host, (launch w id config catalog).1 = .ok host) := by
  cases hcheck : config.check with
  | error e => exact .inl ⟨e, rfl, by rw [launch_of_check_error hcheck]⟩
  | ok u =>
    rw [launch_of_check_ok hcheck]
    by_cases hthrough : config.dispatch.strict = true → config.refusals catalog = []
    · exact .inr (.inr ⟨rfl, hthrough, _, (assemble_through hthrough).1⟩)
    · obtain ⟨hstrict, hrefusals⟩ := Classical.not_imp.1 hthrough
      obtain ⟨first, others, hfirst⟩ := List.exists_cons_of_ne_nil hrefusals
      exact .inr (.inl ⟨first, others, rfl, hstrict, hfirst, assemble_stopped hstrict hfirst⟩)

end Host

/-- A log that is not started has no bearing on the host. -/
theorem Host.startWith_quiet (w : World β σ) (id : Nat) (config : Config) (catalog : Catalog β) :
    (startWith ⟨[], .ok none⟩ w id config catalog).result =
        (assemble w id config catalog).1.mapError .host ∧
      (startWith ⟨[], .ok none⟩ w id config catalog).world = (assemble w id config catalog).2 := by
  unfold startWith
  simp only
  rcases assemble w id config catalog with ⟨r, w'⟩
  cases r <;> exact ⟨rfl, rfl⟩

/-- The plan loads its configuration and starts no log, and this is the configuration that its layers
give, checked or not. -/
structure HostPlan.Reads (p : HostPlan β) (s : Surroundings) (config : Config) : Prop where
  loads : p.config = none
  quiet : p.startsLog = false
  extract : ∃ sources layers,
    (p.loader s).sources s.isFile ((p.loader s).directories s) = .ok sources ∧
    (p.loader s).layers s ((sources.map Sources.paths).getD []) = .ok layers ∧
    Loader.extract layers = .ok config

/-- Building a host comes to launching it with the configuration that has been read. Only the notes on
the files have been made before. -/
theorem HostPlan.Reads.build {p : HostPlan β} {s : Surroundings} {config : Config}
    (h : p.Reads s config) (w : World β σ) (id : Nat) :
    ∃ log,
      (p.build w id s).result =
        (Host.launch { w with log := log } id config p.catalog).1.mapError .host ∧
      (p.build w id s).world = (Host.launch { w with log := log } id config p.catalog).2 := by
  obtain ⟨sources, layers, hsources, hlayers, hextract⟩ := h.extract
  have hconfigure : (p.loader s).configure s ((sources.map Sources.paths).getD []) =
      (Loader.checked config).mapError LoadFailure.config := by
    rw [Loader.configure, hlayers]
    show ((Loader.extract layers).bind Loader.checked).mapError _ = _
    rw [hextract]
    rfl
  unfold HostPlan.build configuration Loader.load Host.launch
  rw [h.loads]
  simp only [hsources, hconfigure, h.quiet]
  cases hchecked : Loader.checked config with
  | error e => exact ⟨_, rfl, rfl⟩
  | ok c => exact ⟨_, Host.startWith_quiet _ id c p.catalog⟩

end Switchboard
