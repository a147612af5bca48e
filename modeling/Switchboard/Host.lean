import Switchboard.Config.Loader
import Switchboard.LogSetup
import Switchboard.Wiring

/-!
# Hosts

A host is a dispatcher that has been set up from a configuration: with the priority of the
configuration and its bindings, wired to the handlers of a catalog.

A `HostPlan` says where the configuration comes from and which handlers there are. Building the
host loads the configuration unless it is given, starts the log if that is wanted, and wires the
bindings. A configuration that is given is taken as it is.

* `Host.assemble`: sets up the dispatcher;
* `Host.start`: starts the log and sets up the dispatcher;
* `HostPlan.build`: does all that a plan says.
-/

namespace Switchboard

variable {β σ : Type}

/-- A dispatcher that has been set up from a configuration. -/
structure Host (β : Type) where
  config : Config
  /-- The number of the dispatcher in the world. -/
  dispatcher : Nat
  report : WiringReport β

/-- Why there is no host. -/
inductive StartFailure where
  | host (e : HostError)
  | log (e : LogFailure)
  /-- The text of this variable of the environment cannot be read. -/
  | environment (name : String)

/-- A failure to load the configuration is a failure to start. -/
def LoadFailure.toStartFailure : LoadFailure → StartFailure
  | config e => .host (.config e)
  | environment name => .environment name

/-- What comes of an attempt to start a host: the host or a failure, the complaints on starting the
log, the log file that was opened on the way, and the world afterwards. -/
structure Start (β σ : Type) where
  result : Except StartFailure (Host β)
  complaints : List String
  logFile : Option LogFile
  world : World β σ

namespace Host

/-- Sets up a dispatcher of the world. -/
def assemble (w : World β σ) (id : Nat) (config : Config) (catalog : Catalog β) :
    Except HostError (Host β) × World β σ :=
  let w := w.setDispatcher id (Dispatcher.fresh id config.dispatch.defaultPriority)
  match w.wire id config.bindings catalog config.dispatch.strict with
  | (.error e, w) => (.error e, w)
  | (.ok report, w) =>
    (.ok ⟨config, id, report⟩,
      w.note (.hostReady report.bound.length report.skipped.length report.disabled
        config.dispatch.defaultPriority))

/-- Sets up a dispatcher of the world once the log has been started, or is not to be started. -/
def startWith (log : LogStart) (w : World β σ) (id : Nat) (config : Config) (catalog : Catalog β) :
    Start β σ :=
  match log.result with
  | .error e => ⟨.error (.log e), log.complaints, none, w⟩
  | .ok file =>
    match assemble w id config catalog with
    | (.ok host, w) => ⟨.ok host, log.complaints, file, w⟩
    | (.error e, w) => ⟨.error (.host e), log.complaints, file, w⟩

/-- Starts the log and sets up a dispatcher of the world. -/
def start (w : World β σ) (id : Nat) (config : Config) (catalog : Catalog β) (s : Surroundings) :
    Start β σ :=
  startWith ((LogSetup.ofConfig config.logging).start s) w id config catalog

end Host

/-- How a host is built. -/
structure HostPlan (β : Type) where
  /-- The configuration, if it is not loaded. -/
  config : Option Config
  /-- The file that the configuration is loaded from, if it is named. -/
  configFile : Option String
  /-- The text of the profile, if it is not the one of the environment. -/
  profile : Option String
  catalog : Catalog β
  startsLog : Bool

namespace HostPlan

/-- The configuration is found in the usual way, and the log is started. -/
def usual (catalog : Catalog β) : HostPlan β :=
  { config := none, configFile := none, profile := none, catalog := catalog, startsLog := true }

/-- How the configuration is loaded. -/
def loader (p : HostPlan β) (s : Surroundings) : Loader :=
  let l := Loader.fresh s
  let l := (p.profile.map l.withProfile).getD l
  (p.configFile.map l.withFile).getD l

/-- The configuration, given or loaded. -/
def configuration (p : HostPlan β) (s : Surroundings) (log : Log) :
    Except LoadFailure Config × Log :=
  match p.config with
  | some config => (.ok config, log)
  | none => (p.loader s).load s log

/-- Builds the host with a dispatcher of the world. -/
def build (p : HostPlan β) (w : World β σ) (id : Nat) (s : Surroundings) : Start β σ :=
  match p.configuration s w.log with
  | (.error e, log) => ⟨.error e.toStartFailure, [], none, { w with log := log }⟩
  | (.ok config, log) =>
    let w := { w with log := log }
    if p.startsLog then Host.start w id config p.catalog s
    else Host.startWith ⟨[], .ok none⟩ w id config p.catalog

end HostPlan

end Switchboard
