import Switchboard.Host
import Switchboard.OfferDesk.Help
import Switchboard.OfferDesk.Task

/-!
# Running the offer desk

`OfferDesk.run` does what the arguments of the program ask for: it builds the host of the desk from
its configuration file, warns of bindings that were skipped, and triggers events for a customer or
lists the handlers of an event. What the program prints, its exit code and its log file are one
value, a `Report`.
-/

namespace Switchboard.OfferDesk

/-- How the program ends. -/
inductive Exit where
  | success
  | failure
  /-- The arguments were refused. -/
  | usage
  /-- The log could not be started, or the environment could not be read. -/
  | crash
deriving DecidableEq, Repr

/-- The number that the system is given. -/
def Exit.code : Exit → Nat
  | success => 0
  | failure => 1
  | usage => 2
  | crash => 101

/-- What the program leaves behind: texts for standard output and for standard error, each followed
by a line end, and the log file. -/
structure Report where
  exit : Exit
  output : List String
  errors : List String
  logFile : Option LogFile

/-- Puts blanks in front of the lines of a text but the first. -/
def hang (width : Nat) (text : String) : String :=
  ("\n" ++ String.ofList (List.replicate width ' ')).intercalate (text.splitOn "\n")

/-- The texts of causes, with numbers if there are several. -/
def causeTexts : List String → List String
  | [] => []
  | [cause] => ["    " ++ hang 4 cause]
  | causes => causes.zipIdx.map fun (cause, n) => padLeft 5 (toString n) ++ ": " ++ hang 7 cause
where
  /-- A text with blanks in front up to a width. -/
  padLeft (width : Nat) (text : String) : String :=
    String.ofList (List.replicate (width - text.length) ' ') ++ text

/-- An error with its causes. -/
def errorText (message : String) (causes : List String) : String :=
  "Error: " ++ message ++
    (if causes.isEmpty then ""
    else "\n\nCaused by:\n" ++ "\n".intercalate (causeTexts causes))

/-- A text with blanks behind it up to a width. -/
def padRight (width : Nat) (text : String) : String :=
  text ++ String.ofList (List.replicate (width - text.length) ' ')

/-- An answer as it is printed. -/
def answerText : Value → String
  | .null => "-"
  | .string s => s
  | v => v.compact

/-- Answers with their positions. -/
def answerLines (values : List Value) : List String :=
  values.zipIdx.map fun (v, position) => "  #" ++ toString position ++ ": " ++ answerText v

/-- The warning of a skipped binding. -/
def warning (s : SkippedBinding) : String :=
  "warning: binding #" ++ toString s.index ++ " ('" ++ s.selector ++ "' -> '" ++ s.handler ++
    "') skipped: " ++ s.reason.message

/-- The handlers for an event, in order. -/
def resolveLines (event : String) : List (Entry Task) → List String
  | [] => ["No handlers for '" ++ event ++ "'"]
  | entries => entries.zipIdx.map fun (e, position) =>
    "  #" ++ toString position ++ ": " ++ padRight 10 e.handler.name ++ " " ++
      padRight 16 e.selector.text ++ " priority " ++ toString e.priority

/-! ### Orders -/

namespace Order

/-- The lowest amount that is accepted unless an order says otherwise. -/
def usualLowest : Nat := 10

/-- The arguments of the events of an order. -/
def arguments (o : Order) : Table Value :=
  Table.ofList [("dollars", .int o.dollars), ("floor", .int (o.lowest.getD usualLowest))]

/-- Whether an answer is a text that contains another one. -/
def containsText (part : String) : Value → Ledger → Bool × Ledger
  | .string s, ledger => (Matcher.hasInfix part.toList s.toList, ledger)
  | _, ledger => (false, ledger)

/-- The request for an event of an order. -/
def request (o : Order) (dispatcher : Nat) (event : String) : Request Subject Ledger :=
  (Request.ofEvent dispatcher event (.customer ⟨o.customer⟩)).withArguments o.arguments

/-- Triggers the events of an order. Nothing is answered if the order has a stop text and other than
one event. -/
def dispatch (o : Order) (dispatcher : Nat) (w : World Task Ledger) :
    Option (Except EngineError Responses × World Task Ledger) :=
  match o.stopText, o.events with
  | some part, [event] =>
    some (Task.program.trigger 0 ((o.request dispatcher event).stoppingAt (containsText part)) w)
  | some _, _ => none
  | none, events => some (Task.program.triggerMany 0 (o.request dispatcher "") events w)

end Order

/-- The lines for the responses of an order and the ledger after it. -/
def orderLines (customer : String) (r : Responses) (ledger : Ledger) : List String :=
  "Responses:" :: answerLines r.values ++ (if r.stopped then ["(stopped early)"] else []) ++
    ("Ledger for " ++ customer ++ ":") :: ledger.map fun line => "  " ++ line

/-! ### The program -/

/-- What a command leaves behind on a host: how it ends, and its texts for both outputs. -/
def perform (host : Host Task) (w : World Task Ledger) :
    Command → Exit × List String × List String
  | .trigger o =>
    match o.dispatch host.dispatcher w with
    | none => (.failure, [], [errorText "--until can only be used with a single event" []])
    | some (.ok r, w) => (.success, orderLines o.customer r w.outside, [])
    | some (.error e, _) =>
      (.failure,
        match e.collected? with
        | some r => "Responses before the failure:" :: answerLines r.values
        | none => [],
        [errorText e.message e.causes])
  | .resolve event =>
    match (w.dispatcher host.dispatcher).resolve event with
    | .ok entries => (.success, resolveLines event entries, [])
    | .error e => (.failure, [], [errorText e.message e.causes])

/-- How the program is called. -/
def usage : String :=
  "Usage: offer-desk [-c FILE] [-p PROFILE] trigger EVENT... --customer NAME [--dollars N] " ++
    "[--floor N] [--until TEXT]\n       offer-desk [-c FILE] [-p PROFILE] resolve EVENT"

/-- How the host of a call is built. -/
def plan (i : Invocation) : HostPlan Task :=
  { HostPlan.usual catalog with configFile := some i.configFile, profile := i.profile }

/-- The files that a call may read: its configuration file and the overlay of the profile. -/
def configPaths (arguments : List String) (environment : Table String) : List String :=
  match Call.parse? arguments with
  | some (.run i) =>
    let profile := (i.profile.map Profile.parse).getD (Profile.ofEnvironment environment)
    i.configFile :: (Loader.overlayPath? i.configFile profile).toList
  | _ => []

/-- A world without dispatchers and with an empty ledger. -/
def emptyWorld : World Task Ledger := ⟨Pool.empty, [], Log.empty⟩

/-- What is said if the log cannot be started. -/
def logFailureText : LogFailure → String
  | .directive text => "cannot read the log directive " ++ Text.quoted text
  | .file file => "cannot open the log file " ++ Text.quoted (Path.join file.directory file.name)

/-- Builds the host of an invocation and performs its command. -/
def invoke (i : Invocation) (s : Surroundings) : Report :=
  let start := (plan i).build emptyWorld 0 s
  match start.result with
  | .error (.log e) => ⟨.crash, [], start.complaints ++ [logFailureText e], none⟩
  | .error (.environment name) =>
    ⟨.crash, [], ["cannot read the environment variable " ++ Text.quoted name], none⟩
  | .error (.host e) =>
    ⟨.failure, [], start.complaints ++ [errorText e.message e.causes], start.logFile⟩
  | .ok host =>
    match perform host start.world i.command with
    | (exit, output, errors) =>
      ⟨exit, output, start.complaints ++ host.report.skipped.map warning ++ errors, start.logFile⟩

/-- Runs the program. -/
def run (arguments : List String) (s : Surroundings) : Report :=
  match Call.parse? arguments with
  | none => ⟨.usage, [], [usage], none⟩
  | some (.help topic) => ⟨.success, topic.lines, [], none⟩
  | some .version => ⟨.success, [versionLine], [], none⟩
  | some (.run i) => invoke i s

end Switchboard.OfferDesk
