import RemoteRollout.CommandLine.Arguments
import RemoteRollout.ErrorResponse
import RemoteRollout.LogFilter
import RemoteRollout.SettingsFile
import RemoteRollout.Startup

/-!
# Outcomes

What a command line leads to. Every command that serves starts the service first, exactly as it
starts for real requests, and fails if the service does not start. A command either shows its
result and ends with code 0, or shows nothing and reports one error, as the body of a response,
with the exit code of its kind.
-/

namespace RemoteRollout

/-- What a run leads to. -/
structure Outcome where
  code : Nat := 0
  /-- What is shown on the standard output. -/
  output : List Char := []
  /-- The lines with the errors that are reported, log records apart. -/
  bodies : List (List Char) := []
  /-- The events of the log. -/
  events : List Event := []
  /-- Log records are written as `JSON`. -/
  jsonLogs : Bool := false
deriving DecidableEq, Repr, Inhabited

namespace Outcome

/-- The event of an error that is reported. -/
def errorEvent (e : ServiceError) : Event where
  level := .error
  origin := .command
  message := e.text
  fields := [("kind", .text e.kind.label), ("status", .count e.kind.status)]

/-- The line with an error. -/
def errorBody (e : ServiceError) : List Char := (ErrorResponse.ofError e).tree.compact

/-- An error is reported after these events. -/
def failed (e : ServiceError) (events : List Event := []) : Outcome where
  code := e.kind.exitCode
  bodies := [errorBody e]
  events := events ++ [errorEvent e]

/-- A text is shown after these events. -/
def shown (output : List Char) (events : List Event := []) : Outcome where
  output := output
  events := events

/-- A value is shown, over several lines. -/
def printed (t : Json.Tree) (events : List Event := []) : Outcome := shown (t.pretty ++ ['\n']) events

/-- The value of an operation is shown, or its error is reported. -/
def ofResult (result : Except ServiceError Json.Tree) (events : List Event) : Outcome :=
  match result with
  | .ok t => printed t events
  | .error e => failed e events

/-- The outcome after these events. -/
def after (o : Outcome) (events : List Event) : Outcome := { o with events := events ++ o.events }

end Outcome

namespace Command

/-! ## Commands on a running service -/

/-- The outcome of a command that serves: the service is started without a flag evaluator of its
own. -/
def onService (s : Settings) (store : FileStore) (act : Service → ServiceState → Outcome) :
    Outcome :=
  let started := Startup.start s none store
  match started.result with
  | .error e => .failed e started.events
  | .ok (service, state) => (act service state).after started.events

/-- The line about the map of a cohort. -/
def mapLine (service : Service) (cohort : Cohort) : List Char :=
  let m := service.clusterMap cohort
  (cohort.name ++ ": " ++ toString m.size ++ " entries (" ++ m.first.version.text ++ " .. " ++
    m.last.version.text ++ ")\n").toList

/-- What a service that starts is told. -/
def checkReport (service : Service) : List Char :=
  mapLine service .stable ++ mapLine service .canary ++ "cluster maps are valid\n".toList

/-- The event of a replayed request that fails. -/
def replayEvent (ocpVersion : String) (e : ServiceError) : Event where
  level := .warn
  origin := .replay
  message := "request failed"
  fields := [("ocp_version", .text ocpVersion), ("error", .text e.text)]

/-- Replays one request, of a cluster of this version. -/
def replayOne (service : Service) (store : FileStore) (r : Request) (state : ServiceState)
    (ocpVersion : String) : ServiceState × List Event :=
  let reply := service.remoteConfiguration store state r ocpVersion
  match reply.result with
  | .ok _ => (reply.state, reply.events)
  | .error e => (reply.state, reply.events ++ [replayEvent ocpVersion e])

/-- Replays requests of clusters of these versions, one after the other. -/
def replay (service : Service) (store : FileStore) (r : Request) :
    ServiceState → List String → ServiceState × List Event
  | state, [] => (state, [])
  | state, ocpVersion :: rest =>
    let (state, events) := replayOne service store r state ocpVersion
    let (state, more) := replay service store r state rest
    (state, events ++ more)

/-- The outcome of a replay: the counters. -/
def replayed (service : Service) (store : FileStore) (r : Request) (state : ServiceState)
    (versions : List String) : Outcome :=
  let (state, events) := replay service store r state versions
  .shown state.metrics.text.toList events

/-! ## All commands -/

/-- The name and the version of the command line. -/
def packageLine : List Char := "gathering-conditions-cli 0.4.0\n".toList

/-- The outcome of a command with these settings. -/
def perform (s : Settings) (store : FileStore) : Command → Outcome
  | check => onService s store fun service _ => .shown (checkReport service)
  | rules userAgent => onService s store fun service state =>
    let reply := service.rules store state ⟨userAgent⟩
    .ofResult (reply.result.map Rules.tree) reply.events
  | remoteConfiguration ocpVersion userAgent => onService s store fun service state =>
    let reply := service.remoteConfiguration store state ⟨userAgent⟩ ocpVersion
    .ofResult (reply.result.map RemoteConfiguration.tree) reply.events
  | resolve ocpVersion cohort => onService s store fun service _ =>
    let (result, events) := service.resolveArtifact cohort ocpVersion
    .ofResult (result.map fun p => .string p.text) events
  | metrics versions userAgent => onService s store fun service state =>
    replayed service store ⟨userAgent⟩ state versions
  | showSettings => .printed s.tree
  | version => .shown packageLine

end Command

/-! ## Runs -/

/-- The name of the variable that holds a log filter. -/
def filterVariable : String := "RUST_LOG"

namespace Invocation

/-- The settings of a run, which has a switch for `JSON` logs of its own. -/
def settings (i : Invocation) (s : Settings) : Settings :=
  { s with logging := { s.logging with json := i.jsonLogs || s.logging.json } }

/-- The code of a run that breaks off before its command begins. -/
def brokenOffCode : Nat := 101

/-- The outcome of a run. The log begins when the settings are known; it holds the events that the
filter lets through. Without a filter the run breaks off. -/
def run (i : Invocation) (store : FileStore) (lookup : String → Option String) : Outcome :=
  match Settings.load store i.file lookup with
  | .error e => { Outcome.failed e with events := [] }
  | .ok loaded =>
    let s := i.settings loaded
    match LogFilter.choose (lookup filterVariable) s.logging.level with
    | none => { code := brokenOffCode }
    | some filter =>
      let o := i.command.perform s store
      { o with events := filter.shown o.events, jsonLogs := s.logging.json }

end Invocation

namespace CommandLine

/-- The name and the version of the program. -/
def programLine : List Char := "gathering-conditions 0.4.0\n".toList

/-- What is shown when help is asked for. -/
def helpText : List Char :=
  ("Usage: gathering-conditions [--config <path>] [--log-json] <command>\n\n" ++
    "Commands:\n" ++
    "  check\n" ++
    "  rules [--user-agent <text>]\n" ++
    "  remote-config --ocp-version <version> [--user-agent <text>]\n" ++
    "  resolve --ocp-version <version> [--cohort <name>]\n" ++
    "  metrics --ocp-version <version>... [--user-agent <text>]\n" ++
    "  config show\n" ++
    "  version\n" ++
    "  help\n").toList

/-- The outcome of arguments that stop before a command is known. -/
def Stop.outcome : Stop → Outcome
  | version => .shown programLine
  | help => .shown helpText
  | refused => { code := 2 }

/-- The outcome of a command line. -/
def run (arguments : List String) (store : FileStore) (lookup : String → Option String) : Outcome :=
  match parse arguments lookup with
  | .error stop => stop.outcome
  | .ok invocation => invocation.run store lookup

end CommandLine

end RemoteRollout
