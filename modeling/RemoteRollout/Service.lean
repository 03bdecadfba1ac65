import RemoteRollout.ClusterMap
import RemoteRollout.Metrics
import RemoteRollout.RemoteConfiguration
import RemoteRollout.Selection

/-!
# The service

What a request is answered: the rules of its cohort, or the remote configuration that the cohort's
cluster map selects for the version of its cluster. Resources come through the cache, and every
remote configuration that is served is counted.
-/

namespace RemoteRollout

/-- The parts of the service that never change. -/
structure Service where
  rulesPath : Path
  stable : ClusterMap
  canary : ClusterMap
  selector : Selector

/-- What the service remembers between requests. -/
structure ServiceState where
  cache : Cache := {}
  metrics : Metrics := {}
  /-- The ids that the flag evaluator has been asked for, the latest first. -/
  asked : List String := []
deriving Inhabited

/-- The answer to a request, the state afterwards, and what is reported. -/
structure Reply (α : Type) where
  result : Except ServiceError α
  state : ServiceState
  events : List Event

/-- An event of the service. -/
def Service.event (level : Level) (message : String) (fields : List (String × FieldValue)) :
    Event where
  level := level
  origin := .service
  message := message
  fields := fields

/-! ## Resources -/

/-- What fetching a resource leads to. -/
structure Fetched (α : Type) where
  result : Except ServiceError α
  cache : Cache
  events : List Event

namespace Service

/-- The error of a request whose resource is missing. -/
def missing (p : Path) : ServiceError := .notFound ("store data not found for '" ++ p.text ++ "'")

/-- The error of a request whose resource is no value of the wanted shape. -/
def undecodable (p : Path) (fault : Json.LocatedFault) : ServiceError :=
  .internal ("cannot decode '" ++ p.text ++ "': " ++ fault.message)

/-- The value in the bytes of a resource. -/
def decodeResource {α : Type} (read : Json.Reader α) (p : Path) (bytes : Bytes) :
    Except ServiceError α :=
  (Json.decode read bytes).mapError (undecodable p)

/-- What is reported when the bytes of a resource are decoded. -/
def decodeEvents {α : Type} (read : Json.Reader α) (p : Path) (bytes : Bytes) : List Event :=
  match Json.decode read bytes with
  | .ok _ => []
  | .error fault =>
    [event .error "cannot decode resource"
      [("path", .text p.text), ("error", .text fault.message)]]

/-- The value in a resource, read through the cache. -/
def fetch {α : Type} (read : Json.Reader α) (store : FileStore) (cache : Cache) (p : Path) :
    Fetched α :=
  match cache.get store p with
  | (none, cache, event) => { result := .error (missing p), cache, events := [event] }
  | (some bytes, cache, event) =>
    { result := decodeResource read p bytes, cache, events := event :: decodeEvents read p bytes }

/-! ## Requests -/

/-- The name of the file with the rules of a cohort. -/
def rulesFile : String := "rules.json"

/-- The path of the rules of a cohort. -/
def rulesResource (s : Service) (cohort : Cohort) : Path :=
  (s.rulesPath.join cohort.name).join rulesFile

/-- The cluster map of a cohort. -/
def clusterMap (s : Service) : Cohort → ClusterMap
  | .stable => s.stable
  | .canary => s.canary

/-- The error of a request whose version is none. -/
def badVersion (text : String) (fault : Version.Fault) : ServiceError :=
  .invalidArgument "ocpVersion" text fault.message

/-- What is reported of a request whose version is none. -/
def badVersionEvent (text : String) (fault : Version.Fault) : Event :=
  event .error "invalid semver" [("ocp_version", .text text), ("error", .text fault.message)]

/-- The rules for a request. -/
def rules (s : Service) (store : FileStore) (state : ServiceState) (r : Request) :
    Reply Rules :=
  let selected := s.selector.select state.asked r
  let fetched := fetch Rules.read store state.cache (s.rulesResource selected.cohort)
  let served :=
    match fetched.result with
    | .ok rules =>
      [event .debug "serving gathering rules"
        [("cohort", .text selected.cohort.name), ("rules", .count rules.rules.length)]]
    | .error _ => []
  { result := fetched.result
    state := { state with asked := selected.asked, cache := fetched.cache }
    events := selected.events ++ fetched.events ++ served }

/-- The remote configuration for a request of a cluster of this version. -/
def remoteConfiguration (s : Service) (store : FileStore) (state : ServiceState) (r : Request)
    (version : String) : Reply RemoteConfiguration :=
  match Version.parse version with
  | .error fault =>
    { result := .error (badVersion version fault), state
      events := [badVersionEvent version fault] }
  | .ok v =>
    let selected := s.selector.select state.asked r
    let state := { state with asked := selected.asked }
    let m := s.clusterMap selected.cohort
    match m.resolve v with
    | .error e => { result := .error e, state, events := selected.events }
    | .ok entry =>
      let fetched := fetch RemoteConfiguration.read store state.cache (m.artifactPath entry.artifact)
      let state := { state with cache := fetched.cache }
      let events := selected.events ++ ClusterMap.resolvedEvent v entry :: fetched.events
      match fetched.result with
      | .error e => { result := .error e, state, events }
      | .ok configuration =>
        { result := .ok configuration
          state := { state with
            metrics := state.metrics.record entry.artifact configuration.version }
          events := events ++
            [event .debug "serving remote configuration"
              [("cohort", .text selected.cohort.name), ("ocp_version", .text v.text),
                ("artifact", .text entry.artifact), ("version", .text configuration.version)]] }

/-- The path of the artifact that a cohort is served for a version, and what is reported. -/
def resolveArtifact (s : Service) (cohort : Cohort) (version : String) :
    Except ServiceError Path × List Event :=
  match Version.parse version with
  | .error fault => (.error (badVersion version fault), [badVersionEvent version fault])
  | .ok v =>
    let m := s.clusterMap cohort
    match m.resolve v with
    | .error e => (.error e, [])
    | .ok entry => (.ok (m.artifactPath entry.artifact), [ClusterMap.resolvedEvent v entry])

/-- The service as log records show it. -/
def detail (s : Service) : String :=
  "ConfigResolver \x7b rules_path: " ++ Text.quotedPath s.rulesPath.text ++
    ", stable: " ++ Text.quotedPath s.stable.root.text ++
    ", canary: " ++ Text.quotedPath s.canary.root.text ++
    ", selector: " ++ s.selector.detail ++ ", .. \x7d"

end Service

end RemoteRollout
