import RemoteRollout.Service
import RemoteRollout.Settings

/-!
# Start-up

The service starts only if the cluster maps of both cohorts are valid, whether the canary rollout
is on or not. The stable map is loaded first; both go through the cache that requests will use.
-/

namespace RemoteRollout

namespace Startup

/-- What loading the two maps leads to. -/
structure Maps where
  result : Except LoadFault (ClusterMap × ClusterMap)
  cache : Cache
  events : List Event

/-- The maps of the stable and the canary cohort, each below its root. -/
def loadMaps (stableRoot canaryRoot : Path) (mappingName : String) (store : FileStore)
    (cache : Cache) : Maps :=
  let stable := ClusterMap.load stableRoot mappingName store cache
  match stable.result with
  | .error fault => { result := .error fault, cache := stable.cache, events := stable.events }
  | .ok stableMap =>
    let canary := ClusterMap.load canaryRoot mappingName store stable.cache
    { result := canary.result.map fun canaryMap => (stableMap, canaryMap)
      cache := canary.cache
      events := stable.events ++ canary.events }

/-- The evaluator of a service: the given one, or else one for the listed clusters, if there are
any. -/
def evaluator (s : Settings) (given : Option Evaluator) : Option Evaluator :=
  given.or (if s.canary.canaryClusters.isEmpty then none
    else some (.ofList s.canary.canaryClusters))

/-- The selector of a service. -/
def selector (s : Settings) (given : Option Evaluator) : Selector :=
  ⟨s.canary.enabled, evaluator s given⟩

/-- The directory of a cohort's remote configurations. -/
def cohortRoot (s : Settings) (cohort : Cohort) : Path :=
  s.storage.remoteConfigurationPath.join cohort.name

/-- The event of a service that is ready. -/
def readyEvent (s : Settings) (selector : Selector) : Event :=
  Service.event .info "resolver ready"
    [("rules_path", .text s.storage.rulesPath.text),
      ("remote_configuration_path", .text s.storage.remoteConfigurationPath.text),
      ("canary", .flag selector.isEnabled)]

/-- What a start-up leads to. -/
structure Started where
  result : Except ServiceError (Service × ServiceState)
  events : List Event

/-- The service with these settings. -/
def start (s : Settings) (given : Option Evaluator) (store : FileStore) : Started :=
  let maps := loadMaps (cohortRoot s .stable) (cohortRoot s .canary) s.storage.clusterMapping
    store {}
  match maps.result with
  | .error fault => { result := .error fault.error, events := maps.events }
  | .ok (stable, canary) =>
    let selector := selector s given
    { result := .ok ({ rulesPath := s.storage.rulesPath, stable, canary, selector },
        { cache := maps.cache })
      events := maps.events ++ selector.events ++ [readyEvent s selector] }

end Startup

end RemoteRollout
