import RemoteRollout.CommandLine.Outcome

/-!
# The resources of a run

The files that a run may read. Which they are follows from files that come before them: the
configuration file tells where the cluster maps are, and these tell which artifacts there are.
-/

namespace RemoteRollout

/-- The artifacts that a cluster map below this root lists, as far as the map can be read. -/
def ClusterMap.listedArtifacts (root : Path) (bytes : Bytes) : List Path :=
  match Json.decode ClusterMap.readRows bytes with
  | .ok rows => rows.filterMap fun row => (row[1]?).map root.join
  | .error _ => []

/-- The files below the roots of a cohort, as far as the store tells. -/
def Settings.cohortResources (s : Settings) (store : FileStore) (cohort : Cohort) : List Path :=
  let root := Startup.cohortRoot s cohort
  let mapping := root.join s.storage.clusterMapping
  let rules := (s.storage.rulesPath.join cohort.name).join Service.rulesFile
  mapping :: rules ::
    match store.read mapping with
    | .ok bytes => ClusterMap.listedArtifacts root bytes
    | .error _ => []

/-- The files that a run may read, as far as the store tells. -/
def Invocation.resources (i : Invocation) (store : FileStore) (lookup : String → Option String) :
    List Path :=
  i.file.toList ++
    match Settings.load store i.file lookup with
    | .ok s => s.cohortResources store .stable ++ s.cohortResources store .canary
    | .error _ => []

/-- How many times the files must be read until all are known: the configuration file, the cluster
maps, the artifacts. -/
def Invocation.resourceRounds : Nat := 3

/-- The variables that a run looks up. -/
def CommandLine.variables : List String :=
  [filterVariable, CommandLine.fileVariable] ++
    ["RULES_PATH", "REMOTE_CONFIGURATION_PATH", "CLUSTER_MAPPING", "CANARY_ENABLED",
      "CANARY_CLUSTERS", "LOG_LEVEL", "LOG_JSON"].map (Settings.variablePrefix ++ ·)

end RemoteRollout
