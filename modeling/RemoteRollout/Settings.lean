import RemoteRollout.Json.Decode
import RemoteRollout.Storage.Path
import RemoteRollout.Text.Characters

/-!
# Settings

What the service is configured with: where its data lie, the canary rollout, and the log output.
Every setting has a default, and an environment variable that overrides it.
-/

namespace RemoteRollout

open Json (Tree Reader Layout)

/-- Where the data lie. -/
structure StorageSettings where
  rulesPath : Path := ⟨"./conditions"⟩
  remoteConfigurationPath : Path := ⟨"./remote-configurations"⟩
  /-- The name of the cluster map in the directory of a cohort. -/
  clusterMapping : String := "cluster_version_mapping.json"
deriving DecidableEq, Repr, Inhabited

/-- The canary rollout. -/
structure CanarySettings where
  enabled : Bool := false
  /-- The ids of the clusters that take part. -/
  canaryClusters : List String := []
deriving DecidableEq, Repr, Inhabited

/-- The log output. -/
structure LoggingSettings where
  level : String := "info"
  json : Bool := false
deriving DecidableEq, Repr, Inhabited

/-- What the service is configured with. -/
structure Settings where
  storage : StorageSettings := {}
  canary : CanarySettings := {}
  logging : LoggingSettings := {}
deriving DecidableEq, Repr, Inhabited

/-! ## As JSON -/

namespace StorageSettings

/-- The settings that have been read. -/
structure Draft where
  rulesPath : Option Path := none
  remoteConfigurationPath : Option Path := none
  clusterMapping : Option String := none

/-- The settings, with defaults for those not read. -/
def Draft.complete (d : Draft) : StorageSettings where
  rulesPath := d.rulesPath.getD ({} : StorageSettings).rulesPath
  remoteConfigurationPath :=
    d.remoteConfigurationPath.getD ({} : StorageSettings).remoteConfigurationPath
  clusterMapping := d.clusterMapping.getD ({} : StorageSettings).clusterMapping

/-- Reads a path. -/
def readPath : Reader Path := fun depth node =>
  (Json.readStringAs "path string" depth node).map Path.mk

/-- The shape of the settings. -/
def layout : Layout Draft where
  title := "StorageConfig"
  blank := {}
  fields := [
    .of "rules_path" false (·.rulesPath) (fun v d => { d with rulesPath := some v }) readPath,
    .of "remote_configuration_path" false (·.remoteConfigurationPath)
      (fun v d => { d with remoteConfigurationPath := some v }) readPath,
    .of "cluster_mapping" false (·.clusterMapping)
      (fun v d => { d with clusterMapping := some v }) Json.readString]

/-- Reads the settings. -/
def read : Reader StorageSettings := fun depth node =>
  (layout.read depth node).map Draft.complete

/-- The settings as a tree. -/
def tree (s : StorageSettings) : Tree :=
  .object [
    ("rules_path", .string s.rulesPath.text),
    ("remote_configuration_path", .string s.remoteConfigurationPath.text),
    ("cluster_mapping", .string s.clusterMapping)]

end StorageSettings

namespace CanarySettings

/-- The settings that have been read. -/
structure Draft where
  enabled : Option Bool := none
  canaryClusters : Option (List String) := none

/-- The settings, with defaults for those not read. -/
def Draft.complete (d : Draft) : CanarySettings where
  enabled := d.enabled.getD false
  canaryClusters := d.canaryClusters.getD []

/-- The shape of the settings. -/
def layout : Layout Draft where
  title := "CanaryConfig"
  blank := {}
  fields := [
    .of "enabled" false (·.enabled) (fun v d => { d with enabled := some v }) Json.readBool,
    .of "canary_clusters" false (·.canaryClusters)
      (fun v d => { d with canaryClusters := some v }) (Json.readList Json.readString)]

/-- Reads the settings. -/
def read : Reader CanarySettings := fun depth node =>
  (layout.read depth node).map Draft.complete

/-- The settings as a tree. -/
def tree (s : CanarySettings) : Tree :=
  .object [
    ("enabled", .bool s.enabled),
    ("canary_clusters", .list (s.canaryClusters.map .string))]

end CanarySettings

namespace LoggingSettings

/-- The settings that have been read. -/
structure Draft where
  level : Option String := none
  json : Option Bool := none

/-- The settings, with defaults for those not read. -/
def Draft.complete (d : Draft) : LoggingSettings where
  level := d.level.getD ({} : LoggingSettings).level
  json := d.json.getD false

/-- The shape of the settings. -/
def layout : Layout Draft where
  title := "LoggingConfig"
  blank := {}
  fields := [
    .of "level" false (·.level) (fun v d => { d with level := some v }) Json.readString,
    .of "json" false (·.json) (fun v d => { d with json := some v }) Json.readBool]

/-- Reads the settings. -/
def read : Reader LoggingSettings := fun depth node =>
  (layout.read depth node).map Draft.complete

/-- The settings as a tree. -/
def tree (s : LoggingSettings) : Tree :=
  .object [("level", .string s.level), ("json", .bool s.json)]

end LoggingSettings

namespace Settings

/-- The settings that have been read. -/
structure Draft where
  storage : Option StorageSettings := none
  canary : Option CanarySettings := none
  logging : Option LoggingSettings := none

/-- The settings, with defaults for those not read. -/
def Draft.complete (d : Draft) : Settings where
  storage := d.storage.getD {}
  canary := d.canary.getD {}
  logging := d.logging.getD {}

/-- The shape of the settings. -/
def layout : Layout Draft where
  title := "ServiceConfig"
  blank := {}
  fields := [
    .of "storage" false (·.storage) (fun v d => { d with storage := some v })
      StorageSettings.read,
    .of "canary" false (·.canary) (fun v d => { d with canary := some v }) CanarySettings.read,
    .of "logging" false (·.logging) (fun v d => { d with logging := some v })
      LoggingSettings.read]

/-- Reads the settings. -/
def read : Reader Settings := fun depth node => (layout.read depth node).map Draft.complete

/-- The settings as a tree. -/
def tree (s : Settings) : Tree :=
  .object [
    ("storage", s.storage.tree),
    ("canary", s.canary.tree),
    ("logging", s.logging.tree)]

/-! ## Environment variables -/

/-- What the names of all environment variables of the service begin with. -/
def variablePrefix : String := "GATHERING_CONDITIONS_"

/-- The value of a switch: on for `1` and for `true` in whatever case. -/
def switchValue (text : String) : Bool :=
  text == "1" || text.toList.map Char.toLower == ['t', 'r', 'u', 'e']

/-- The items of a list: the pieces between commas without the white space around them, unless
nothing is left. -/
def listItems (text : String) : List String :=
  (((Text.pieces ',' text.toList).map Text.trimmed).filter (!·.isEmpty)).map String.ofList

/-- The settings with the overrides that these variables hold. -/
def withVariables (s : Settings) (lookup : String → Option String) : Settings :=
  let override (name : String) : Option String := lookup (variablePrefix ++ name)
  { storage := {
      rulesPath := ((override "RULES_PATH").map Path.mk).getD s.storage.rulesPath
      remoteConfigurationPath := ((override "REMOTE_CONFIGURATION_PATH").map Path.mk).getD
        s.storage.remoteConfigurationPath
      clusterMapping := (override "CLUSTER_MAPPING").getD s.storage.clusterMapping }
    canary := {
      enabled := ((override "CANARY_ENABLED").map switchValue).getD s.canary.enabled
      canaryClusters := ((override "CANARY_CLUSTERS").map listItems).getD
        s.canary.canaryClusters }
    logging := {
      level := (override "LOG_LEVEL").getD s.logging.level
      json := ((override "LOG_JSON").map switchValue).getD s.logging.json } }

end Settings

end RemoteRollout
