import RemoteRollout.ServiceError
import RemoteRollout.Settings
import RemoteRollout.Yaml.Decode

/-!
# Settings in a text

Settings as they are written in a configuration file. All sections and all settings may be left
out, and what the service does not know is passed over.
-/

namespace RemoteRollout

open Yaml (Reader Layout)

/-- Reads a path from a text. -/
def StorageSettings.readPathText : Reader Path := fun d path node =>
  (Yaml.readStringAs "path string" d path node).map Path.mk

/-- The shape of the storage settings in a text. -/
def StorageSettings.textLayout : Layout StorageSettings.Draft where
  title := "StorageConfig"
  blank := {}
  fields := [
    .of "rules_path" (·.rulesPath) (fun v d => { d with rulesPath := some v }) readPathText,
    .of "remote_configuration_path" (·.remoteConfigurationPath)
      (fun v d => { d with remoteConfigurationPath := some v }) readPathText,
    .of "cluster_mapping" (·.clusterMapping) (fun v d => { d with clusterMapping := some v })
      Yaml.readString]

/-- Reads the storage settings from a text. -/
def StorageSettings.readText : Reader StorageSettings := fun d path node =>
  (textLayout.read d path node).map Draft.complete

/-- The shape of the canary settings in a text. -/
def CanarySettings.textLayout : Layout CanarySettings.Draft where
  title := "CanaryConfig"
  blank := {}
  fields := [
    .of "enabled" (·.enabled) (fun v d => { d with enabled := some v }) Yaml.readBool,
    .of "canary_clusters" (·.canaryClusters) (fun v d => { d with canaryClusters := some v })
      (Yaml.readList Yaml.readString)]

/-- Reads the canary settings from a text. -/
def CanarySettings.readText : Reader CanarySettings := fun d path node =>
  (textLayout.read d path node).map Draft.complete

/-- The shape of the logging settings in a text. -/
def LoggingSettings.textLayout : Layout LoggingSettings.Draft where
  title := "LoggingConfig"
  blank := {}
  fields := [
    .of "level" (·.level) (fun v d => { d with level := some v }) Yaml.readString,
    .of "json" (·.json) (fun v d => { d with json := some v }) Yaml.readBool]

/-- Reads the logging settings from a text. -/
def LoggingSettings.readText : Reader LoggingSettings := fun d path node =>
  (textLayout.read d path node).map Draft.complete

namespace Settings

/-- The shape of the settings in a text. -/
def textLayout : Layout Draft where
  title := "ServiceConfig"
  blank := {}
  fields := [
    .of "storage" (·.storage) (fun v d => { d with storage := some v })
      StorageSettings.readText,
    .of "canary" (·.canary) (fun v d => { d with canary := some v }) CanarySettings.readText,
    .of "logging" (·.logging) (fun v d => { d with logging := some v })
      LoggingSettings.readText]

/-- Reads the settings from a text. -/
def readText : Reader Settings := fun d path node =>
  (textLayout.read d path node).map Draft.complete

/-- The error of a text that holds no settings. -/
def textError (fault : Yaml.Fault) : ServiceError :=
  .configInvalid ("cannot parse configuration: " ++ fault.message)

/-- The settings in a text. -/
def ofText (text : String) : Except ServiceError Settings :=
  (Yaml.decode readText text).mapError textError

end Settings

end RemoteRollout
