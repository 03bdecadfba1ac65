import RemoteRollout.Rules

/-!
# Remote configurations

What a client of a given version is told to gather: conditional rules, and requests for the logs
of containers.
-/

namespace RemoteRollout

open Json (Tree Reader Layout)

/-- A request for the logs of the containers whose pods have a matching name. -/
structure ContainerLogRequest where
  nameSpace : String
  podNameRegex : String
  previous : Bool := false
  messages : List String := []
deriving DecidableEq, Repr, Inhabited

/-- A remote configuration. -/
structure RemoteConfiguration where
  version : String
  conditionalRules : List Rule := []
  containerLogs : List ContainerLogRequest := []
deriving DecidableEq, Repr, Inhabited

namespace ContainerLogRequest

/-- The fields of a request that have been read. -/
structure Draft where
  nameSpace : Option String := none
  podNameRegex : Option String := none
  previous : Option Bool := none
  messages : Option (List String) := none

/-- The shape of a request. -/
def layout : Layout Draft where
  title := "ContainerLogRequest"
  blank := {}
  fields := [
    .of "namespace" true (·.nameSpace) (fun v d => { d with nameSpace := some v })
      Json.readString,
    .of "pod_name_regex" true (·.podNameRegex) (fun v d => { d with podNameRegex := some v })
      Json.readString,
    .of "previous" false (·.previous) (fun v d => { d with previous := some v }) Json.readBool,
    .of "messages" false (·.messages) (fun v d => { d with messages := some v })
      (Json.readList Json.readString)]

/-- The request with these fields; the others have their defaults. -/
def Draft.complete (d : Draft) : ContainerLogRequest where
  nameSpace := d.nameSpace.getD ""
  podNameRegex := d.podNameRegex.getD ""
  previous := d.previous.getD false
  messages := d.messages.getD []

/-- Reads a request. -/
def read : Reader ContainerLogRequest := fun depth node =>
  (layout.read depth node).map Draft.complete

/-- The request as a tree. -/
def tree (r : ContainerLogRequest) : Tree :=
  .object [
    ("namespace", .string r.nameSpace),
    ("pod_name_regex", .string r.podNameRegex),
    ("previous", .bool r.previous),
    ("messages", .list (r.messages.map .string))]

end ContainerLogRequest

namespace RemoteConfiguration

/-- The fields of a configuration that have been read. -/
structure Draft where
  version : Option String := none
  conditionalRules : Option (List Rule) := none
  containerLogs : Option (List ContainerLogRequest) := none

/-- The shape of a configuration. -/
def layout : Layout Draft where
  title := "RemoteConfiguration"
  blank := {}
  fields := [
    .of "version" true (·.version) (fun v d => { d with version := some v }) Json.readString,
    .of "conditional_gathering_rules" false (·.conditionalRules)
      (fun v d => { d with conditionalRules := some v }) (Json.readList Rule.read),
    .of "container_logs" false (·.containerLogs)
      (fun v d => { d with containerLogs := some v }) (Json.readList ContainerLogRequest.read)]

/-- The configuration with these fields; the others have their defaults. -/
def Draft.complete (d : Draft) : RemoteConfiguration where
  version := d.version.getD ""
  conditionalRules := d.conditionalRules.getD []
  containerLogs := d.containerLogs.getD []

/-- Reads a configuration. -/
def read : Reader RemoteConfiguration := fun depth node =>
  (layout.read depth node).map Draft.complete

/-- The configuration as a tree. -/
def tree (r : RemoteConfiguration) : Tree :=
  .object [
    ("version", .string r.version),
    ("conditional_gathering_rules", .list (r.conditionalRules.map Rule.tree)),
    ("container_logs", .list (r.containerLogs.map ContainerLogRequest.tree))]

end RemoteConfiguration

end RemoteRollout
