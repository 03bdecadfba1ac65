import RemoteRollout.Json.Decode

/-!
# Gathering rules

The conditional gathering rules that a client is given. What a rule's conditions and gathering
functions say is none of the service's business: they are passed on as they are.
-/

namespace RemoteRollout

open Json (Tree Reader Layout Field)

/-- A conditional gathering rule. -/
structure Rule where
  conditions : List Tree := []
  gatheringFunctions : Tree := .null
deriving DecidableEq, Repr, Inhabited

/-- The rules of a cohort. -/
structure Rules where
  version : String := ""
  rules : List Rule := []
deriving DecidableEq, Repr, Inhabited

namespace Rule

/-- The fields of a rule that have been read. -/
structure Draft where
  conditions : Option (List Tree) := none
  gatheringFunctions : Option Tree := none

/-- The shape of a rule. -/
def layout : Layout Draft where
  title := "Rule"
  blank := {}
  fields := [
    .of "conditions" false (·.conditions) (fun v d => { d with conditions := some v })
      (Json.readList Json.readTree),
    .of "gathering_functions" false (·.gatheringFunctions)
      (fun v d => { d with gatheringFunctions := some v }) Json.readTree]

/-- The rule with these fields; the others have their defaults. -/
def Draft.complete (d : Draft) : Rule where
  conditions := d.conditions.getD []
  gatheringFunctions := d.gatheringFunctions.getD .null

/-- Reads a rule. -/
def read : Reader Rule := fun depth node => (layout.read depth node).map Draft.complete

/-- The rule as a tree, without what it leaves empty. -/
def tree (r : Rule) : Tree :=
  .object <|
    (if r.conditions.isEmpty then [] else [("conditions", .list r.conditions)]) ++
    (if r.gatheringFunctions = .null then []
      else [("gathering_functions", r.gatheringFunctions)])

end Rule

namespace Rules

/-- The fields of a set of rules that have been read. -/
structure Draft where
  version : Option String := none
  rules : Option (List Rule) := none

/-- The shape of a set of rules. -/
def layout : Layout Draft where
  title := "Rules"
  blank := {}
  fields := [
    .of "version" false (·.version) (fun v d => { d with version := some v }) Json.readString,
    .of "rules" false (·.rules) (fun v d => { d with rules := some v })
      (Json.readList Rule.read)]

/-- The rules with these fields; the others have their defaults. -/
def Draft.complete (d : Draft) : Rules where
  version := d.version.getD ""
  rules := d.rules.getD []

/-- Reads a set of rules. -/
def read : Reader Rules := fun depth node => (layout.read depth node).map Draft.complete

/-- The rules as a tree. -/
def tree (r : Rules) : Tree :=
  .object [("version", .string r.version), ("rules", .list (r.rules.map Rule.tree))]

end Rules

end RemoteRollout
