/-!
# Cohorts

Every request is served from one of two trees: the stable one, or the canary one that a rollout
tries out first.
-/

namespace RemoteRollout

/-- The group of clusters that a request belongs to. -/
inductive Cohort where
  | stable
  | canary
deriving DecidableEq, Repr, Inhabited

namespace Cohort

/-- The name of the cohort, and of its directory in every tree. -/
def name : Cohort → String
  | stable => "stable"
  | canary => "canary"

/-- A text in lower case, as far as it is `ASCII`. -/
def lowered (s : String) : String := String.ofList (s.toList.map Char.toLower)

/-- No cohort has this name, which is in lower case. -/
structure Unknown where
  name : String
deriving DecidableEq, Repr

/-- The wording of the fault. -/
def Unknown.message (u : Unknown) : String :=
  "unknown cohort '" ++ u.name ++ "', expected stable or canary"

/-- The cohort of this name, in whatever case. -/
def parse (s : String) : Except Unknown Cohort :=
  let name := lowered s
  if name = stable.name then .ok stable
  else if name = canary.name then .ok canary
  else .error ⟨name⟩

end Cohort

end RemoteRollout
