import RemoteRollout.Cohort
import RemoteRollout.Event

/-!
# Cohort selection

Which cohort serves a request. The id of the requesting cluster stands in the user agent of the
request; a flag evaluator tells whether a cluster takes part in the canary rollout. Whatever
cannot be decided is served from the stable cohort.
-/

namespace RemoteRollout

/-! ## Cluster ids -/

/-- What announces the id of a cluster in a user agent. -/
def clusterMark : List Char := ['c', 'l', 'u', 's', 't', 'e', 'r', '/']

/-- The character ends the id of a cluster. -/
def endsClusterId (c : Char) : Bool := c == ' ' || c == ','

/-- What follows the first mark in a text. -/
def afterClusterMark : List Char → Option (List Char)
  | [] => none
  | c :: rest =>
    if clusterMark.isPrefixOf (c :: rest) then some ((c :: rest).drop clusterMark.length)
    else afterClusterMark rest

/-- The id of the cluster named in a text: what follows the first mark, up to a space or a comma,
and nothing if there is no mark. -/
def clusterId (text : String) : String :=
  match afterClusterMark text.toList with
  | none => ""
  | some rest => String.ofList (rest.takeWhile (!endsClusterId ·))

/-- A request, as far as cohorts depend on it. -/
structure Request where
  userAgent : Option String
deriving DecidableEq, Repr, Inhabited

/-- The id of the requesting cluster, or the empty text. -/
def Request.clusterId (r : Request) : String :=
  match r.userAgent with
  | none => ""
  | some text => RemoteRollout.clusterId text

/-! ## Flag evaluators -/

/-- The flag service could not answer. -/
structure FlagFault where
  reason : String
deriving DecidableEq, Repr

/-- The wording of the fault. -/
def FlagFault.message (f : FlagFault) : String := "flag evaluator unavailable: " ++ f.reason

/-- Tells whether a cluster takes part in the canary rollout. The answer may depend on the ids
asked before, the latest first. -/
structure Evaluator where
  isCanary : List String → String → Except FlagFault Bool

namespace Evaluator

/-- The evaluator with a fixed list of clusters that take part. The empty id never does. -/
def ofList (ids : List String) : Evaluator where
  isCanary _ id := .ok (id ∈ ids.filter (· ≠ ""))

/-- An evaluator that cannot be reached. -/
def unavailable (reason : String) : Evaluator where
  isCanary _ _ := .error ⟨reason⟩

end Evaluator

/-! ## Selection -/

/-- Chooses the cohort of each request. -/
structure Selector where
  enabled : Bool
  evaluator : Option Evaluator

/-- What a selection leads to. -/
structure Selected where
  cohort : Cohort
  /-- The ids that the evaluator has been asked for so far, the latest first. -/
  asked : List String
  events : List Event

namespace Selector

/-- The selector that always chooses the stable cohort. -/
def disabled : Selector := ⟨false, none⟩

/-- The rollout is on, and there is someone to ask. -/
def isEnabled (s : Selector) : Bool := s.enabled && s.evaluator.isSome

/-- An event of cohort selection. -/
def event (level : Level) (message : String) (fields : List (String × FieldValue) := []) : Event where
  level := level
  origin := .selection
  message := message
  fields := fields

/-- What is reported of a new selector: that the rollout is on without anyone to ask. -/
def events (s : Selector) : List Event :=
  if s.enabled && s.evaluator.isNone then
    [event .warn "canary rollout enabled without a flag evaluator, serving stable only"]
  else []

/-- What the evaluator's answer for a cluster leads to. -/
def ofAnswer (id : String) : Except FlagFault Bool → Cohort × List Event
  | .ok true => (.canary, [event .debug "serving canary" [("cluster_id", .text id)]])
  | .ok false => (.stable, [])
  | .error fault =>
    (.stable, [event .warn "flag evaluation failed, serving stable"
      [("cluster_id", .text id), ("error", .text fault.message)]])

/-- The cohort of a request, after these ids have been asked for. -/
def select (s : Selector) (asked : List String) (r : Request) : Selected :=
  match s.enabled, s.evaluator with
  | true, some evaluator =>
    let id := r.clusterId
    if id = "" then
      { cohort := .stable, asked
        events := [event .debug "no cluster id in request, serving stable"] }
    else
      let (cohort, events) := ofAnswer id (evaluator.isCanary asked id)
      { cohort, asked := id :: asked, events }
  | _, _ => { cohort := .stable, asked, events := [] }

/-- The selector as log records show it. -/
def detail (s : Selector) : String :=
  let word (b : Bool) : String := if b then "true" else "false"
  "CohortSelector \x7b enabled: " ++ word s.enabled ++ ", has_flags: " ++
    word s.evaluator.isSome ++ " \x7d"

end Selector

end RemoteRollout
