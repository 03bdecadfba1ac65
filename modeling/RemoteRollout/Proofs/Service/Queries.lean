import RemoteRollout.Proofs.Service.Requests

/-!
# Queries

The questions that a service answers, and the resource behind an answer. A query is answered from
one cohort, and reads at most one resource of it: `Service.cohortOf` and `Service.resource?` say
which. What is shown of that resource is all that the answer depends on (`answer_eq`), and reading
it is all that a query does to the cache (`answer_cache_eq`).
-/

namespace RemoteRollout

/-- A question that a service answers. -/
inductive Query where
  | rules (r : Request)
  | remoteConfiguration (r : Request) (version : String)
  | artifact (cohort : Cohort) (version : String)
deriving DecidableEq, Repr

/-- What a service answers. -/
inductive Answer where
  | rules (result : Except ServiceError Rules)
  | remoteConfiguration (result : Except ServiceError RemoteConfiguration)
  | artifact (result : Except ServiceError Path)
  /-- What the counter shows. -/
  | count (value : UInt64)
  /-- A change was made. -/
  | done

namespace Service

/-- The answer to a query, and the state afterwards. -/
def answer (s : Service) (store : FileStore) (state : ServiceState) :
    Query → Answer × ServiceState
  | .rules r =>
    let reply := s.rules store state r
    (.rules reply.result, reply.state)
  | .remoteConfiguration r version =>
    let reply := s.remoteConfiguration store state r version
    (.remoteConfiguration reply.result, reply.state)
  | .artifact cohort version => (.artifact (s.resolveArtifact cohort version).1, state)

/-- The answers to some queries, one after the other, and the state after the last. -/
def answers (s : Service) (store : FileStore) :
    ServiceState → List Query → List Answer × ServiceState
  | state, [] => ([], state)
  | state, q :: qs =>
    let first := s.answer store state q
    let rest := s.answers store first.2 qs
    (first.1 :: rest.1, rest.2)

/-! ## Resources -/

variable {s : Service} {cohort : Cohort}

/-- The cohort that a query is answered from, after these ids have been asked for. -/
def cohortOf (s : Service) (asked : List String) : Query → Cohort
  | .rules r | .remoteConfiguration r _ => (s.selector.select asked r).cohort
  | .artifact cohort _ => cohort

/-- The resource that a query reads if it is answered from this cohort. -/
def resource? (s : Service) (cohort : Cohort) : Query → Option Path
  | .rules _ => some (s.rulesResource cohort)
  | .remoteConfiguration _ text =>
    match Version.parse text with
    | .error _ => none
    | .ok v =>
      match (s.clusterMap cohort).resolve v with
      | .error _ => none
      | .ok entry => some ((s.clusterMap cohort).artifactPath entry.artifact)
  | .artifact .. => none

/-- The answer to a query from this cohort, when these bytes are shown of the resources. -/
def answerFrom (s : Service) (cohort : Cohort) (shown : Path → Option Bytes) : Query → Answer
  | .rules _ =>
    .rules (valueOf Rules.read (s.rulesResource cohort) (shown (s.rulesResource cohort)))
  | .remoteConfiguration _ text =>
    match Version.parse text with
    | .error fault => .remoteConfiguration (.error (badVersion text fault))
    | .ok v =>
      match (s.clusterMap cohort).resolve v with
      | .error e => .remoteConfiguration (.error e)
      | .ok entry =>
        let p := (s.clusterMap cohort).artifactPath entry.artifact
        .remoteConfiguration (valueOf RemoteConfiguration.read p (shown p))
  | .artifact cohort text => .artifact (s.resolveArtifact cohort text).1

/-- An answer depends on what is shown of the resource that the query reads, and on no other. -/
theorem answerFrom_congr {shown shown' : Path → Option Bytes} {q : Query}
    (h : ∀ p, s.resource? cohort q = some p → shown p = shown' p) :
    s.answerFrom cohort shown q = s.answerFrom cohort shown' q := by
  cases q with
  | artifact c text => rfl
  | rules r => rw [answerFrom, answerFrom, h _ rfl]
  | remoteConfiguration r text =>
    cases hv : Version.parse text with
    | error fault => simp only [answerFrom, hv]
    | ok v =>
      cases he : (s.clusterMap cohort).resolve v with
      | error e => simp only [answerFrom, hv, he]
      | ok entry =>
        have hp := h ((s.clusterMap cohort).artifactPath entry.artifact)
          (by simp only [resource?, hv, he])
        simp only [answerFrom, hv, he, hp]

variable {store : FileStore} {state : ServiceState} {q : Query}

theorem answer_eq (s : Service) (store : FileStore) (state : ServiceState) (q : Query) :
    (s.answer store state q).1 =
      s.answerFrom (s.cohortOf state.asked q) (fun p => (state.cache.get store p).1) q := by
  cases q with
  | artifact c text => rfl
  | rules r =>
    show Answer.rules (s.rules store state r).result = _
    rw [rules_result]
    rfl
  | remoteConfiguration r text =>
    show Answer.remoteConfiguration (s.remoteConfiguration store state r text).result = _
    cases hv : Version.parse text with
    | error fault =>
      rw [(remoteConfiguration_of_badVersion hv).1]
      simp only [answerFrom, hv]
    | ok v =>
      cases he : s.entryFor state.asked r v with
      | error e =>
        rw [(remoteConfiguration_of_noEntry hv he).1]
        unfold entryFor at he
        simp only [answerFrom, cohortOf, hv, he]
      | ok entry =>
        rw [(remoteConfiguration_of_entry hv he).1]
        unfold entryFor at he
        simp only [answerFrom, cohortOf, hv, he, resourceFor]

/-- The cache after a query: its resource has been read, if it has one. -/
theorem answer_cache_eq (s : Service) (store : FileStore) (state : ServiceState) (q : Query) :
    (s.answer store state q).2.cache =
      ((s.resource? (s.cohortOf state.asked q) q).map
        fun p => (state.cache.get store p).2.1).getD state.cache := by
  cases q with
  | artifact c text => rfl
  | rules r =>
    show (s.rules store state r).state.cache = _
    rw [rules_state]
    rfl
  | remoteConfiguration r text =>
    show (s.remoteConfiguration store state r text).state.cache = _
    cases hv : Version.parse text with
    | error fault =>
      rw [(remoteConfiguration_of_badVersion hv).2]
      simp only [resource?, hv, Option.map_none, Option.getD_none]
    | ok v =>
      cases he : s.entryFor state.asked r v with
      | error e =>
        rw [(remoteConfiguration_of_noEntry hv he).2]
        unfold entryFor at he
        simp only [resource?, cohortOf, hv, he, Option.map_none, Option.getD_none]
      | ok entry =>
        rw [(remoteConfiguration_of_entry hv he).2]
        unfold entryFor at he
        simp only [resource?, cohortOf, hv, he, resourceFor, Option.map_some, Option.getD_some]

/-- A query reads one path through the cache, or leaves it alone. -/
theorem answer_cache (s : Service) (store : FileStore) (state : ServiceState) (q : Query) :
    (s.answer store state q).2.cache = state.cache ∨
      ∃ p, (s.answer store state q).2.cache = (state.cache.get store p).2.1 := by
  rw [answer_cache_eq]
  cases s.resource? (s.cohortOf state.asked q) q with
  | none => exact .inl rfl
  | some p => exact .inr ⟨p, rfl⟩

end Service

end RemoteRollout
