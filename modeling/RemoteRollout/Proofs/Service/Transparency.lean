import RemoteRollout.Proofs.Service.Run
import RemoteRollout.Proofs.Startup

/-!
# The cache is not seen

The reference is a service that keeps no resources: `answerAfresh` reads the store for every
query, and remembers nothing but its metrics and the ids it has asked the evaluator for. A cache
that is transparent after start-up stays so at every query, and as long as it is, the two services
answer alike and count alike.
-/

namespace RemoteRollout

/-! ## Reading afresh -/

/-- What a service without a cache remembers between requests. -/
structure Memory where
  metrics : Metrics := {}
  asked : List String := []
deriving DecidableEq, Repr

/-- What a service remembers besides its cache. -/
def ServiceState.memory (state : ServiceState) : Memory := ⟨state.metrics, state.asked⟩

namespace Service

/-- The value in a resource, read from the store. -/
def fetchAfresh {α : Type} (read : Json.Reader α) (store : FileStore) (p : Path) :
    Except ServiceError α :=
  match store.read p with
  | .error _ => .error (missing p)
  | .ok bytes => decodeResource read p bytes

/-- The answer to a query without a cache, and what is remembered afterwards. -/
def answerAfresh (s : Service) (store : FileStore) (memory : Memory) : Query → Answer × Memory
  | .rules r =>
    let selected := s.selector.select memory.asked r
    (.rules (fetchAfresh Rules.read store (s.rulesResource selected.cohort)),
      { memory with asked := selected.asked })
  | .remoteConfiguration r version =>
    match Version.parse version with
    | .error fault => (.remoteConfiguration (.error (badVersion version fault)), memory)
    | .ok v =>
      let selected := s.selector.select memory.asked r
      let m := s.clusterMap selected.cohort
      match m.resolve v with
      | .error e => (.remoteConfiguration (.error e), { memory with asked := selected.asked })
      | .ok entry =>
        let result := fetchAfresh RemoteConfiguration.read store (m.artifactPath entry.artifact)
        (.remoteConfiguration result,
          { metrics := counted memory.metrics entry result, asked := selected.asked })
  | .artifact cohort version => (.artifact (s.resolveArtifact cohort version).1, memory)

/-- The answers to some queries without a cache, and what is remembered after the last. -/
def answersAfresh (s : Service) (store : FileStore) : Memory → List Query → List Answer × Memory
  | memory, [] => ([], memory)
  | memory, q :: qs =>
    let first := s.answerAfresh store memory q
    let rest := s.answersAfresh store first.2 qs
    (first.1 :: rest.1, rest.2)

/-! ## Behind a transparent cache -/

open ClusterMap (LoadedThrough)

variable {s : Service} {files : MemoryStore} {state : ServiceState}

/-- Reading through a transparent cache is reading afresh. -/
theorem valueOf_get_of_transparent {α : Type} (read : Json.Reader α) {c : Cache}
    (h : c.Transparent files) (p : Path) :
    valueOf read p (c.get files.fileStore p).1 = fetchAfresh read files.fileStore p := by
  rw [Cache.get_answers, h p, fetchAfresh]
  dsimp only [MemoryStore.fileStore]
  cases files.get? p with
  | none => rfl
  | some bytes => rfl

/-- A query keeps the cache transparent, whatever it is answered. -/
theorem transparent_answer (h : state.cache.Transparent files) (q : Query) :
    (s.answer files.fileStore state q).2.cache.Transparent files := by
  rcases s.answer_cache files.fileStore state q with hcache | ⟨p, hcache⟩
  · rwa [hcache]
  · rw [hcache]
    exact h.get p

/-- Behind a transparent cache a query is answered as without one. -/
theorem answer_of_transparent (h : state.cache.Transparent files) (q : Query) :
    (s.answer files.fileStore state q).1 =
        (s.answerAfresh files.fileStore state.memory q).1 ∧
      (s.answer files.fileStore state q).2.memory =
        (s.answerAfresh files.fileStore state.memory q).2 := by
  cases q with
  | artifact cohort version => exact ⟨rfl, rfl⟩
  | rules r =>
    dsimp only [answer, answerAfresh]
    rw [rules_result, rules_state, valueOf_get_of_transparent Rules.read h]
    exact ⟨rfl, rfl⟩
  | remoteConfiguration r version =>
    dsimp only [answer, answerAfresh]
    cases hv : Version.parse version with
    | error fault =>
      obtain ⟨hresult, hstate⟩ := remoteConfiguration_of_badVersion hv
      rw [hresult, hstate]
      exact ⟨rfl, rfl⟩
    | ok v =>
      cases he : s.entryFor state.asked r v with
      | error e =>
        obtain ⟨hresult, hstate⟩ := remoteConfiguration_of_noEntry hv he
        rw [hresult, hstate]
        unfold entryFor at he
        simp only [ServiceState.memory, he]
        exact ⟨trivial, trivial⟩
      | ok entry =>
        obtain ⟨hresult, hstate⟩ := remoteConfiguration_of_entry hv he
        rw [hstate, hresult, valueOf_get_of_transparent RemoteConfiguration.read h]
        unfold entryFor at he
        simp only [ServiceState.memory, he]
        exact ⟨rfl, rfl⟩

/-- Behind a transparent cache a run of queries is answered as without one. -/
theorem answers_of_transparent (h : state.cache.Transparent files) (qs : List Query) :
    (s.answers files.fileStore state qs).1 =
        (s.answersAfresh files.fileStore state.memory qs).1 ∧
      (s.answers files.fileStore state qs).2.memory =
        (s.answersAfresh files.fileStore state.memory qs).2 := by
  -- The state changes from query to query; that the cache is transparent does not.
  induction qs generalizing state with
  | nil => exact ⟨rfl, rfl⟩
  | cons q qs ih =>
    obtain ⟨hfirst, hmemory⟩ := answer_of_transparent (s := s) h q
    obtain ⟨hrest, hlast⟩ := ih (transparent_answer (s := s) h q)
    rw [hmemory] at hrest hlast
    dsimp only [answers, answersAfresh]
    exact ⟨by rw [hfirst, hrest], hlast⟩

/-- **The cache is not seen**: behind a cache that maps were loaded through, and in front of files
that stay as they are, queries are answered and counted as by a service that reads the store
afresh for each of them; and the maps are those that are loaded afresh. -/
theorem answers_eq_answersAfresh {ms : List ClusterMap} (h : LoadedThrough files state.cache ms)
    (qs : List Query) :
    (∀ m ∈ ms, ∃ root name, ClusterMap.loadAfresh root name files.fileStore = .ok m) ∧
      (s.answers files.fileStore state qs).1 =
        (s.answersAfresh files.fileStore state.memory qs).1 ∧
      (s.answers files.fileStore state qs).2.metrics =
        (s.answersAfresh files.fileStore state.memory qs).2.metrics := by
  obtain ⟨hanswers, hmemory⟩ := answers_of_transparent (s := s) h.transparent qs
  refine ⟨?_, hanswers, congrArg Memory.metrics hmemory⟩
  intro m hm
  exact h.exists_loadAfresh hm

/-- Queries of both cohorts, one of them twice. -/
def bothCohorts : List Query :=
  [.remoteConfiguration ⟨some "cluster/c1"⟩ "1.5.0", .rules ⟨none⟩,
    .remoteConfiguration ⟨some "cluster/c1"⟩ "1.5.0", .artifact .stable "2.0.0",
    .remoteConfiguration ⟨none⟩ "2.0.0"]

theorem slashedFiles_not_seen :
    ∃ s state, (Startup.start Startup.slashedSettings none Startup.slashedFiles.fileStore).result =
        .ok (s, state) ∧
      (s.answers Startup.slashedFiles.fileStore state bothCohorts).1 =
        (s.answersAfresh Startup.slashedFiles.fileStore state.memory bothCohorts).1 ∧
      (s.answers Startup.slashedFiles.fileStore state bothCohorts).2.metrics =
        (s.answersAfresh Startup.slashedFiles.fileStore state.memory bothCohorts).2.metrics := by
  obtain ⟨s, state, h⟩ := Startup.start_slashedFiles
  obtain ⟨ms, hload, -⟩ := Startup.validated_of_start h
  obtain ⟨-, hanswers, hmetrics⟩ := answers_eq_answersAfresh (s := s) hload bothCohorts
  exact ⟨s, state, h, hanswers, hmetrics⟩

end Service

end RemoteRollout
