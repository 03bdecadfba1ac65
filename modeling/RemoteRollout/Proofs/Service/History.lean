import RemoteRollout.Proofs.Service.Queries

/-!
# Histories of a service

What happens to a service over a store of any kind, on disk or in memory. `Service.run` knows the
files that it writes and removes; here the store is not the service's own, and once others have
changed files it is simply another one. A history keeps every moment together with the scene in
which it happened, so that moments can be told apart by what they asked, what they read and how
they were answered.
-/

namespace RemoteRollout

/-- What can happen while a service runs. -/
inductive Happening where
  | ask (q : Query)
  /-- The counter is looked at. -/
  | count (file version : String)
  /-- Files were written or removed: this is the store from now on. -/
  | change (store : FileStore)

/-- A service at work: the store behind it, and what it remembers. -/
structure Scene where
  store : FileStore
  state : ServiceState

/-- Something that happened, and the scene in which it did. -/
structure Moment where
  scene : Scene
  happening : Happening

namespace Service

/-- The answer to what happens, and the scene afterwards. -/
def happen (s : Service) (x : Scene) : Happening → Answer × Scene
  | .ask q =>
    let answered := s.answer x.store x.state q
    (answered.1, { x with state := answered.2 })
  | .count file version =>
    (.count (x.state.metrics.count file version),
      { x with state := { x.state with metrics := x.state.metrics.touch file version } })
  | .change store => (.done, { x with store })

/-- The moments of a run, the earliest first. -/
def history (s : Service) : Scene → List Happening → List Moment
  | _, [] => []
  | x, h :: hs => ⟨x, h⟩ :: s.history (s.happen x h).2 hs

/-- The scene after a run. -/
def outcome (s : Service) (x : Scene) (hs : List Happening) : Scene :=
  hs.foldl (fun x h => (s.happen x h).2) x

end Service

namespace Moment

variable (s : Service) (m : Moment)

/-- What was answered. -/
def answer : Answer := (s.happen m.scene m.happening).1

/-- The scene afterwards. -/
def after : Scene := (s.happen m.scene m.happening).2

/-- The cohort that a query was answered from. -/
def cohortOf (q : Query) : Cohort := s.cohortOf m.scene.state.asked q

/-- The resource that was read. -/
def resource? : Option Path :=
  match m.happening with
  | .ask q => s.resource? (m.cohortOf s q) q
  | .count .. | .change .. => none

/-- What reading a path shows in the scene. -/
def shown (p : Path) : Option Bytes := (m.scene.state.cache.get m.scene.store p).1

/-- The bytes that were read of a path, under any spelling. -/
def read? (p : Path) : Option Bytes :=
  (m.resource? s).bind fun resource =>
    if resource.components = p.components then m.shown resource else none

/-- A request of the cohort for a remote configuration, whose version resolves to the entry. -/
def ResolvesTo (cohort : Cohort) (entry : MapEntry) : Prop :=
  ∃ r text v, m.happening = .ask (.remoteConfiguration r text) ∧ Version.parse text = .ok v ∧
    m.cohortOf s (.remoteConfiguration r text) = cohort ∧
    (s.clusterMap cohort).resolve v = .ok entry

/-- A request of the cohort for its rules. -/
def AsksForRules (cohort : Cohort) : Prop :=
  ∃ r, m.happening = .ask (.rules r) ∧ m.cohortOf s (.rules r) = cohort

variable {s m} {cohort : Cohort} {entry : MapEntry}

/-! ## Answers -/

theorem ResolvesTo.resource?_eq (h : m.ResolvesTo s cohort entry) :
    m.resource? s = some ((s.clusterMap cohort).artifactPath entry.artifact) := by
  obtain ⟨r, text, v, hm, hv, rfl, he⟩ := h
  simp only [resource?, hm, Service.resource?, hv, he]

/-- A request that resolves to an entry is answered with what is shown of the artifact. -/
theorem ResolvesTo.answer_eq (h : m.ResolvesTo s cohort entry) :
    m.answer s = .remoteConfiguration
      (Service.valueOf RemoteConfiguration.read ((s.clusterMap cohort).artifactPath entry.artifact)
        (m.shown ((s.clusterMap cohort).artifactPath entry.artifact))) := by
  obtain ⟨r, text, v, hm, hv, rfl, he⟩ := h
  rw [answer, hm]
  show (s.answer m.scene.store m.scene.state _).1 = _
  rw [Service.answer_eq]
  show s.answerFrom (m.cohortOf s _) _ _ = _
  simp only [Service.answerFrom, hv, he, shown]

theorem AsksForRules.resource?_eq (h : m.AsksForRules s cohort) :
    m.resource? s = some (s.rulesResource cohort) := by
  obtain ⟨r, hm, rfl⟩ := h
  simp only [resource?, hm, Service.resource?]

/-- A request for rules is answered with what is shown of the file of the cohort. -/
theorem AsksForRules.answer_eq (h : m.AsksForRules s cohort) :
    m.answer s = .rules
      (Service.valueOf Rules.read (s.rulesResource cohort) (m.shown (s.rulesResource cohort))) := by
  obtain ⟨r, hm, rfl⟩ := h
  rw [answer, hm]
  show (s.answer m.scene.store m.scene.state _).1 = _
  rw [Service.answer_eq]
  rfl

/-! ## Caches -/

/-- A moment reads its resource through the cache, if it has one. -/
theorem cache_after (s : Service) (m : Moment) :
    (m.after s).state.cache =
      ((m.resource? s).map fun p => (m.scene.state.cache.get m.scene.store p).2.1).getD
        m.scene.state.cache := by
  obtain ⟨x, h⟩ := m
  cases h with
  | ask q => exact Service.answer_cache_eq s x.store x.state q
  | count file version => rfl
  | change store => rfl

/-- What is kept of a path after a moment: what was kept before, or else what was read then. -/
theorem kept_after (s : Service) (m : Moment) (p : Path) :
    (m.after s).state.cache.entries.get? p =
      (m.scene.state.cache.entries.get? p).or (m.read? s p) := by
  rw [cache_after, read?]
  cases m.resource? s with
  | none => exact Option.or_none.symm
  | some resource => exact Cache.get?_entries_get_eq_or ..

/-- Bytes that are read are kept. -/
theorem kept_of_read {p : Path} {bytes : Bytes} (h : m.read? s p = some bytes) :
    (m.after s).state.cache.entries.get? p = some bytes := by
  obtain ⟨resource, hresource, hread⟩ := Option.bind_eq_some_iff.1 h
  by_cases hsame : resource.components = p.components
  · rw [if_pos hsame] at hread
    rw [cache_after, hresource, Option.map_some, Option.getD_some, Cache.get?_entries_get,
      if_pos hsame]
    exact hread
  · rw [if_neg hsame] at hread
    cases hread

end Moment

end RemoteRollout
