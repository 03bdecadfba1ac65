import RemoteRollout.Service
import RemoteRollout.Proofs.Storage.ReadThrough

/-!
# What a request leads to

One equation for each way a request can go: its result, and the state it leaves behind. Nothing
else about requests looks into their definitions.
-/

namespace RemoteRollout

/-- The result is an error of this class. -/
def FailsWith {α : Type} (result : Except ServiceError α) (kind : ServiceError.Kind) : Prop :=
  ∃ e, result = .error e ∧ e.kind = kind

@[simp] theorem failsWith_ok {α : Type} {a : α} {kind : ServiceError.Kind} :
    ¬ FailsWith (.ok a) kind := by
  rintro ⟨e, h, -⟩
  cases h

@[simp] theorem failsWith_error {α : Type} {e : ServiceError} {kind : ServiceError.Kind} :
    FailsWith (.error e : Except ServiceError α) kind ↔ e.kind = kind := by
  constructor
  · rintro ⟨e', h, hkind⟩
    cases h
    exact hkind
  · exact fun hkind => ⟨e, rfl, hkind⟩

namespace Service

variable {α : Type} {s : Service} {store : FileStore} {state : ServiceState} {r : Request}

/-! ## Resources -/

/-- The value that these bytes of a resource stand for; without any the resource is missing. -/
def valueOf (read : Json.Reader α) (p : Path) : Option Bytes → Except ServiceError α
  | none => .error (missing p)
  | some bytes => decodeResource read p bytes

theorem decodeResource_eq_ok_iff {read : Json.Reader α} {p : Path} {bytes : Bytes} {value : α} :
    decodeResource read p bytes = .ok value ↔ Json.decode read bytes = .ok value := by
  unfold decodeResource
  cases Json.decode read bytes with
  | error fault =>
    constructor
    · intro h
      cases h
    · intro h
      cases h
  | ok decoded =>
    constructor
    · intro h
      cases h
      rfl
    · intro h
      cases h
      rfl

/-- Bytes that are no value of the wanted shape are an internal fault, and nothing else is. -/
theorem failsWith_decodeResource {read : Json.Reader α} {p : Path} {bytes : Bytes}
    {kind : ServiceError.Kind} :
    FailsWith (decodeResource read p bytes) kind ↔
      kind = .internal ∧ ¬ ∃ value, Json.decode read bytes = .ok value := by
  unfold decodeResource
  cases Json.decode read bytes with
  | ok decoded =>
    show FailsWith (.ok decoded) kind ↔ _
    simp
  | error fault =>
    show FailsWith (.error (undecodable p fault)) kind ↔ _
    simp [undecodable, ServiceError.kind, eq_comm]

theorem fetch_result (read : Json.Reader α) (store : FileStore) (c : Cache) (p : Path) :
    (fetch read store c p).result = valueOf read p (c.get store p).1 := by
  unfold fetch
  split
  · next h => rw [h]; rfl
  · next h => rw [h]; rfl

theorem fetch_cache (read : Json.Reader α) (store : FileStore) (c : Cache) (p : Path) :
    (fetch read store c p).cache = (c.get store p).2.1 := by
  unfold fetch
  split
  · next h => rw [h]
  · next h => rw [h]

/-! ## Rules -/

theorem rules_result :
    (s.rules store state r).result =
      valueOf Rules.read (s.rulesResource (s.selector.select state.asked r).cohort)
        (state.cache.get store (s.rulesResource (s.selector.select state.asked r).cohort)).1 :=
  fetch_result ..

theorem rules_state :
    (s.rules store state r).state =
      { cache :=
          (state.cache.get store (s.rulesResource (s.selector.select state.asked r).cohort)).2.1
        metrics := state.metrics
        asked := (s.selector.select state.asked r).asked } := by
  rw [← fetch_cache Rules.read]
  rfl

/-! ## Remote configurations -/

/-- The metrics after a request for an entry: only what has been served counts. -/
def counted (metrics : Metrics) (entry : MapEntry) :
    Except ServiceError RemoteConfiguration → Metrics
  | .ok configuration => metrics.record entry.artifact configuration.version
  | .error _ => metrics

/-- The entry for a version in the map of the cohort of a request. -/
def entryFor (s : Service) (asked : List String) (r : Request) (v : Version) :
    Except ServiceError MapEntry :=
  (s.clusterMap (s.selector.select asked r).cohort).resolve v

/-- The path of an entry in the map of the cohort of a request. -/
def resourceFor (s : Service) (asked : List String) (r : Request) (entry : MapEntry) : Path :=
  (s.clusterMap (s.selector.select asked r).cohort).artifactPath entry.artifact

variable {text : String}

/-- A text that is no version is refused before anything else happens. -/
theorem remoteConfiguration_of_badVersion {fault : Version.Fault}
    (h : Version.parse text = .error fault) :
    (s.remoteConfiguration store state r text).result = .error (badVersion text fault) ∧
      (s.remoteConfiguration store state r text).state = state := by
  unfold remoteConfiguration
  rw [h]
  exact ⟨rfl, rfl⟩

/-- A version without an entry is refused once the cohort is known. -/
theorem remoteConfiguration_of_noEntry {v : Version} {e : ServiceError}
    (h : Version.parse text = .ok v) (he : s.entryFor state.asked r v = .error e) :
    (s.remoteConfiguration store state r text).result = .error e ∧
      (s.remoteConfiguration store state r text).state =
        { state with asked := (s.selector.select state.asked r).asked } := by
  unfold entryFor at he
  unfold remoteConfiguration
  rw [h]
  simp only [he]
  exact ⟨trivial, trivial⟩

/-- A version with an entry is answered with the resource of the entry. -/
theorem remoteConfiguration_of_entry {v : Version} {entry : MapEntry}
    (h : Version.parse text = .ok v) (he : s.entryFor state.asked r v = .ok entry) :
    (s.remoteConfiguration store state r text).result =
        valueOf RemoteConfiguration.read (s.resourceFor state.asked r entry)
          (state.cache.get store (s.resourceFor state.asked r entry)).1 ∧
      (s.remoteConfiguration store state r text).state =
        { cache := (state.cache.get store (s.resourceFor state.asked r entry)).2.1
          metrics := counted state.metrics entry (s.remoteConfiguration store state r text).result
          asked := (s.selector.select state.asked r).asked } := by
  rw [← fetch_result, ← fetch_cache RemoteConfiguration.read]
  unfold entryFor at he
  unfold remoteConfiguration resourceFor
  rw [h]
  simp only [he]
  generalize fetch RemoteConfiguration.read store state.cache _ = fetched
  cases hresult : fetched.result with
  | error e => exact ⟨rfl, rfl⟩
  | ok configuration => exact ⟨rfl, rfl⟩

/-- The ways in which a request for a remote configuration can go, by its result. -/
inductive Course (s : Service) (store : FileStore) (state : ServiceState) (r : Request)
    (text : String) : Except ServiceError RemoteConfiguration → Prop where
  | badVersion {fault : Version.Fault} (h : Version.parse text = .error fault) :
      Course s store state r text (.error (badVersion text fault))
  | noEntry {v : Version} {e : ServiceError} (h : Version.parse text = .ok v)
      (he : s.entryFor state.asked r v = .error e) : Course s store state r text (.error e)
  | entry {v : Version} {entry : MapEntry} (h : Version.parse text = .ok v)
      (he : s.entryFor state.asked r v = .ok entry) :
      Course s store state r text
        (valueOf RemoteConfiguration.read (s.resourceFor state.asked r entry)
          (state.cache.get store (s.resourceFor state.asked r entry)).1)

theorem remoteConfiguration_course (s : Service) (store : FileStore) (state : ServiceState)
    (r : Request) (text : String) :
    Course s store state r text (s.remoteConfiguration store state r text).result := by
  cases h : Version.parse text with
  | error fault =>
    rw [(remoteConfiguration_of_badVersion h).1]
    exact .badVersion h
  | ok v =>
    cases he : s.entryFor state.asked r v with
    | error e =>
      rw [(remoteConfiguration_of_noEntry h he).1]
      exact .noEntry h he
    | ok entry =>
      rw [(remoteConfiguration_of_entry h he).1]
      exact .entry h he

end Service

end RemoteRollout
