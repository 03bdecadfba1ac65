import RemoteRollout.Proofs.ClusterMap.Floor
import RemoteRollout.Proofs.Service.Run

/-!
# What a request leaves behind

A request can end at different depths, and each end has its own traces (`Service.Effects`): a bad
version leaves none, a version below the map at most a question to the evaluator, a missing file one
read of the store, and bytes, whether they can be decoded or not, are kept from then on. Nothing
else is touched (`Service.Touches`): neither the files nor any other resource that is kept.
-/

namespace RemoteRollout.Service

variable {α : Type} {s : Service} {w : World} {r : Request} {q : Query} {text : String}

/-- The world after a query. -/
def afterQuery (s : Service) (w : World) (q : Query) : World := (s.step w (.ask q)).2

/-- The resource of a query in this world, if it comes as far as to read one. -/
def resourceOf? (s : Service) (w : World) (q : Query) : Option Path :=
  s.resource? (s.cohortOf w.state.asked q) q

/-! ## What is not touched -/

/-- At most this resource has been touched between two worlds. -/
structure Touches (w after : World) (resource? : Option Path) : Prop where
  files : after.files = w.files
  /-- What was kept still is, with at most one resource more. -/
  entries : w.state.cache.entries.entries <+: after.state.cache.entries.entries
  size_le : after.state.cache.size ≤ w.state.cache.size + 1
  /-- Of every other path the same is kept as before. -/
  elsewhere : ∀ p, (∀ resource, resource? = some resource → resource.components ≠ p.components) →
    after.state.cache.entries.get? p = w.state.cache.entries.get? p

theorem cache_afterQuery (s : Service) (w : World) (q : Query) :
    (s.afterQuery w q).state.cache =
      ((s.resourceOf? w q).map fun p => (w.state.cache.get w.files.fileStore p).2.1).getD
        w.state.cache :=
  answer_cache_eq s w.files.fileStore w.state q

theorem cache_afterQuery_of_none (h : s.resourceOf? w q = none) :
    (s.afterQuery w q).state.cache = w.state.cache := by
  rw [cache_afterQuery, h, Option.map_none, Option.getD_none]

theorem cache_afterQuery_of_some {p : Path} (h : s.resourceOf? w q = some p) :
    (s.afterQuery w q).state.cache = (w.state.cache.get w.files.fileStore p).2.1 := by
  rw [cache_afterQuery, h, Option.map_some, Option.getD_some]

theorem touches_afterQuery (s : Service) (w : World) (q : Query) :
    Touches w (s.afterQuery w q) (s.resourceOf? w q) := by
  cases h : s.resourceOf? w q with
  | none =>
    have hcache := cache_afterQuery_of_none h
    constructor
    case files => rfl
    case entries => exact hcache ▸ List.prefix_rfl
    case size_le => rw [hcache]; exact Nat.le_succ _
    case elsewhere => intro p _; rw [hcache]
  | some resource =>
    have hcache := cache_afterQuery_of_some h
    constructor
    case files => rfl
    case entries => rw [hcache]; exact (Cache.entries_get ..).1
    case size_le => rw [hcache]; exact (Cache.entries_get ..).2
    case elsewhere =>
      intro p hother
      rw [hcache, Cache.get?_entries_get, if_neg (hother resource rfl)]

/-! ## Outcomes -/

/-- The resource is kept with the bytes that were shown of it, and it has been read, once, just if
it was not kept before. -/
structure Fetches (w after : World) (p : Path) : Prop where
  kept : ∃ bytes, w.bytes? p = some bytes ∧ after.state.cache.entries.get? p = some bytes
  reads_eq : after.state.cache.reads =
    w.state.cache.reads + if w.state.cache.contains p then 0 else 1

/-- What a request leaves behind, by its result. -/
structure Effects (s : Service) (w : World) (q : Query) (result : Except ServiceError α) :
    Prop where
  /-- After a text that is no version the world is the same. -/
  invalidArgument : FailsWith result .invalidArgument → s.afterQuery w q = w
  /-- After a version below the map, the evaluator may have been asked. -/
  belowRange : FailsWith result .notFound → s.resourceOf? w q = none →
    (∃ m v, result = .error (ClusterMap.belowRange m v)) ∧
      s.afterQuery w q =
        { w with state := { w.state with asked := (s.afterQuery w q).state.asked } }
  /-- For a missing file the store has been read as well, once and in vain. -/
  missing : ∀ p, FailsWith result .notFound → s.resourceOf? w q = some p →
    result = .error (missing p) ∧ w.bytes? p = none ∧
      s.afterQuery w q =
        { w with
          state := { w.state with
            cache := { w.state.cache with reads := w.state.cache.reads + 1 }
            asked := (s.afterQuery w q).state.asked } }
  /-- Bytes that cannot be decoded are kept, and nothing is counted. -/
  internal : FailsWith result .internal →
    (s.afterQuery w q).state.metrics = w.state.metrics ∧
      ∃ p, s.resourceOf? w q = some p ∧ Fetches w (s.afterQuery w q) p
  /-- The bytes of an answer are kept. -/
  ok : ∀ value, result = .ok value →
    ∃ p, s.resourceOf? w q = some p ∧ Fetches w (s.afterQuery w q) p
  /-- There is no other outcome. -/
  not_configInvalid : ¬ FailsWith result .configInvalid

variable {result : Except ServiceError α} {p : Path} {bytes : Bytes}

/-- The world after a query that is not counted, but for the log of the evaluator. -/
theorem afterQuery_eq {cache : Cache} (hcache : (s.afterQuery w q).state.cache = cache)
    (hmetrics : (s.afterQuery w q).state.metrics = w.state.metrics) :
    s.afterQuery w q =
      { w with state := { w.state with cache, asked := (s.afterQuery w q).state.asked } } := by
  subst hcache
  show s.afterQuery w q = ⟨w.files, ⟨_, w.state.metrics, _⟩⟩
  rw [← hmetrics]
  rfl

theorem fetches_of_bytes (hresource : s.resourceOf? w q = some p)
    (hbytes : w.bytes? p = some bytes) :
    Fetches w (s.afterQuery w q) p := by
  have hcache := cache_afterQuery_of_some hresource
  constructor
  case kept =>
    refine ⟨bytes, hbytes, ?_⟩
    rw [hcache, Cache.get?_entries_get, if_pos rfl, Cache.get_answers]
    exact hbytes
  case reads_eq =>
    rw [hcache, Cache.reads_get, Cache.contains, PathTable.contains]
    split
    · rfl
    · rfl

/-- A query that comes as far as to an entry of the map and finds none. -/
theorem effects_of_noEntry {m : ClusterMap} {v : Version}
    (hresult : result = .error (m.belowRange v)) (hresource : s.resourceOf? w q = none)
    (hmetrics : (s.afterQuery w q).state.metrics = w.state.metrics) : Effects s w q result := by
  have hkind : (m.belowRange v).kind = .notFound := rfl
  subst hresult
  constructor
  case invalidArgument => simp [hkind]
  case belowRange =>
    exact fun _ _ => ⟨⟨m, v, rfl⟩, afterQuery_eq (cache_afterQuery_of_none hresource) hmetrics⟩
  case missing =>
    intro p _ hsome
    cases hresource.symm.trans hsome
  case internal => simp [hkind]
  case ok => simp
  case not_configInvalid => simp [hkind]

/-- A query whose resource is not there. -/
theorem effects_of_missing (hresult : result = .error (missing p))
    (hresource : s.resourceOf? w q = some p) (hbytes : w.bytes? p = none)
    (hmetrics : (s.afterQuery w q).state.metrics = w.state.metrics) : Effects s w q result := by
  have hkind : (Service.missing p).kind = .notFound := rfl
  have hget : (w.state.cache.get w.files.fileStore p).1 = none := Cache.get_answers p ▸ hbytes
  have hcache := (cache_afterQuery_of_some hresource).trans (Cache.get_of_none hget)
  subst hresult
  constructor
  case invalidArgument => simp [hkind]
  case belowRange =>
    intro _ hnone
    cases hnone.symm.trans hresource
  case missing =>
    intro p' _ hsome
    cases hresource.symm.trans hsome
    exact ⟨rfl, hbytes, afterQuery_eq hcache hmetrics⟩
  case internal => simp [hkind]
  case ok => simp
  case not_configInvalid => simp [hkind]

/-- A query whose resource is there. -/
theorem effects_of_bytes {read : Json.Reader α} (hresult : result = decodeResource read p bytes)
    (hresource : s.resourceOf? w q = some p) (hbytes : w.bytes? p = some bytes)
    (hmetrics : ∀ e, result = .error e → (s.afterQuery w q).state.metrics = w.state.metrics) :
    Effects s w q result := by
  have hfetches := fetches_of_bytes hresource hbytes
  have hfails : ∀ {kind}, FailsWith result kind → kind = .internal := by
    intro kind h
    rw [hresult, failsWith_decodeResource] at h
    exact h.1
  constructor
  case invalidArgument => exact fun h => nomatch hfails h
  case belowRange => exact fun h => nomatch hfails h
  case missing => exact fun _ h => nomatch hfails h
  case internal =>
    rintro ⟨e, he, -⟩
    exact ⟨hmetrics e he, p, hresource, hfetches⟩
  case ok => exact fun value _ => ⟨p, hresource, hfetches⟩
  case not_configInvalid => exact fun h => nomatch hfails h

/-- A query is answered with what is shown of its resource, if that is all it takes. -/
theorem effects_of_resource {read : Json.Reader α} (hresult : result = valueOf read p (w.bytes? p))
    (hresource : s.resourceOf? w q = some p)
    (hmetrics : ∀ e, result = .error e → (s.afterQuery w q).state.metrics = w.state.metrics) :
    Effects s w q result := by
  cases hbytes : w.bytes? p with
  | none =>
    rw [hbytes, valueOf] at hresult
    exact effects_of_missing hresult hresource hbytes (hmetrics _ hresult)
  | some bytes =>
    rw [hbytes, valueOf] at hresult
    exact effects_of_bytes hresult hresource hbytes hmetrics

/-! ## Requests -/

theorem effects_of_badVersion {fault : Version.Fault} (h : Version.parse text = .error fault) :
    Effects s w (.remoteConfiguration r text) (s.served w r text) := by
  obtain ⟨hresult, hstate⟩ : s.served w r text = _ ∧
      (s.remoteConfiguration w.files.fileStore w.state r text).state = _ :=
    remoteConfiguration_of_badVersion h
  have hafter : s.afterQuery w (.remoteConfiguration r text) = w := by
    show (⟨w.files, (s.remoteConfiguration w.files.fileStore w.state r text).state⟩ : World) = w
    rw [hstate]
  have hkind : (badVersion text fault).kind = .invalidArgument := rfl
  rw [hresult]
  constructor
  case invalidArgument => exact fun _ => hafter
  case belowRange => simp [hkind]
  case missing => simp [hkind]
  case internal => simp [hkind]
  case ok => simp
  case not_configInvalid => simp [hkind]

/-- A request for a remote configuration has the effects of its outcome. -/
theorem effects_remoteConfiguration (s : Service) (w : World) (r : Request) (text : String) :
    Effects s w (.remoteConfiguration r text) (s.served w r text) := by
  cases hv : Version.parse text with
  | error fault => exact effects_of_badVersion hv
  | ok v =>
    cases he : s.entryFor w.state.asked r v with
    | error e =>
      obtain ⟨hresult, hstate⟩ : s.served w r text = _ ∧
          (s.remoteConfiguration w.files.fileStore w.state r text).state = _ :=
        remoteConfiguration_of_noEntry hv he
      obtain ⟨-, rfl⟩ := ClusterMap.resolve_eq_error_iff.1 he
      refine effects_of_noEntry hresult ?_ ?_
      · unfold entryFor at he
        simp only [resourceOf?, resource?, cohortOf, hv, he]
      · show (s.remoteConfiguration w.files.fileStore w.state r text).state.metrics = _
        rw [hstate]
    | ok entry =>
      obtain ⟨hresult, hstate⟩ : s.served w r text = _ ∧
          (s.remoteConfiguration w.files.fileStore w.state r text).state = _ :=
        remoteConfiguration_of_entry hv he
      rw [Cache.get_answers] at hresult
      refine effects_of_resource hresult ?_ ?_
      · unfold entryFor at he
        simp only [resourceOf?, resource?, cohortOf, hv, he, resourceFor]
      · -- Only what is served counts.
        intro e herror
        show (s.remoteConfiguration w.files.fileStore w.state r text).state.metrics = _
        rw [hstate, ← served, herror]
        rfl

theorem metrics_afterQuery_rules (s : Service) (w : World) (r : Request) :
    (s.afterQuery w (.rules r)).state.metrics = w.state.metrics := by
  show (s.rules w.files.fileStore w.state r).state.metrics = _
  rw [rules_state]

/-- A request for rules has the effects of its outcome. -/
theorem effects_rules (s : Service) (w : World) (r : Request) :
    Effects s w (.rules r) (s.rules w.files.fileStore w.state r).result := by
  have hresult : (s.rules w.files.fileStore w.state r).result = _ := rules_result
  rw [Cache.get_answers] at hresult
  exact effects_of_resource hresult rfl fun _ _ => metrics_afterQuery_rules s w r

/-- **What a request leaves behind.** Whatever the files and the state of a service are, a request
has the effects of its outcome and touches nothing but its resource; and rules are never counted. -/
theorem request_effects (s : Service) (w : World) (r : Request) :
    (∀ text, Effects s w (.remoteConfiguration r text) (s.served w r text) ∧
      Touches w (s.afterQuery w (.remoteConfiguration r text))
        (s.resourceOf? w (.remoteConfiguration r text))) ∧
    Effects s w (.rules r) (s.rules w.files.fileStore w.state r).result ∧
    Touches w (s.afterQuery w (.rules r)) (s.resourceOf? w (.rules r)) ∧
    (s.afterQuery w (.rules r)).state.metrics = w.state.metrics :=
  ⟨fun text => ⟨effects_remoteConfiguration s w r text, touches_afterQuery ..⟩, effects_rules s w r,
    touches_afterQuery .., metrics_afterQuery_rules s w r⟩

end RemoteRollout.Service
