import RemoteRollout.Proofs.Service.History
import RemoteRollout.Proofs.Startup

/-!
# What the path of an artifact foretells

A service can be asked for the path of an artifact instead of the remote configuration in it. Both
questions read the version and look for its entry on their own; they agree (`Service.Foretold`). A
path is refused just if the request is, before anything is read for it, and with the same error; and
a path that is answered is the one whose bytes decide about the request.
-/

namespace RemoteRollout

/-! ## Reads in the log -/

/-- The event reports that a resource was looked for. Every read through the cache has one. -/
def Event.isRead (event : Event) : Bool := event.origin == .cache

theorem Cache.isRead_get (c : Cache) (store : FileStore) (p : Path) :
    (c.get store p).2.2.isRead = true := by
  unfold get
  cases c.entries.get? p with
  | some bytes => rfl
  | none =>
    cases store.read p with
    | ok bytes => rfl
    | error failure => rfl

/-- Nothing is read to choose a cohort. -/
theorem Selector.isRead_select {s : Selector} {asked : List String} {r : Request} {event : Event}
    (h : event ∈ (s.select asked r).events) : event.isRead = false := by
  -- Whatever is reported is reported by the selection itself.
  have hanswer : ∀ id answer, event ∈ (ofAnswer id answer).2 → event.isRead = false := by
    intro id answer hevent
    cases answer with
    | error fault =>
      cases List.mem_singleton.1 hevent
      rfl
    | ok admitted =>
      cases admitted with
      | false => cases hevent
      | true =>
        cases List.mem_singleton.1 hevent
        rfl
  unfold select at h
  split at h
  · dsimp only at h
    split at h
    · cases List.mem_singleton.1 h
      rfl
    · exact hanswer _ _ h
  · cases h

namespace Service

variable {s : Service} {store : FileStore} {state : ServiceState} {r : Request} {text : String}
  {cohort : Cohort} {e : ServiceError} {p : Path}

/-- The request is refused with this error before any resource is read. -/
structure RefusedUnread (s : Service) (store : FileStore) (state : ServiceState) (r : Request)
    (text : String) (e : ServiceError) : Prop where
  result : (s.remoteConfiguration store state r text).result = .error e
  /-- No read is reported. -/
  unread : ∀ event ∈ (s.remoteConfiguration store state r text).events, event.isRead = false
  /-- Other resources, kept or in the store, would make no difference. -/
  regardless : ∀ store' cache,
    (s.remoteConfiguration store' { state with cache } r text).result = .error e

/-- The request is answered with what is shown of this path. -/
structure AnsweredFrom (result : Except ServiceError RemoteConfiguration) (p : Path)
    (shown : Option Bytes) : Prop where
  missing : shown = none →
    result = .error (.notFound ("store data not found for '" ++ p.text ++ "'"))
  undecodable : ∀ bytes fault, shown = some bytes →
    Json.decode RemoteConfiguration.read bytes = .error fault →
      result = .error (.internal ("cannot decode '" ++ p.text ++ "': " ++ fault.message))
  decoded : ∀ bytes configuration, shown = some bytes →
    Json.decode RemoteConfiguration.read bytes = .ok configuration → result = .ok configuration

/-- Asking for the path of the artifact foretells the answer to the request. -/
structure Foretold (s : Service) (store : FileStore) (state : ServiceState) (r : Request)
    (text : String) (cohort : Cohort) : Prop where
  refused_iff : ∀ e, (s.resolveArtifact cohort text).1 = .error e ↔
    RefusedUnread s store state r text e
  /-- What is kept of the path decides, or else what the store has. -/
  answered : ∀ p, (s.resolveArtifact cohort text).1 = .ok p →
    AnsweredFrom (s.remoteConfiguration store state r text).result p
      ((state.cache.entries.get? p).or (store.read p).toOption)
  /-- To ask for the path changes nothing. -/
  unchanged : s.happen ⟨store, state⟩ (.ask (.artifact cohort text)) =
    (.artifact (s.resolveArtifact cohort text).1, ⟨store, state⟩)

/-! ## Paths -/

theorem resolveArtifact_of_badVersion {fault : Version.Fault}
    (h : Version.parse text = .error fault) :
    (s.resolveArtifact cohort text).1 = .error (badVersion text fault) := by
  unfold resolveArtifact
  rw [h]

theorem resolveArtifact_of_noEntry {v : Version} (h : Version.parse text = .ok v)
    (he : (s.clusterMap cohort).resolve v = .error e) :
    (s.resolveArtifact cohort text).1 = .error e := by
  unfold resolveArtifact
  rw [h]
  simp only [he]

theorem resolveArtifact_of_entry {v : Version} {entry : MapEntry} (h : Version.parse text = .ok v)
    (he : (s.clusterMap cohort).resolve v = .ok entry) :
    (s.resolveArtifact cohort text).1 =
      .ok ((s.clusterMap cohort).artifactPath entry.artifact) := by
  unfold resolveArtifact
  rw [h]
  simp only [he]

/-! ## Requests -/

theorem answeredFrom_valueOf (p : Path) (shown : Option Bytes) :
    AnsweredFrom (valueOf RemoteConfiguration.read p shown) p shown := by
  constructor
  case missing =>
    rintro rfl
    rfl
  case undecodable =>
    rintro bytes fault rfl hdecode
    rw [valueOf, decodeResource, hdecode]
    rfl
  case decoded =>
    rintro bytes configuration rfl hdecode
    exact decodeResource_eq_ok_iff.2 hdecode

theorem refusedUnread_of_badVersion {fault : Version.Fault}
    (h : Version.parse text = .error fault) :
    RefusedUnread s store state r text (badVersion text fault) := by
  constructor
  case result => exact (remoteConfiguration_of_badVersion h).1
  case regardless => exact fun _ _ => (remoteConfiguration_of_badVersion h).1
  case unread =>
    intro event hevent
    unfold remoteConfiguration at hevent
    rw [h] at hevent
    cases List.mem_singleton.1 hevent
    rfl

theorem refusedUnread_of_noEntry {v : Version} (h : Version.parse text = .ok v)
    (he : s.entryFor state.asked r v = .error e) : RefusedUnread s store state r text e := by
  constructor
  case result => exact (remoteConfiguration_of_noEntry h he).1
  case regardless =>
    intro store' cache
    have helsewhere : s.entryFor { state with cache }.asked r v = .error e := he
    exact (remoteConfiguration_of_noEntry h helsewhere).1
  case unread =>
    intro event hevent
    unfold entryFor at he
    unfold remoteConfiguration at hevent
    rw [h] at hevent
    simp only [he] at hevent
    exact Selector.isRead_select hevent

/-- A request that comes as far as to an entry reads the artifact, whatever it is answered. -/
theorem exists_isRead_of_entry {v : Version} {entry : MapEntry} (h : Version.parse text = .ok v)
    (he : s.entryFor state.asked r v = .ok entry) :
    ∃ event ∈ (s.remoteConfiguration store state r text).events, event.isRead = true := by
  refine ⟨_, ?_, state.cache.isRead_get store (s.resourceFor state.asked r entry)⟩
  have hfetch : (state.cache.get store (s.resourceFor state.asked r entry)).2.2 ∈
      (fetch RemoteConfiguration.read store state.cache
        (s.resourceFor state.asked r entry)).events := by
    unfold fetch
    split
    · next heq => simp [heq]
    · next heq => simp [heq]
  unfold entryFor at he
  unfold resourceFor at hfetch ⊢
  unfold remoteConfiguration
  rw [h]
  simp only [he]
  generalize fetch RemoteConfiguration.read store state.cache _ = fetched at hfetch ⊢
  cases fetched.result with
  | error e => simp [hfetch]
  | ok configuration => simp [hfetch]

/-! ## Both together -/

theorem foretold_of_refused (hpath : (s.resolveArtifact cohort text).1 = .error e)
    (hrefused : RefusedUnread s store state r text e) : Foretold s store state r text cohort := by
  constructor
  case refused_iff =>
    intro e'
    constructor
    · intro h
      cases hpath.symm.trans h
      exact hrefused
    · intro h
      cases hrefused.result.symm.trans h.result
      exact hpath
  case answered =>
    intro p h
    cases hpath.symm.trans h
  case unchanged => rfl

theorem foretold_of_entry {v : Version} {entry : MapEntry} (h : Version.parse text = .ok v)
    (he : s.entryFor state.asked r v = .ok entry) :
    Foretold s store state r text (s.selector.select state.asked r).cohort := by
  have hpath : (s.resolveArtifact (s.selector.select state.asked r).cohort text).1 =
      .ok (s.resourceFor state.asked r entry) := resolveArtifact_of_entry h he
  constructor
  case refused_iff =>
    intro e
    constructor
    · intro herror
      cases hpath.symm.trans herror
    · -- A request may fail with the same error later on, but not unread.
      intro hrefused
      have hevents : ∃ event ∈ (s.remoteConfiguration store state r text).events,
          event.isRead = true := exists_isRead_of_entry h he
      obtain ⟨event, hevent, hread⟩ := hevents
      cases (hrefused.unread event hevent).symm.trans hread
  case answered =>
    intro p hp
    cases hpath.symm.trans hp
    rw [(remoteConfiguration_of_entry h he).1, Cache.get_eq_or]
    exact answeredFrom_valueOf ..
  case unchanged => rfl

/-- **The path of an artifact foretells the request for it**, in every state and over every store,
for the cohort that the request is served from. -/
theorem artifact_foretells (s : Service) (store : FileStore) (state : ServiceState) (r : Request)
    (text : String) (h : (s.selector.select state.asked r).cohort = cohort) :
    Foretold s store state r text cohort := by
  subst h
  cases hv : Version.parse text with
  | error fault =>
    exact foretold_of_refused (resolveArtifact_of_badVersion hv) (refusedUnread_of_badVersion hv)
  | ok v =>
    cases he : s.entryFor state.asked r v with
    | error e =>
      exact foretold_of_refused (resolveArtifact_of_noEntry hv he) (refusedUnread_of_noEntry hv he)
    | ok entry => exact foretold_of_entry hv he

/-- A canary cluster is refused a version below its map, and served the artifact of any other, as
the paths foretell: there is none for the first, and the spelling of the map for the second. -/
theorem slashedFiles_foretold :
    ∃ s state, (Startup.start Startup.slashedSettings none Startup.slashedFiles.fileStore).result =
        .ok (s, state) ∧
      (s.selector.select state.asked ⟨some "io cluster/c1"⟩).cohort = .canary ∧
      ["0.9.0", "1.5.0"].map (fun text => (s.resolveArtifact .canary text).1.toOption) =
        [none, some ⟨"/remote//canary/.//old.json"⟩] ∧
      ∀ text, Foretold s Startup.slashedFiles.fileStore state ⟨some "io cluster/c1"⟩ text
        .canary := by
  obtain ⟨s, state, h⟩ := Startup.start_slashedFiles
  obtain ⟨-, hselector, -⟩ := Startup.parts_of_start h
  have hcohort : (s.selector.select state.asked ⟨some "io cluster/c1"⟩).cohort = .canary := by
    rw [hselector]
    rfl
  have hpaths : (Startup.start Startup.slashedSettings none
      Startup.slashedFiles.fileStore).result.toOption.map (fun started =>
        ["0.9.0", "1.5.0"].map fun text => (started.1.resolveArtifact .canary text).1.toOption) =
      some [none, some ⟨"/remote//canary/.//old.json"⟩] := by
    decide +kernel
  rw [h] at hpaths
  exact ⟨s, state, h, hcohort, Option.some.inj hpaths,
    fun text => artifact_foretells s _ state _ text hcohort⟩

end Service

end RemoteRollout
