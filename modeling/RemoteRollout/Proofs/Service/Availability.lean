import RemoteRollout.Proofs.ClusterMap.Floor
import RemoteRollout.Proofs.Service.Run
import RemoteRollout.Proofs.Startup

/-!
# A validated service can always serve

Start-up probes that every artifact exists; requests read the artifacts later, through the cache.
`Available` connects the two: every artifact of both maps is kept or is a file. It holds of a
service whose maps have been loaded (`Validated.available`) and goes on holding while no file is
removed (`Available.run`), and all that a request can still meet then is in `Promise`.
-/

namespace RemoteRollout.Service

variable {s : Service} {w : World}

/-! ## Artifacts -/

/-- Every artifact of both maps is kept or is a file. -/
def Available (s : Service) (w : World) : Prop :=
  ∀ (cohort : Cohort), ∀ entry ∈ (s.clusterMap cohort).entries,
    (w.bytes? ((s.clusterMap cohort).artifactPath entry.artifact)).isSome = true

theorem Validated.available (h : s.Validated w.files w.state.cache) : s.Available w := by
  obtain ⟨ms, hload, hstable, hcanary⟩ := h
  intro cohort entry hmem
  cases cohort with
  | stable => exact hload.isSome_artifact hstable hmem
  | canary => exact hload.isSome_artifact hcanary hmem

theorem Available.run (h : s.Available w) {steps : List Step}
    (hsteps : ∀ p, Step.remove p ∉ steps) : s.Available (s.run w steps).2 := by
  refine run_induction ?_ h
  intro w a ha hw cohort entry hmem
  have hkeeps : ∀ p, a ≠ .remove p := by
    rintro p rfl
    exact hsteps p ha
  exact isSome_bytes?_step hkeeps (hw cohort entry hmem)

/-! ## Requests -/

/-- The map that serves a request in this world. -/
def mapFor (s : Service) (w : World) (r : Request) : ClusterMap :=
  s.clusterMap (s.selector.select w.state.asked r).cohort

/-- What a validated service promises a request for the version spelled by the text. -/
structure Promise (s : Service) (w : World) (r : Request) (text : String)
    (result : Except ServiceError RemoteConfiguration) : Prop where
  /-- A text that is no version is an invalid argument, and nothing else is. -/
  invalidArgument_iff :
    FailsWith result .invalidArgument ↔ ¬ ∃ v, Version.parse text = .ok v
  /-- Only versions below the first of the map are not found. -/
  notFound_iff : ∀ v, Version.parse text = .ok v →
    (FailsWith result .notFound ↔ v.Before (s.mapFor w r).first.version)
  /-- Any other version has an artifact, whose bytes alone decide. -/
  served : ∀ v, Version.parse text = .ok v → ¬ v.Before (s.mapFor w r).first.version →
    ∃ entry bytes, (s.mapFor w r).resolve v = .ok entry ∧
      w.bytes? ((s.mapFor w r).artifactPath entry.artifact) = some bytes ∧
      ((∃ configuration, result = .ok configuration) ∨ FailsWith result .internal) ∧
      ∀ configuration, result = .ok configuration ↔
        Json.decode RemoteConfiguration.read bytes = .ok configuration
  /-- The configuration of the service is never at fault. -/
  not_configInvalid : ¬ FailsWith result .configInvalid

variable {r : Request} {text : String} {v : Version}

theorem promise_of_badVersion {fault : Version.Fault} (h : Version.parse text = .error fault) :
    Promise s w r text (.error (badVersion text fault)) := by
  have hno : ∀ v, Version.parse text ≠ .ok v := by
    intro v hv
    cases h.symm.trans hv
  constructor
  case invalidArgument_iff => simpa [badVersion, ServiceError.kind] using hno
  case notFound_iff => exact fun v hv => absurd hv (hno v)
  case served => exact fun v hv => absurd hv (hno v)
  case not_configInvalid => simp [badVersion, ServiceError.kind]

theorem promise_of_noEntry {e : ServiceError} (h : Version.parse text = .ok v)
    (he : (s.mapFor w r).resolve v = .error e) : Promise s w r text (.error e) := by
  obtain ⟨hbefore, rfl⟩ := ClusterMap.resolve_eq_error_iff.1 he
  have hkind : ((s.mapFor w r).belowRange v).kind = .notFound := rfl
  constructor
  case invalidArgument_iff => simp [hkind, h]
  case notFound_iff =>
    intro v' hv'
    cases h.symm.trans hv'
    simp [hkind, hbefore]
  case served =>
    intro v' hv' hnot
    cases h.symm.trans hv'
    exact absurd hbefore hnot
  case not_configInvalid => simp [hkind]

/-- Once the bytes are there, only their decoding is left to fail. -/
theorem promise_of_bytes {entry : MapEntry} {p : Path} {bytes : Bytes}
    (h : Version.parse text = .ok v) (he : (s.mapFor w r).resolve v = .ok entry)
    (hbytes : w.bytes? ((s.mapFor w r).artifactPath entry.artifact) = some bytes) :
    Promise s w r text (decodeResource RemoteConfiguration.read p bytes) := by
  have hnot : ¬ v.Before (s.mapFor w r).first.version := by
    intro hbefore
    have herror := ClusterMap.resolve_eq_error_iff.2 ⟨hbefore, rfl⟩
    cases herror.symm.trans he
  constructor
  case invalidArgument_iff => simp [failsWith_decodeResource, h]
  case notFound_iff =>
    intro v' hv'
    cases h.symm.trans hv'
    simp [failsWith_decodeResource, hnot]
  case served =>
    intro v' hv' _
    cases h.symm.trans hv'
    refine ⟨entry, bytes, he, hbytes, ?_, fun configuration => decodeResource_eq_ok_iff⟩
    by_cases hdecode : ∃ configuration,
        Json.decode RemoteConfiguration.read bytes = .ok configuration
    · obtain ⟨configuration, hok⟩ := hdecode
      exact .inl ⟨configuration, decodeResource_eq_ok_iff.2 hok⟩
    · exact .inr (failsWith_decodeResource.2 ⟨rfl, hdecode⟩)
  case not_configInvalid => simp [failsWith_decodeResource]

/-- While all artifacts are available, requests are answered as promised. -/
theorem Available.promise (h : s.Available w) (r : Request) (text : String) :
    Promise s w r text (s.served w r text) := by
  have hcourse := remoteConfiguration_course s w.files.fileStore w.state r text
  unfold served
  generalize (s.remoteConfiguration w.files.fileStore w.state r text).result = result at hcourse ⊢
  cases hcourse with
  | badVersion hparse => exact promise_of_badVersion hparse
  | noEntry hparse he => exact promise_of_noEntry hparse he
  | @entry v entry hparse he =>
    obtain ⟨i, hi, -⟩ := ClusterMap.floor?_eq_some_iff.1 (ClusterMap.resolve_eq_ok_iff.1 he)
    have hsome := h _ entry (List.mem_of_getElem? hi)
    obtain ⟨bytes, hbytes⟩ := Option.isSome_iff_exists.1 hsome
    have hshown : w.state.cache.bytes? w.files (s.resourceFor w.state.asked r entry) =
        some bytes := hbytes
    rw [Cache.get_answers, hshown]
    exact promise_of_bytes hparse he hbytes

/-- **A validated service can always serve**: after any run of queries, writes and changes of the
cache that removes no file, every request is answered as promised. -/
theorem validated_service_serves (h : s.Validated w.files w.state.cache) {steps : List Step}
    (hsteps : ∀ p, Step.remove p ∉ steps) (r : Request) (text : String) :
    Promise s (s.run w steps).2 r text (s.served (s.run w steps).2 r text) :=
  (h.available.run hsteps).promise r text

/-- A run that writes over an artifact and gives the cache another one. -/
def replacements : List Step :=
  [.write ⟨"/remote/canary//old.json"⟩ [0x7b],
    .ask (.remoteConfiguration ⟨none⟩ "2.0.0"),
    .keep ⟨"/remote/stable/./old.json/"⟩ []]

/-- Files and kept resources are replaced under other spellings, and a canary cluster is still
answered as promised. -/
theorem slashedFiles_serve :
    ∃ s state, (Startup.start Startup.slashedSettings none Startup.slashedFiles.fileStore).result =
        .ok (s, state) ∧
      Promise s (s.run ⟨Startup.slashedFiles, state⟩ replacements).2 ⟨some "cluster/c1"⟩ "1.5.0"
        (s.served (s.run ⟨Startup.slashedFiles, state⟩ replacements).2 ⟨some "cluster/c1"⟩
          "1.5.0") := by
  obtain ⟨s, state, h⟩ := Startup.start_slashedFiles
  have hsteps : ∀ p, Step.remove p ∉ replacements := by
    intro p hp
    simp [replacements] at hp
  exact ⟨s, state, h, validated_service_serves (w := ⟨Startup.slashedFiles, state⟩)
    (Startup.validated_of_start h) hsteps _ _⟩

end RemoteRollout.Service
