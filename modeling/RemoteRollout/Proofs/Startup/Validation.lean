import RemoteRollout.Proofs.Startup
import RemoteRollout.Proofs.Storage.Below

/-!
# Validation of both cohorts

A start-up loads both maps through one cache, in which the first load leaves its file. That lets no
cohort bear on the other: below different directories the files are different ones, and an absolute
mapping name leads both cohorts to one path, of which the cache keeps what the store has
(`answersAlike_mappings`). So a start-up is told by the two maps loaded alone, and by nothing else of
the settings (`start_course`).
-/

namespace RemoteRollout

namespace ClusterMap

/-- The results of loading maps from these roots and names, one after the other through one cache. -/
def loadAll (store : FileStore) :
    Cache → List (Path × String) → List (Except LoadFault ClusterMap)
  | _, [] => []
  | c, (root, name) :: rest =>
    let loaded := load root name store c
    loaded.result :: loadAll store loaded.cache rest

/-- Through a cache that shows just the files each map is loaded as if it were the only one. -/
theorem loadAll_of_transparent {files : MemoryStore} {c : Cache} (h : c.Transparent files)
    (sources : List (Path × String)) :
    loadAll files.fileStore c sources =
      sources.map fun source => loadAfresh source.1 source.2 files.fileStore := by
  induction sources generalizing c with
  | nil => rfl
  | cons source rest ih =>
    obtain ⟨root, name⟩ := source
    have hafter : (load root name files.fileStore c).cache.Transparent files := by
      rw [load_cache]
      exact h.get _
    rw [loadAll, load_of_transparent h, ih hafter, List.map_cons]

end ClusterMap

namespace Startup

open ClusterMap (loadAll loadAll_of_transparent)

variable {storage : StorageSettings} {store : FileStore}

/-- The file with the map of a cohort. -/
def mappingPath (storage : StorageSettings) (cohort : Cohort) : Path :=
  (storage.remoteConfigurationPath.directory cohort).join storage.clusterMapping

/-- The map of a cohort, loaded through a cache of its own. -/
def loadedAlone (storage : StorageSettings) (store : FileStore) (cohort : Cohort) :
    Except LoadFault ClusterMap :=
  (ClusterMap.load (storage.remoteConfigurationPath.directory cohort) storage.clusterMapping store
    {}).result

/-! ## The files of the two maps -/

/-- The files of two cohorts are different ones, unless the mapping name leads both to one path. -/
theorem mappingPath_eq_of_components_eq {c d : Cohort}
    (h : (mappingPath storage c).components = (mappingPath storage d).components) :
    mappingPath storage c = mappingPath storage d := by
  cases habsolute : Path.isAbsoluteText storage.clusterMapping with
  | true => simp only [mappingPath, Path.join, habsolute, if_true]
  | false =>
    have hc : (mappingPath storage c).IsBelow (storage.remoteConfigurationPath.directory c) :=
      Path.join_directory_isBelow habsolute
    have hd : (mappingPath storage d).IsBelow (storage.remoteConfigurationPath.directory d) :=
      Path.join_directory_isBelow habsolute
    rw [Path.IsBelow.congr h] at hc
    rw [hc.cohort_unique hd]

/-- Any store has the same bytes of both files if their paths are one. -/
theorem answersAlike_mappings (storage : StorageSettings) (store : FileStore) (c d : Cohort)
    (h : (mappingPath storage c).components = (mappingPath storage d).components) :
    (store.read (mappingPath storage c)).toOption = (store.read (mappingPath storage d)).toOption := by
  rw [mappingPath_eq_of_components_eq h]

/-! ## Start-ups -/

/-- The maps of a start-up with these settings. -/
def mapsOf (s : Settings) (store : FileStore) : Maps :=
  loadMaps (cohortRoot s .stable) (cohortRoot s .canary) s.storage.clusterMapping store {}

/-- The maps of a start-up are the two maps loaded alone, and its fault is that of the first of them
that has one. -/
theorem mapsOf_result (s : Settings) (store : FileStore) :
    (mapsOf s store).result =
      (loadedAlone s.storage store .stable).bind fun stable =>
        (loadedAlone s.storage store .canary).map fun canary => (stable, canary) := by
  have hcanary := ClusterMap.load_after_load (answersAlike_mappings s.storage store .stable .canary)
  have hstable : (ClusterMap.load (cohortRoot s .stable) s.storage.clusterMapping store {}).result =
      loadedAlone s.storage store .stable := rfl
  dsimp only [mapsOf, loadMaps]
  rw [hstable]
  -- With a fault of the stable map the canary map is not even looked for.
  cases loadedAlone s.storage store .stable with
  | error fault => rfl
  | ok stable => exact congrArg (Except.map fun canary => (stable, canary)) hcanary

theorem start_of_fault {s : Settings} {given : Option Evaluator} {fault : LoadFault}
    (h : (mapsOf s store).result = .error fault) :
    start s given store =
      { result := .error fault.error, events := (mapsOf s store).events } := by
  unfold mapsOf at h ⊢
  simp only [start, h]

theorem start_of_maps {s : Settings} {given : Option Evaluator} {stable canary : ClusterMap}
    (h : (mapsOf s store).result = .ok (stable, canary)) :
    start s given store =
      { result := .ok ({ rulesPath := s.storage.rulesPath, stable, canary,
                         selector := selector s given }, { cache := (mapsOf s store).cache })
        events := (mapsOf s store).events ++ (selector s given).events ++
          [readyEvent s (selector s given)] } := by
  unfold mapsOf at h ⊢
  simp only [start, h]

/-- The three ways in which a start-up can go. -/
inductive Course (storage : StorageSettings) (store : FileStore) :
    Except ServiceError (Service × ServiceState) → Prop where
  | noStable {fault : LoadFault} (h : loadedAlone storage store .stable = .error fault) :
      Course storage store (.error fault.error)
  | noCanary {stable : ClusterMap} {fault : LoadFault}
      (hstable : loadedAlone storage store .stable = .ok stable)
      (h : loadedAlone storage store .canary = .error fault) :
      Course storage store (.error fault.error)
  | ready {service : Service} {state : ServiceState}
      (hstable : loadedAlone storage store .stable = .ok service.stable)
      (hcanary : loadedAlone storage store .canary = .ok service.canary) :
      Course storage store (.ok (service, state))

theorem start_course (s : Settings) (given : Option Evaluator) (store : FileStore) :
    Course s.storage store (start s given store).result := by
  have hmaps := mapsOf_result s store
  cases hstable : loadedAlone s.storage store .stable with
  | error fault =>
    rw [hstable] at hmaps
    rw [start_of_fault hmaps]
    exact .noStable hstable
  | ok stable =>
    cases hcanary : loadedAlone s.storage store .canary with
    | error fault =>
      rw [hstable, hcanary] at hmaps
      rw [start_of_fault hmaps]
      exact .noCanary hstable hcanary
    | ok canary =>
      rw [hstable, hcanary] at hmaps
      rw [start_of_maps hmaps]
      exact .ready hstable hcanary

namespace Course

variable {result : Except ServiceError (Service × ServiceState)}

theorem exists_ok_iff (h : Course storage store result) :
    (∃ started, result = .ok started) ↔ ∀ cohort, ∃ m, loadedAlone storage store cohort = .ok m := by
  constructor
  · rintro ⟨started, hresult⟩ cohort
    cases h with
    | noStable | noCanary => cases hresult
    | ready hstable hcanary =>
      cases cohort with
      | stable => exact ⟨_, hstable⟩
      | canary => exact ⟨_, hcanary⟩
  · intro hloads
    cases h with
    | noStable hfault =>
      obtain ⟨m, hm⟩ := hloads .stable
      cases hfault.symm.trans hm
    | noCanary _ hfault =>
      obtain ⟨m, hm⟩ := hloads .canary
      cases hfault.symm.trans hm
    | ready => exact ⟨_, rfl⟩

/-- A service that has started has the maps that were loaded. -/
theorem exists_clusterMap_eq_iff (h : Course storage store result) (maps : Cohort → ClusterMap) :
    (∃ service state, result = .ok (service, state) ∧ service.clusterMap = maps) ↔
      ∀ cohort, loadedAlone storage store cohort = .ok (maps cohort) := by
  constructor
  · rintro ⟨service, state, hresult, rfl⟩ cohort
    cases h with
    | noStable | noCanary => cases hresult
    | ready hstable hcanary =>
      cases hresult
      cases cohort with
      | stable => exact hstable
      | canary => exact hcanary
  · intro hloads
    obtain ⟨⟨service, state⟩, rfl⟩ := h.exists_ok_iff.2 fun cohort => ⟨_, hloads cohort⟩
    refine ⟨service, state, rfl, funext fun cohort => ?_⟩
    cases h with
    | ready hstable hcanary =>
      cases cohort with
      | stable => exact Except.ok.inj (hstable.symm.trans (hloads .stable))
      | canary => exact Except.ok.inj (hcanary.symm.trans (hloads .canary))

theorem eq_error_iff (h : Course storage store result) (e : ServiceError) :
    result = .error e ↔
      (∃ fault, loadedAlone storage store .stable = .error fault ∧ e = fault.error) ∨
        ∃ m fault, loadedAlone storage store .stable = .ok m ∧
          loadedAlone storage store .canary = .error fault ∧ e = fault.error := by
  constructor
  · intro hresult
    cases h with
    | noStable hfault =>
      cases hresult
      exact .inl ⟨_, hfault, rfl⟩
    | noCanary hstable hfault =>
      cases hresult
      exact .inr ⟨_, _, hstable, hfault, rfl⟩
    | ready => cases hresult
  · rintro (⟨fault, hfault, rfl⟩ | ⟨m, fault, hm, hfault, rfl⟩)
    · cases h with
      | noStable hfault' => cases hfault.symm.trans hfault'; rfl
      | noCanary hstable _ | ready hstable _ => cases hfault.symm.trans hstable
    · cases h with
      | noStable hfault' => cases hm.symm.trans hfault'
      | noCanary _ hfault' => cases hfault.symm.trans hfault'; rfl
      | ready _ hcanary => cases hfault.symm.trans hcanary

end Course

/-- **Start-up validates both cohorts, each on its own.** Whatever the canary rollout, the log output
and the evaluator are, the service starts exactly if both maps load, and it then has these maps; if it
does not start, the error is that of the stable map, or that of the canary map if the stable one
loads. And maps that are loaded from files in memory, one after the other through one cache, are those
that each would be through a cache of its own. -/
theorem start_validates_both (storage : StorageSettings) (store : FileStore) :
    (∀ (canary : CanarySettings) (logging : LoggingSettings) (given : Option Evaluator),
      ((∃ started, (start ⟨storage, canary, logging⟩ given store).result = .ok started) ↔
        ∀ cohort, ∃ m, loadedAlone storage store cohort = .ok m) ∧
      (∀ maps : Cohort → ClusterMap,
        (∃ service state, (start ⟨storage, canary, logging⟩ given store).result =
            .ok (service, state) ∧ service.clusterMap = maps) ↔
          ∀ cohort, loadedAlone storage store cohort = .ok (maps cohort)) ∧
      ∀ e, (start ⟨storage, canary, logging⟩ given store).result = .error e ↔
        (∃ fault, loadedAlone storage store .stable = .error fault ∧ e = fault.error) ∨
          ∃ m fault, loadedAlone storage store .stable = .ok m ∧
            loadedAlone storage store .canary = .error fault ∧ e = fault.error) ∧
    ∀ (files : MemoryStore) (sources : List (Path × String)),
      loadAll files.fileStore {} sources =
        sources.map fun source =>
          (ClusterMap.load source.1 source.2 files.fileStore {}).result := by
  constructor
  · intro canary logging given
    have hcourse := start_course ⟨storage, canary, logging⟩ given store
    exact ⟨hcourse.exists_ok_iff, hcourse.exists_clusterMap_eq_iff, hcourse.eq_error_iff⟩
  · intro files sources
    rw [loadAll_of_transparent (.new files)]
    refine List.map_congr_left fun source _ => ?_
    rw [ClusterMap.load_of_transparent (.new files)]

end Startup

end RemoteRollout
