import RemoteRollout.Startup
import RemoteRollout.Proofs.ClusterMap.Loading

/-!
# Validated services

`Service.Validated` is what a start-up establishes: both maps came from the files, through the
cache that the service goes on with. It does not matter which of them came first, or whether others
were tried.
-/

namespace RemoteRollout

open ClusterMap (LoadedThrough)

/-- Both maps were loaded from these files, through this cache. -/
def Service.Validated (s : Service) (files : MemoryStore) (c : Cache) : Prop :=
  ∃ ms, LoadedThrough files c ms ∧ s.stable ∈ ms ∧ s.canary ∈ ms

namespace Startup

variable {files : MemoryStore}

/-- Both maps of a start-up are loaded, the canary one through the cache that the stable one went
through. -/
theorem loads_of_loadMaps {stableRoot canaryRoot : Path} {name : String} {store : FileStore}
    {c : Cache} {stable canary : ClusterMap}
    (h : (loadMaps stableRoot canaryRoot name store c).result = .ok (stable, canary)) :
    (ClusterMap.load stableRoot name store c).result = .ok stable ∧
      (ClusterMap.load canaryRoot name store
        (ClusterMap.load stableRoot name store c).cache).result = .ok canary ∧
      (loadMaps stableRoot canaryRoot name store c).cache =
        (ClusterMap.load canaryRoot name store
          (ClusterMap.load stableRoot name store c).cache).cache := by
  unfold loadMaps at h ⊢
  cases hstable : (ClusterMap.load stableRoot name store c).result with
  | error fault =>
    simp only [hstable] at h
    cases h
  | ok m =>
    simp only [hstable] at h ⊢
    cases hcanary : (ClusterMap.load canaryRoot name store
        (ClusterMap.load stableRoot name store c).cache).result with
    | error fault =>
      rw [hcanary] at h
      cases h
    | ok n =>
      rw [hcanary] at h
      cases h
      exact ⟨rfl, rfl, trivial⟩

theorem loadedThrough_of_loadMaps {stableRoot canaryRoot : Path} {name : String}
    {stable canary : ClusterMap}
    (h : (loadMaps stableRoot canaryRoot name files.fileStore {}).result = .ok (stable, canary)) :
    LoadedThrough files (loadMaps stableRoot canaryRoot name files.fileStore {}).cache
      [canary, stable] := by
  obtain ⟨hstable, hcanary, hcache⟩ := loads_of_loadMaps h
  rw [hcache]
  exact .loaded (.loaded .new hstable) hcanary

/-- The parts of the service that a start-up ends with. -/
theorem parts_of_start {settings : Settings} {given : Option Evaluator} {store : FileStore}
    {s : Service} {state : ServiceState}
    (h : (start settings given store).result = .ok (s, state)) :
    s.rulesPath = settings.storage.rulesPath ∧ s.selector = selector settings given ∧
      s.stable.LoadedBelow (cohortRoot settings .stable) ∧
      s.canary.LoadedBelow (cohortRoot settings .canary) := by
  dsimp only [start] at h
  split at h
  · cases h
  · next stable canary hmaps =>
    cases h
    obtain ⟨hstable, hcanary, -⟩ := loads_of_loadMaps hmaps
    exact ⟨rfl, rfl, ⟨_, _, _, hstable⟩, ⟨_, _, _, hcanary⟩⟩

/-- A service has served nothing when it starts. -/
theorem metrics_of_start {settings : Settings} {given : Option Evaluator} {store : FileStore}
    {s : Service} {state : ServiceState}
    (h : (start settings given store).result = .ok (s, state)) : state.metrics = {} := by
  dsimp only [start] at h
  split at h
  · cases h
  · cases h
    rfl

/-- The service that a start-up on files in memory ends with is validated. -/
theorem validated_of_start {settings : Settings} {given : Option Evaluator} {s : Service}
    {state : ServiceState} (h : (start settings given files.fileStore).result = .ok (s, state)) :
    s.Validated files state.cache := by
  dsimp only [start] at h
  split at h
  · cases h
  · next stable canary hmaps =>
    cases h
    refine ⟨_, loadedThrough_of_loadMaps hmaps, ?_, ?_⟩
    · exact List.mem_cons_of_mem _ List.mem_cons_self
    · exact List.mem_cons_self

/-! ## Files under other spellings -/

/-- Settings whose paths have more slashes than they need. -/
def slashedSettings : Settings where
  storage := { rulesPath := ⟨"/rules/"⟩, remoteConfigurationPath := ⟨"/remote//"⟩
               clusterMapping := "./map.json" }
  canary := { enabled := true, canaryClusters := ["c1"] }

/-- The files that these settings name, under other spellings. -/
def slashedFiles : MemoryStore :=
  .ofList [
    (⟨"/remote/stable/map.json"⟩,
      Text.Utf8.ofString "[[\"1.0.0\", \"./old.json\"], [\"2.0.0-0\", \"dir//new.json/\"]]"),
    (⟨"/remote/./canary/map.json"⟩, Text.Utf8.ofString "[[\"1.0.0\", \".//old.json\"]]"),
    (⟨"/remote/stable/old.json"⟩, Text.Utf8.ofString "\x7b\"version\": \"a\"\x7d"),
    (⟨"/remote/stable/dir/new.json"⟩, []),
    (⟨"/remote/canary/old.json"⟩, Text.Utf8.ofString "\x7b\"version\": \"b\"\x7d")]

theorem start_slashedFiles :
    ∃ s state, (start slashedSettings none slashedFiles.fileStore).result = .ok (s, state) := by
  obtain ⟨⟨s, state⟩, h⟩ := exists_eq_ok_of_toBool
    (show (start slashedSettings none slashedFiles.fileStore).result.toBool = true by
      decide +kernel)
  exact ⟨s, state, h⟩

end Startup

end RemoteRollout
