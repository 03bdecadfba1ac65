import RemoteRollout.Proofs.ClusterMap.Acceptance
import RemoteRollout.Proofs.Storage.ReadThrough

/-!
# Loading cluster maps

A map is loaded from one file, read through the cache that requests will use. `LoadedThrough` says
of a cache which maps have been loaded through it since it was new; such a cache shows nothing but
the files (`LoadedThrough.transparent`), and the artifacts of these maps are all there
(`LoadedThrough.isSome_artifact`).
-/

namespace RemoteRollout.ClusterMap

variable {root : Path} {name : String} {store : FileStore} {c : Cache} {m : ClusterMap}

/-! ## One map -/

/-- The map that these bytes of its file stand for; without any the file is missing. -/
def mapOf (root : Path) (name : String) (store : FileStore) :
    Option Bytes → Except LoadFault ClusterMap
  | none => .error (.absent (root.join name))
  | some bytes => ofBytes root (root.join name) store bytes

theorem load_result (root : Path) (name : String) (store : FileStore) (c : Cache) :
    (load root name store c).result = mapOf root name store (c.get store (root.join name)).1 := by
  dsimp only [load]
  rcases c.get store (root.join name) with ⟨_ | bytes, after, event⟩
  · rfl
  · dsimp only [mapOf]
    cases ofBytes root (root.join name) store bytes with
    | error fault => rfl
    | ok m => rfl

theorem load_cache (root : Path) (name : String) (store : FileStore) (c : Cache) :
    (load root name store c).cache = (c.get store (root.join name)).2.1 := by
  dsimp only [load]
  rcases c.get store (root.join name) with ⟨_ | bytes, after, event⟩
  · rfl
  · dsimp only
    cases ofBytes root (root.join name) store bytes with
    | error fault => rfl
    | ok m => rfl

/-- The map in the file with this name below the root, read from the store. -/
def loadAfresh (root : Path) (name : String) (store : FileStore) : Except LoadFault ClusterMap :=
  match store.read (root.join name) with
  | .error _ => .error (.absent (root.join name))
  | .ok bytes => ofBytes root (root.join name) store bytes

/-- Loading a map through a transparent cache is loading it afresh. -/
theorem load_of_transparent {files : MemoryStore} (h : c.Transparent files) (root : Path)
    (name : String) :
    (load root name files.fileStore c).result = loadAfresh root name files.fileStore := by
  rw [load_result, Cache.get_answers, h, loadAfresh]
  dsimp only [MemoryStore.fileStore]
  cases files.get? (root.join name) with
  | none => rfl
  | some bytes => rfl

/-- A map that is loaded after another one, through the same cache, is the one that a cache of its own
would give; as long as the store has the same bytes of both files if their paths are one. -/
theorem load_after_load {root' : Path}
    (h : (root.join name).components = (root'.join name).components →
      (store.read (root.join name)).toOption = (store.read (root'.join name)).toOption) :
    (load root' name store (load root name store {}).cache).result =
      (load root' name store {}).result := by
  rw [load_result, load_result, load_cache, Cache.get_after_get h]

/-- A map that was read from bytes was built of some rows. -/
theorem exists_rows_of_ofBytes {path : Path} {bytes : Bytes}
    (h : ofBytes root path store bytes = .ok m) : ∃ rows, build root rows store = .ok m := by
  unfold ofBytes at h
  split at h
  · cases h
  · next rows _ =>
    cases hbuild : build root rows store with
    | error fault =>
      rw [hbuild] at h
      cases h
    | ok built =>
      rw [hbuild] at h
      cases h
      exact ⟨rows, hbuild⟩

/-- A map that has been loaded was built of some rows. -/
theorem exists_rows_of_loadAfresh (h : loadAfresh root name store = .ok m) :
    ∃ rows, build root rows store = .ok m := by
  unfold loadAfresh at h
  split at h
  · cases h
  · exact exists_rows_of_ofBytes h

/-- The same holds of a map that was loaded through a cache, whatever the cache showed of it. -/
theorem exists_rows_of_load (h : (load root name store c).result = .ok m) :
    ∃ rows, build root rows store = .ok m := by
  rw [load_result] at h
  cases hbytes : (c.get store (root.join name)).1 with
  | none =>
    rw [hbytes] at h
    cases h
  | some bytes =>
    rw [hbytes] at h
    exact exists_rows_of_ofBytes h

/-- The artifacts of a map exist below its own root: the path that was probed for an entry is the
path that requests for the entry read. -/
theorem isFile_artifact {rows : List (List String)} (h : build root rows store = .ok m)
    {entry : MapEntry} (hmem : entry ∈ m.entries) :
    store.isFile (m.artifactPath entry.artifact) = true := by
  obtain ⟨i, hi⟩ := List.mem_iff_getElem?.1 hmem
  obtain ⟨text, hrow, -⟩ := (entries_of_build h i entry).1 hi
  rw [artifactPath, root_of_build h]
  exact (acceptable_of_build h).existing text entry.artifact (List.mem_of_getElem? hrow)

/-- The artifacts of a map are local. -/
theorem isLocal_of_build {rows : List (List String)} (h : build root rows store = .ok m)
    {entry : MapEntry} (hmem : entry ∈ m.entries) : Path.isLocal entry.artifact = true := by
  obtain ⟨i, hi⟩ := List.mem_iff_getElem?.1 hmem
  obtain ⟨text, hrow, -⟩ := (entries_of_build h i entry).1 hi
  exact (acceptable_of_build h).inside text entry.artifact (List.mem_of_getElem? hrow)

/-- The map was loaded from a file below this root, whatever its name, store and cache were. -/
def LoadedBelow (m : ClusterMap) (root : Path) : Prop :=
  ∃ name store c, (load root name store c).result = .ok m

theorem LoadedBelow.root_eq (h : m.LoadedBelow root) : m.root = root := by
  obtain ⟨name, store, c, hload⟩ := h
  obtain ⟨rows, hbuild⟩ := exists_rows_of_load hload
  exact root_of_build hbuild

theorem LoadedBelow.isLocal (h : m.LoadedBelow root) {entry : MapEntry}
    (hmem : entry ∈ m.entries) : Path.isLocal entry.artifact = true := by
  obtain ⟨name, store, c, hload⟩ := h
  obtain ⟨rows, hbuild⟩ := exists_rows_of_load hload
  exact isLocal_of_build hbuild hmem

/-! ## All maps of a start-up -/

/-- A cache in front of these files through which these maps have been loaded, the latest first.
Attempts that failed leave their traces in the cache too. -/
inductive LoadedThrough (files : MemoryStore) : Cache → List ClusterMap → Prop where
  | new : LoadedThrough files {} []
  | refused {c : Cache} {ms : List ClusterMap} {root : Path} {name : String} {fault : LoadFault}
      (h : LoadedThrough files c ms)
      (hload : (load root name files.fileStore c).result = .error fault) :
      LoadedThrough files (load root name files.fileStore c).cache ms
  | loaded {c : Cache} {ms : List ClusterMap} {root : Path} {name : String} {m : ClusterMap}
      (h : LoadedThrough files c ms)
      (hload : (load root name files.fileStore c).result = .ok m) :
      LoadedThrough files (load root name files.fileStore c).cache (m :: ms)

namespace LoadedThrough

variable {files : MemoryStore} {ms : List ClusterMap}

/-- Loading does not make a cache show anything but the files. -/
theorem transparent (h : LoadedThrough files c ms) : c.Transparent files := by
  induction h with
  | new => exact .new files
  | refused _ _ ih =>
    rw [load_cache]
    exact ih.get _
  | loaded _ _ ih =>
    rw [load_cache]
    exact ih.get _

/-- The maps are those in the files. -/
theorem exists_loadAfresh (h : LoadedThrough files c ms) (hm : m ∈ ms) :
    ∃ root name, loadAfresh root name files.fileStore = .ok m := by
  induction h with
  | new => cases hm
  | refused _ _ ih => exact ih hm
  | loaded h hload ih =>
    rcases List.mem_cons.1 hm with rfl | hm
    · rw [load_of_transparent h.transparent] at hload
      exact ⟨_, _, hload⟩
    · exact ih hm

/-- A cache shows bytes of every artifact of the maps loaded through it. -/
theorem isSome_artifact (h : LoadedThrough files c ms) (hm : m ∈ ms) {entry : MapEntry}
    (hmem : entry ∈ m.entries) :
    (c.bytes? files (m.artifactPath entry.artifact)).isSome = true := by
  obtain ⟨root, name, hload⟩ := h.exists_loadAfresh hm
  obtain ⟨rows, hbuild⟩ := exists_rows_of_loadAfresh hload
  rw [h.transparent]
  exact MemoryStore.isFile_iff.1 (isFile_artifact hbuild hmem)

end LoadedThrough

end RemoteRollout.ClusterMap
