import RemoteRollout.Proofs.ClusterMap.Loading
import RemoteRollout.Proofs.Documents.RoundTrip
import RemoteRollout.Proofs.Json.Accepted

/-!
# Maps that were written

A map's file holds its rows as a `JSON` list of lists of strings. The texts of the rows are the bytes
that are read as the rows, and no others (`decode_eq_ok_iff_textOf`). So loading a map from a file
that was written, whatever white space and escapes it was written with, is building it of the rows;
and any other content is refused before an artifact is looked at (`load_written`).
-/

namespace RemoteRollout.ClusterMap

open Json (Tree Source Sound Recovers)
open Text.Utf8 (encode)

/-! ## Texts of rows -/

/-- The rows of a map as a value of `JSON`. -/
def rowsTree (rows : List (List String)) : Tree :=
  .list (rows.map fun row => .list (row.map .string))

/-- The bytes are a text of the rows. -/
def TextOf (rows : List (List String)) (bytes : Bytes) : Prop :=
  ∃ cs, (rowsTree rows).source.Document cs ∧ bytes = encode cs

theorem numbersFit_rowsTree (rows : List (List String)) : (rowsTree rows).NumbersFit := by
  simp [rowsTree]

theorem textOf_compact (rows : List (List String)) : TextOf rows (encode (rowsTree rows).compact) :=
  ⟨_, Json.document_compact (numbersFit_rowsTree rows), rfl⟩

theorem textOf_pretty (rows : List (List String)) : TextOf rows (encode (rowsTree rows).pretty) :=
  ⟨_, Json.document_pretty (numbersFit_rowsTree rows), rfl⟩

theorem source_rowsTree (rows : List (List String)) :
    (rowsTree rows).source =
      .list (rows.map fun row => .list (row.map fun s => .string (some s))) := by
  simp only [rowsTree, Tree.source, Tree.sources_eq_map, List.map_map]
  congr 2
  funext row
  simp only [Function.comp_apply, Tree.source, Tree.sources_eq_map, List.map_map]
  rfl

theorem sound_readRows : Sound readRows fun rows => (rowsTree rows).source := by
  simp only [source_rowsTree]
  exact Json.sound_readString.list.list

theorem recovers_rows (rows : List (List String)) :
    Recovers readRows Json.maxDepth (rowsTree rows) rows := by
  refine Json.recovers_list ?_
  rw [List.forall₂_map_left_iff, List.forall₂_same]
  exact fun row _ => recovers_strings row

/-- The bytes that are read as rows are the texts of the rows. -/
theorem decode_eq_ok_iff_textOf {rows : List (List String)} {bytes : Bytes} :
    Json.decode readRows bytes = .ok rows ↔ TextOf rows bytes := by
  refine ⟨sound_readRows.exists_document, ?_⟩
  rintro ⟨cs, hdocument, rfl⟩
  exact (Json.decode_eq_ok_iff hdocument).2 (recovers_rows rows _ (Json.scan_document hdocument).1)

/-! ## Loading -/

variable {root path : Path} {name : String} {store : FileStore} {files : MemoryStore}
  {rows : List (List String)} {bytes : Bytes}

theorem ofBytes_of_textOf (h : TextOf rows bytes) :
    ofBytes root path store bytes = (build root rows store).mapError .invalid := by
  rw [ofBytes, decode_eq_ok_iff_textOf.2 h]

/-- The fault of bytes that are no text of any rows does not depend on the store. -/
theorem exists_fault_of_not_textOf (h : ∀ rows, ¬TextOf rows bytes) (root path : Path) :
    ∃ fault, ∀ store, ofBytes root path store bytes = .error fault := by
  cases hdecode : Json.decode readRows bytes with
  | ok rows => exact absurd (decode_eq_ok_iff_textOf.1 hdecode) (h rows)
  | error fault =>
    refine ⟨.undecodable path fault, fun store => ?_⟩
    rw [ofBytes, hdecode]

theorem load_result_new (root : Path) (name : String) (files : MemoryStore) :
    (load root name files.fileStore {}).result =
      mapOf root name files.fileStore (files.get? (root.join name)) := by
  rw [load_result, Cache.get_answers]
  rfl

/-- A new cache keeps the file of the map, and has read nothing else. -/
theorem load_cache_new (h : files.get? (root.join name) = some bytes) :
    (load root name files.fileStore {}).cache.entries.entries =
        [((root.join name).components, bytes)] ∧
      (load root name files.fileStore {}).cache.reads = 1 := by
  have hnew : ({} : Cache).entries.get? (root.join name) = none := rfl
  rw [load_cache, Cache.get, hnew]
  dsimp only
  rw [MemoryStore.read_eq_ok_iff.2 h]
  exact ⟨PathTable.entries_set_of_none hnew, rfl⟩

/-- **Loading a written map is building it.** Where the file of a map holds a text of some rows,
compact or pretty or any other, a new cache gives the map that is built of the rows, or the error of
building it, and keeps that file and nothing else. Where it holds anything else, or is missing, the
configuration is refused for a reason that no other file has a part in. -/
theorem load_written (root : Path) (name : String) :
    (∀ rows, TextOf rows (encode (rowsTree rows).compact) ∧
      TextOf rows (encode (rowsTree rows).pretty)) ∧
    (∀ rows bytes, TextOf rows bytes → ∀ files : MemoryStore,
      files.get? (root.join name) = some bytes →
        (load root name files.fileStore {}).result.mapError LoadFault.error =
            (build root rows files.fileStore).mapError MapFault.error ∧
          (load root name files.fileStore {}).cache.entries.entries =
            [((root.join name).components, bytes)] ∧
          (load root name files.fileStore {}).cache.reads = 1) ∧
    ∀ content : Option Bytes, (∀ bytes ∈ content, ∀ rows, ¬TextOf rows bytes) →
      ∃ fault : LoadFault, fault.error.kind = .configInvalid ∧ ∀ files : MemoryStore,
        files.get? (root.join name) = content →
          (load root name files.fileStore {}).result = .error fault := by
  refine ⟨fun rows => ⟨textOf_compact rows, textOf_pretty rows⟩, ?written, ?refused⟩
  case written =>
    intro rows bytes htext files hfile
    refine ⟨?_, load_cache_new hfile⟩
    rw [load_result_new, hfile, mapOf, ofBytes_of_textOf htext]
    cases build root rows files.fileStore with
    | error fault => rfl
    | ok m => rfl
  case refused =>
    intro content hcontent
    cases content with
    | none =>
      refine ⟨.absent (root.join name), rfl, fun files hfile => ?_⟩
      rw [load_result_new, hfile, mapOf]
    | some bytes =>
      obtain ⟨fault, hfault⟩ :=
        exists_fault_of_not_textOf (hcontent bytes rfl) root (root.join name)
      refine ⟨fault, rfl, fun files hfile => ?_⟩
      rw [load_result_new, hfile, mapOf, hfault]

/-- The artifacts around the pre-release, and a file with this content for their map. -/
def boundaryFilesWith (content : Bytes) : MemoryStore :=
  boundaryFiles.set ⟨"/remote/stable/map.json"⟩ content

theorem get?_boundaryFilesWith (content : Bytes) :
    (boundaryFilesWith content).get? ((Path.mk "/remote/stable").join "map.json") = some content := by
  rw [boundaryFilesWith, PathTable.get?_set, if_pos (by decide +kernel)]

/-- A row of which one field is a number. -/
def numberedRow : Bytes := Text.Utf8.ofString "[[\"1.0.0\", 7]]"

theorem not_textOf_numberedRow (rows : List (List String)) : ¬TextOf rows numberedRow := by
  intro htext
  have hdecode : (Json.decode readRows numberedRow).toBool = false := by decide +kernel
  rw [decode_eq_ok_iff_textOf.2 htext] at hdecode
  cases hdecode

/-- Rows that were written with a line for every string are loaded as the map that is built of them,
and a row with a number is refused whatever the artifacts are. -/
theorem load_written_boundaryRows :
    (∃ m, (load ⟨"/remote/stable"⟩ "map.json"
        (boundaryFilesWith (encode (rowsTree boundaryRows).pretty)).fileStore {}).result = .ok m ∧
      m.size = 3) ∧
    (load ⟨"/remote/stable"⟩ "map.json"
      (boundaryFilesWith (encode (rowsTree boundaryRows).pretty)).fileStore {}).cache.reads = 1 ∧
    ∃ fault : LoadFault, fault.error.kind = .configInvalid ∧
      (load ⟨"/remote/stable"⟩ "map.json" (boundaryFilesWith numberedRow).fileStore {}).result =
        .error fault := by
  obtain ⟨htexts, hwritten, hrefused⟩ := load_written ⟨"/remote/stable"⟩ "map.json"
  obtain ⟨hresult, -, hreads⟩ :=
    hwritten boundaryRows _ (htexts boundaryRows).2 _ (get?_boundaryFilesWith _)
  refine ⟨?loaded, hreads, ?refused⟩
  case loaded =>
    have hsize : (build ⟨"/remote/stable"⟩ boundaryRows
        (boundaryFilesWith (encode (rowsTree boundaryRows).pretty)).fileStore).toOption.map size =
          some 3 := by
      decide +kernel
    obtain ⟨m, hm, hsize⟩ := Option.map_eq_some_iff.1 hsize
    rw [Json.eq_ok_of_toOption hm] at hresult
    cases hload : (load ⟨"/remote/stable"⟩ "map.json"
        (boundaryFilesWith (encode (rowsTree boundaryRows).pretty)).fileStore {}).result with
    | error fault =>
      rw [hload] at hresult
      cases hresult
    | ok m' =>
      rw [hload] at hresult
      cases hresult
      exact ⟨m, rfl, hsize⟩
  case refused =>
    obtain ⟨fault, hkind, hfault⟩ := hrefused (some numberedRow) (by
      rintro bytes ⟨⟩ rows
      exact not_textOf_numberedRow rows)
    exact ⟨fault, hkind, hfault _ (get?_boundaryFilesWith _)⟩

end RemoteRollout.ClusterMap
