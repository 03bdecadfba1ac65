import Mathlib.Data.List.Forall2
import RemoteRollout.ClusterMap
import RemoteRollout.Proofs.Precedence

/-!
# Which rows make a cluster map

`Acceptable` says of rows, without building anything, what a cluster map asks of them: each is a
version and an artifact that exists below the root, and any two of them ascend.
`build_eq_ok_iff` opens the building once; what a built map holds and which rows are accepted are
read off it.
-/

namespace RemoteRollout

/-- What computes to a success is one. -/
theorem exists_eq_ok_of_toBool {ε α : Type} {x : Except ε α} (h : x.toBool = true) :
    ∃ a, x = .ok a := by
  cases x with
  | error e => cases h
  | ok a => exact ⟨a, rfl⟩

namespace ClusterMap

/-! ## Rows and entries -/

/-- The row at this place spells the version of the entry and names its artifact. -/
def EntryAt (rows : List (List String)) (place : Nat) (entry : MapEntry) : Prop :=
  ∃ text, rows[place]? = some [text, entry.artifact] ∧ Version.parse text = .ok entry.version

/-- A row spells one entry only. -/
theorem EntryAt.unique {rows : List (List String)} {place : Nat} {a b : MapEntry}
    (ha : EntryAt rows place a) (hb : EntryAt rows place b) : a = b := by
  obtain ⟨text, hrow, hversion⟩ := ha
  obtain ⟨text', hrow', hversion'⟩ := hb
  obtain ⟨version, artifact⟩ := a
  obtain ⟨version', artifact'⟩ := b
  cases hrow.symm.trans hrow'
  cases hversion.symm.trans hversion'
  rfl

/-- What holds of the place and the version of every entry can be read off the version texts. -/
theorem forall_entryAt {rows : List (List String)} {P : Nat → Version → Prop}
    (h : ∀ row ∈ rows.zipIdx, ∀ text ∈ row.1.head?, ∀ v ∈ (Version.parse text).toOption, P row.2 v)
    (place : Nat) (entry : MapEntry) (hentry : EntryAt rows place entry) :
    P place entry.version := by
  obtain ⟨text, hrow, hversion⟩ := hentry
  refine h ([text, entry.artifact], place) (List.mem_zipIdx_iff_getElem?.2 hrow) text rfl _ ?_
  rw [hversion]
  rfl

/-- What rows must be to make a cluster map below the root. -/
structure Acceptable (root : Path) (rows : List (List String)) (store : FileStore) : Prop where
  nonempty : rows ≠ []
  pairs : ∀ row ∈ rows, row.length = 2
  versions : ∀ text artifact, [text, artifact] ∈ rows → ∃ v, Version.parse text = .ok v
  inside : ∀ text artifact, [text, artifact] ∈ rows → Path.isLocal artifact = true
  existing : ∀ text artifact, [text, artifact] ∈ rows → store.isFile (root.join artifact) = true
  ascending : ∀ i j a b, i < j → EntryAt rows i a → EntryAt rows j b → a.version.Before b.version

variable {root : Path} {rows : List (List String)} {store : FileStore}

theorem entryOfRow_eq_ok_iff {row : List String} {entry : MapEntry} :
    entryOfRow root store row = .ok entry ↔
      ∃ text, row = [text, entry.artifact] ∧ Version.parse text = .ok entry.version ∧
        Path.isLocal entry.artifact = true ∧
        store.isFile (root.join entry.artifact) = true := by
  constructor
  · intro h
    unfold entryOfRow at h
    split at h
    · next text artifact =>
      split at h
      · cases h
      · next version hversion =>
        split at h
        · cases h
        · next hlocal =>
          split at h
          · cases h
          · next hfile =>
            cases h
            exact ⟨text, rfl, hversion, by simpa using hlocal, by simpa using hfile⟩
    · cases h
  · rintro ⟨text, rfl, hversion, hlocal, hfile⟩
    simp [entryOfRow, hversion, hlocal, hfile]

/-- These entries are those of the rows, one by one. -/
abbrev ReadAs (root : Path) (store : FileStore) (rows : List (List String))
    (entries : List MapEntry) : Prop :=
  List.Forall₂ (fun row entry => entryOfRow root store row = .ok entry) rows entries

theorem entriesOfRows_eq_ok_iff {entries : List MapEntry} :
    entriesOfRows root store rows = .ok entries ↔ ReadAs root store rows entries := by
  induction rows generalizing entries with
  | nil =>
    rw [entriesOfRows, ReadAs, List.forall₂_nil_left_iff]
    constructor
    · intro h
      cases h
      rfl
    · rintro rfl
      rfl
  | cons row rows ih =>
    rw [entriesOfRows, ReadAs, List.forall₂_cons_left_iff]
    constructor
    · intro h
      cases hrow : entryOfRow root store row with
      | error fault => rw [hrow] at h; cases h
      | ok entry =>
        cases hrows : entriesOfRows root store rows with
        | error fault => rw [hrow, hrows] at h; cases h
        | ok rest =>
          rw [hrow, hrows] at h
          cases h
          exact ⟨entry, rest, rfl, ih.1 hrows, rfl⟩
    · rintro ⟨entry, rest, hrow, hrest, rfl⟩
      rw [hrow, ih.2 hrest]
      rfl

section Related

variable {α β : Type} {R : α → β → Prop} {as : List α} {bs : List β} {i : Nat}

/-- An element of one list is related to the element at its place in a related list. -/
theorem exists_right_of_related (h : List.Forall₂ R as bs) {a : α} (ha : as[i]? = some a) :
    ∃ b, bs[i]? = some b ∧ R a b := by
  induction h generalizing i with
  | nil => cases ha
  | cons hab _ ih =>
    cases i with
    | zero =>
      cases ha
      exact ⟨_, rfl, hab⟩
    | succ i => exact ih ha

theorem exists_left_of_related (h : List.Forall₂ R as bs) {b : β} (hb : bs[i]? = some b) :
    ∃ a, as[i]? = some a ∧ R a b :=
  exists_right_of_related (R := fun b a => R a b) h.flip hb

end Related

/-- Rows that have been read together can be read one by one. -/
theorem exists_entry_of_mem {entries : List MapEntry} (h : ReadAs root store rows entries) :
    ∀ row ∈ rows, ∃ entry, entryOfRow root store row = .ok entry := by
  intro row hrow
  obtain ⟨i, hi⟩ := List.mem_iff_getElem?.1 hrow
  obtain ⟨entry, -, hentry⟩ := exists_right_of_related h hi
  exact ⟨entry, hentry⟩

/-- Rows that can be read one by one can be read together. -/
theorem exists_entries (h : ∀ row ∈ rows, ∃ entry, entryOfRow root store row = .ok entry) :
    ∃ entries, ReadAs root store rows entries := by
  induction rows with
  | nil => exact ⟨[], .nil⟩
  | cons row rows ih =>
    obtain ⟨entry, hentry⟩ := h row List.mem_cons_self
    obtain ⟨entries, hentries⟩ := ih fun r hr => h r (List.mem_cons_of_mem row hr)
    exact ⟨entry :: entries, .cons hentry hentries⟩

/-- The entries of rows stand at the places of their rows. -/
theorem getElem?_eq_some_iff_entryAt {entries : List MapEntry}
    (h : ReadAs root store rows entries) (i : Nat) (entry : MapEntry) :
    entries[i]? = some entry ↔ EntryAt rows i entry := by
  constructor
  · intro hentry
    obtain ⟨row, hrow, hok⟩ := exists_left_of_related h hentry
    obtain ⟨text, rfl, hversion, -⟩ := entryOfRow_eq_ok_iff.1 hok
    exact ⟨text, hrow, hversion⟩
  · rintro ⟨text, hrow, hversion⟩
    obtain ⟨found, hfound, hok⟩ := exists_right_of_related h hrow
    obtain ⟨text', heq, hversion', -⟩ := entryOfRow_eq_ok_iff.1 hok
    obtain ⟨version, artifact⟩ := entry
    obtain ⟨version', artifact'⟩ := found
    cases heq
    cases hversion.symm.trans hversion'
    exact hfound

theorem ascending_iff {entries : List MapEntry} :
    Version.Ascending (entries.map MapEntry.version) ↔
      ∀ (i j : Nat) (a b : MapEntry), i < j → entries[i]? = some a → entries[j]? = some b →
        a.version.Before b.version := by
  rw [Version.Ascending, List.pairwise_map, List.pairwise_iff_getElem]
  simp only [Version.precedence_eq_lt_iff]
  constructor
  · intro h i j a b hij ha hb
    obtain ⟨hi, rfl⟩ := List.getElem?_eq_some_iff.1 ha
    obtain ⟨hj, rfl⟩ := List.getElem?_eq_some_iff.1 hb
    exact h i j hi hj hij
  · intro h i j hi hj hij
    exact h i j _ _ hij (List.getElem?_eq_getElem hi) (List.getElem?_eq_getElem hj)

/-! ## Building -/

/-- A map is built of these rows exactly if its entries are those of the rows, one by one. That
they ascend is part of being a map. -/
theorem build_eq_ok_iff {m : ClusterMap} :
    build root rows store = .ok m ↔
      m.root = root ∧ ReadAs root store rows m.entries := by
  rw [← entriesOfRows_eq_ok_iff]
  constructor
  · intro h
    unfold build at h
    split at h
    · cases h
    · cases h
    · next entry entries hentries =>
      split at h
      · cases h
      · cases h
        exact ⟨rfl, hentries⟩
  · -- The invariants of `m` rule out the two faults that concern all rows together.
    obtain ⟨root', entries, hnonempty, hascending⟩ := m
    rintro ⟨rfl, hentries⟩
    unfold build
    split
    · next fault hfault => cases hfault.symm.trans hentries
    · next hempty =>
      cases hempty.symm.trans hentries
      exact absurd rfl hnonempty
    · next entry rest hcons =>
      cases hcons.symm.trans hentries
      split
      · next fault hfault =>
        cases hfault.symm.trans (orderFault?_eq_none_iff.2 hascending)
      · rfl

theorem root_of_build {m : ClusterMap} (h : build root rows store = .ok m) : m.root = root :=
  (build_eq_ok_iff.1 h).1

/-- The entries of a built map are its rows, in their order. -/
theorem entries_of_build {m : ClusterMap} (h : build root rows store = .ok m) (i : Nat)
    (entry : MapEntry) : m.entries[i]? = some entry ↔ EntryAt rows i entry :=
  getElem?_eq_some_iff_entryAt (build_eq_ok_iff.1 h).2 i entry

theorem acceptable_of_build {m : ClusterMap} (h : build root rows store = .ok m) :
    Acceptable root rows store := by
  have hrows := (build_eq_ok_iff.1 h).2
  have hread := exists_entry_of_mem hrows
  have hpair : ∀ text artifact, [text, artifact] ∈ rows →
      (∃ v, Version.parse text = .ok v) ∧ Path.isLocal artifact = true ∧
        store.isFile (root.join artifact) = true := by
    intro text artifact hmem
    obtain ⟨entry, hentry⟩ := hread _ hmem
    obtain ⟨text', heq, hversion, hlocal, hfile⟩ := entryOfRow_eq_ok_iff.1 hentry
    cases heq
    exact ⟨⟨_, hversion⟩, hlocal, hfile⟩
  constructor
  case nonempty =>
    rintro rfl
    exact m.nonempty (List.forall₂_nil_left_iff.1 hrows)
  case pairs =>
    intro row hrow
    obtain ⟨entry, hentry⟩ := hread row hrow
    obtain ⟨text, rfl, -⟩ := entryOfRow_eq_ok_iff.1 hentry
    rfl
  case versions => exact fun text artifact hmem => (hpair text artifact hmem).1
  case inside => exact fun text artifact hmem => (hpair text artifact hmem).2.1
  case existing => exact fun text artifact hmem => (hpair text artifact hmem).2.2
  case ascending =>
    intro i j a b hij ha hb
    rw [← entries_of_build h] at ha hb
    exact ascending_iff.1 m.ascending i j a b hij ha hb

theorem build_of_acceptable (h : Acceptable root rows store) :
    ∃ m, build root rows store = .ok m := by
  have hread : ∀ row ∈ rows, ∃ entry, entryOfRow root store row = .ok entry := by
    intro row hrow
    obtain ⟨text, artifact, rfl⟩ := List.length_eq_two.1 (h.pairs row hrow)
    obtain ⟨v, hv⟩ := h.versions text artifact hrow
    refine ⟨⟨v, artifact⟩, entryOfRow_eq_ok_iff.2 ⟨text, rfl, hv, ?_, ?_⟩⟩
    · exact h.inside text artifact hrow
    · exact h.existing text artifact hrow
  obtain ⟨entries, hentries⟩ := exists_entries hread
  have hnonempty : entries ≠ [] := by
    rintro rfl
    exact h.nonempty (List.forall₂_nil_right_iff.1 hentries)
  have hascending : Version.Ascending (entries.map MapEntry.version) := by
    rw [ascending_iff]
    intro i j a b hij ha hb
    rw [getElem?_eq_some_iff_entryAt hentries] at ha hb
    exact h.ascending i j a b hij ha hb
  exact ⟨⟨root, entries, hnonempty, hascending⟩, build_eq_ok_iff.2 ⟨rfl, hentries⟩⟩

/-- **Exact acceptance**: the rows that make a map are the acceptable ones, the map holds just
these rows in their order, and any other rows are a configuration fault. -/
theorem build_accepts_exactly (root : Path) (rows : List (List String)) (store : FileStore) :
    ((∃ m, build root rows store = .ok m) ↔ Acceptable root rows store) ∧
    (∀ m, build root rows store = .ok m →
      m.root = root ∧ m.entries.length = rows.length ∧
        ∀ i entry, m.entries[i]? = some entry ↔ EntryAt rows i entry) ∧
    (∀ e, (build root rows store).mapError MapFault.error = .error e →
      e.kind = .configInvalid) := by
  refine ⟨⟨?_, build_of_acceptable⟩, ?_, ?_⟩
  · rintro ⟨m, h⟩
    exact acceptable_of_build h
  · intro m h
    exact ⟨root_of_build h, (build_eq_ok_iff.1 h).2.length_eq.symm, entries_of_build h⟩
  · intro e h
    cases hb : build root rows store with
    | ok m => rw [hb] at h; cases h
    | error fault => rw [hb] at h; cases h; rfl

/-! ## Rows around a pre-release -/

/-- Artifacts on both sides of the first pre-release of a version. -/
def boundaryRows : List (List String) :=
  [["1.0.0+build.1", "old.json"], ["4.17.0-0", "./dir//new.json"], ["4.17.0", "newer.json"]]

/-- A store with the artifacts of the rows. -/
def boundaryFiles : MemoryStore :=
  .ofList [(⟨"/remote/stable/old.json"⟩, []), (⟨"/remote/stable/dir/new.json"⟩, []),
    (⟨"/remote//stable/newer.json"⟩, [])]

theorem build_boundaryRows :
    ∃ m, build ⟨"/remote/stable"⟩ boundaryRows boundaryFiles.fileStore = .ok m :=
  exists_eq_ok_of_toBool (by decide +kernel)

theorem boundaryRows_acceptable :
    Acceptable ⟨"/remote/stable"⟩ boundaryRows boundaryFiles.fileStore :=
  (build_accepts_exactly _ _ _).1.1 build_boundaryRows

end ClusterMap

end RemoteRollout
