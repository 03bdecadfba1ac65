import RemoteRollout.Proofs.ClusterMap.Acceptance
import RemoteRollout.Proofs.Spelling

/-!
# Which fault rows are refused for

Rows can be faulty in many ways at once; they are refused for one fault (`Reported`). A row that is
faulty by itself comes before anything about the order, and the first such row before the others.
The order is compared between neighbours only: some version is followed by a lower one exactly if
sorting would change the list (`descends_iff_ne_sortedVersions`).
-/

namespace RemoteRollout

namespace Version

variable {u v w : Version}

/-! ## Sorting -/

theorem isLE_precedence_iff : (v.precedence w).isLE = true ↔ v.AtMost w := by
  rw [← precedence_ne_gt_iff]
  cases v.precedence w <;> decide

theorem AtMost.trans (huv : u.AtMost v) (hvw : v.AtMost w) : u.AtMost w := by
  rw [← isLE_precedence_iff] at *
  exact Std.TransCmp.isLE_trans huv hvw

theorem atMost_total (v w : Version) : v.AtMost w ∨ w.AtMost v := by
  by_cases h : w.Before v
  · exact .inr (.inl h)
  · exact .inl (atMost_iff_not_before.2 h)

theorem Level.trans (huv : u.Level v) (hvw : v.Level w) : u.Level w :=
  ⟨huv.major.trans hvw.major, huv.minor.trans hvw.minor, huv.patch.trans hvw.patch,
    huv.pre.trans hvw.pre⟩

/-- The versions in ascending order, where those of one precedence keep their order. -/
structure IsStableSort (vs sorted : List Version) : Prop where
  ascending : sorted.Pairwise AtMost
  kept : ∀ v : Version, sorted.filter (fun w => v.Level w) = vs.filter (fun w => v.Level w)

end Version

namespace MapFault

open Version (AtMost IsStableSort isLE_precedence_iff)

/-- What sorting by precedence rests on: precedence is transitive and total. -/
theorem isLE_laws :
    (∀ a b c : Version, (a.precedence b).isLE = true → (b.precedence c).isLE = true →
      (a.precedence c).isLE = true) ∧
    ∀ a b : Version, ((a.precedence b).isLE || (b.precedence a).isLE) = true := by
  refine ⟨fun a b c hab hbc => Std.TransCmp.isLE_trans hab hbc, fun a b => ?_⟩
  rw [Bool.or_eq_true, isLE_precedence_iff, isLE_precedence_iff]
  exact Version.atMost_total a b

theorem pairwise_sortedVersions (vs : List Version) : (sortedVersions vs).Pairwise AtMost :=
  (List.pairwise_mergeSort isLE_laws.1 isLE_laws.2 vs).imp isLE_precedence_iff.1

/-- Sorting leaves a list as it is exactly if no version comes after a later one. -/
theorem sortedVersions_eq_self_iff {vs : List Version} :
    sortedVersions vs = vs ↔ vs.Pairwise AtMost := by
  constructor
  · intro h
    rw [← h]
    exact pairwise_sortedVersions vs
  · intro h
    exact List.mergeSort_of_pairwise (h.imp isLE_precedence_iff.2)

theorem isStableSort_sortedVersions (vs : List Version) : IsStableSort vs (sortedVersions vs) := by
  refine ⟨pairwise_sortedVersions vs, fun v => ?_⟩
  -- The versions level with `v` are sorted among themselves, so sorting all keeps them in order.
  have hlevel : (vs.filter fun w => v.Level w).Pairwise fun a b => (a.precedence b).isLE := by
    refine List.pairwise_of_forall_mem_list fun a ha b hb => ?_
    have hva : v.Level a := by simpa using (List.mem_filter.1 ha).2
    have hvb : v.Level b := by simpa using (List.mem_filter.1 hb).2
    exact isLE_precedence_iff.2 (.inr (hva.symm.trans hvb))
  have hsub := (List.sublist_mergeSort isLE_laws.1 isLE_laws.2 hlevel List.filter_sublist).filter
    fun w => v.Level w
  rw [List.filter_filter] at hsub
  simp only [Bool.and_self] at hsub
  have hlength := ((List.mergeSort_perm vs fun a b => (a.precedence b).isLE).filter
    fun w => v.Level w).length_eq
  exact (hsub.eq_of_length hlength.symm).symm

end MapFault

namespace ClusterMap

open Version (AtMost)

variable {root : Path} {store : FileStore} {rows : List (List String)} {row : List String}
  {fault : MapFault} {vs : List Version} {v w : Version}

/-! ## Neighbours -/

/-- These versions stand side by side, the first of them at this place. -/
def NeighboursAt (vs : List Version) (place : Nat) (v w : Version) : Prop :=
  vs[place]? = some v ∧ vs[place + 1]? = some w

theorem not_neighboursAt_singleton {x : Version} {i : Nat} : ¬ NeighboursAt [x] i v w := by
  rintro ⟨-, h⟩
  cases h

/-- Neighbours are the first two, or neighbours in the rest. -/
theorem neighboursAt_cons_cons {x y : Version} {rest : List Version} {i : Nat} :
    NeighboursAt (x :: y :: rest) i v w ↔
      (i = 0 ∧ x = v ∧ y = w) ∨ ∃ j, i = j + 1 ∧ NeighboursAt (y :: rest) j v w := by
  cases i with
  | zero => simp [NeighboursAt]
  | succ j => simp [NeighboursAt]

theorem descends_iff : descends vs = true ↔ ∃ i v w, NeighboursAt vs i v w ∧ w.Before v := by
  induction vs with
  | nil => simp [descends, NeighboursAt]
  | cons x rest ih =>
    cases rest with
    | nil => simp [descends, not_neighboursAt_singleton]
    | cons y rest =>
      rw [descends, Bool.or_eq_true, beq_iff_eq, Version.precedence_eq_gt_iff, ih]
      constructor
      · rintro (h | ⟨i, v, w, hvw, h⟩)
        · exact ⟨0, x, y, ⟨rfl, rfl⟩, h⟩
        · exact ⟨i + 1, v, w, hvw, h⟩
      · rintro ⟨i, v, w, hvw, h⟩
        rcases neighboursAt_cons_cons.1 hvw with ⟨-, rfl, rfl⟩ | ⟨j, -, hvw⟩
        · exact .inl h
        · exact .inr ⟨j, v, w, hvw, h⟩

/-- If no neighbours descend, no two versions do. -/
theorem descends_eq_false_iff : descends vs = false ↔ vs.Pairwise AtMost := by
  induction vs with
  | nil => simp [descends]
  | cons x rest ih =>
    cases rest with
    | nil => simp [descends]
    | cons y rest =>
      rw [List.pairwise_cons, descends, Bool.or_eq_false_iff, ih, beq_eq_false_iff_ne,
        Version.precedence_ne_gt_iff]
      constructor
      · rintro ⟨hxy, hrest⟩
        refine ⟨fun z hz => ?_, hrest⟩
        rcases List.mem_cons.1 hz with rfl | hz
        · exact hxy
        · exact hxy.trans (List.rel_of_pairwise_cons hrest hz)
      · rintro ⟨hx, hrest⟩
        exact ⟨hx y List.mem_cons_self, hrest⟩

/-- Some version is followed by a lower one exactly if the list is not the sorted one. -/
theorem descends_iff_ne_sortedVersions :
    descends vs = true ↔ vs ≠ MapFault.sortedVersions vs := by
  rw [ne_comm, ne_eq, MapFault.sortedVersions_eq_self_iff, ← descends_eq_false_iff,
    Bool.not_eq_false]

/-- The first neighbours of one precedence. -/
structure FirstLevelAt (vs : List Version) (place : Nat) (v w : Version) : Prop where
  neighbours : NeighboursAt vs place v w
  level : v.Level w
  first : ∀ i < place, ∀ a b, NeighboursAt vs i a b → ¬ a.Level b

theorem firstLevelAt_of_repeated? (h : repeated? vs = some (v, w)) :
    ∃ i, FirstLevelAt vs i v w := by
  induction vs with
  | nil => cases h
  | cons x rest ih =>
    cases rest with
    | nil => cases h
    | cons y rest =>
      rw [repeated?] at h
      split at h
      · next hxy =>
        cases h
        exact ⟨0, ⟨rfl, rfl⟩, Version.precedence_eq_eq_iff_level.1 hxy,
          fun i hi => absurd hi (Nat.not_lt_zero i)⟩
      · next hxy =>
        obtain ⟨i, hneighbours, hlevel, hfirst⟩ := ih h
        refine ⟨i + 1, hneighbours, hlevel, ?_⟩
        intro j hj a b hab
        rcases neighboursAt_cons_cons.1 hab with ⟨-, rfl, rfl⟩ | ⟨k, rfl, hab⟩
        · exact fun hlevel => hxy (Version.precedence_eq_eq_iff_level.2 hlevel)
        · exact hfirst k (by omega) a b hab

/-! ## Rows -/

/-- The fault of a row by itself: the first of the checks that it fails. -/
inductive RowFault (root : Path) (store : FileStore) : List String → MapFault → Prop where
  | length {row : List String} (h : row.length ≠ 2) : RowFault root store row (.rowLength row)
  | version {text artifact : String} {fault : Version.Fault}
      (h : Version.parse text = .error fault) :
      RowFault root store [text, artifact] (.version text fault)
  | notLocal {text artifact : String} {v : Version} (hversion : Version.parse text = .ok v)
      (h : Path.isLocal artifact = false) :
      RowFault root store [text, artifact] (.notLocal artifact)
  | missing {text artifact : String} {v : Version} (hversion : Version.parse text = .ok v)
      (hlocal : Path.isLocal artifact = true) (h : store.isFile (root.join artifact) = false) :
      RowFault root store [text, artifact] (.missing (root.join artifact))

/-- The row has a fault by itself. -/
def Faulty (root : Path) (store : FileStore) (row : List String) : Prop :=
  ∃ fault, RowFault root store row fault

theorem entryOfRow_eq_error_iff :
    entryOfRow root store row = .error fault ↔ RowFault root store row fault := by
  constructor
  · intro h
    unfold entryOfRow at h
    split at h
    · next text artifact =>
      split at h
      · next hversion =>
        cases h
        exact .version hversion
      · next hversion =>
        split at h
        · next hlocal =>
          cases h
          exact .notLocal hversion (by simpa using hlocal)
        · next hlocal =>
          split at h
          · next hfile =>
            cases h
            exact .missing hversion (by simpa using hlocal) (by simpa using hfile)
          · cases h
    · next hpair =>
      cases h
      refine .length fun hlength => ?_
      obtain ⟨text, artifact, heq⟩ := List.length_eq_two.1 hlength
      exact hpair text artifact heq
  · intro h
    cases h with
    | length h =>
      unfold entryOfRow
      split
      · exact absurd rfl h
      · rfl
    | version h => simp [entryOfRow, h]
    | notLocal hversion h => simp [entryOfRow, hversion, h]
    | missing hversion hlocal h => simp [entryOfRow, hversion, hlocal, h]

/-- A row without a fault has an entry, and no other row has. -/
theorem not_faulty_iff :
    ¬ Faulty root store row ↔ ∃ entry, entryOfRow root store row = .ok entry := by
  simp only [Faulty, ← entryOfRow_eq_error_iff]
  cases entryOfRow root store row with
  | error fault => simp
  | ok entry => simp

/-- Reading rows fails with the fault of the first faulty one. -/
theorem first_of_entriesOfRows (h : entriesOfRows root store rows = .error fault) :
    ∃ before row after, rows = before ++ row :: after ∧ (∀ r ∈ before, ¬ Faulty root store r) ∧
      RowFault root store row fault := by
  induction rows with
  | nil => cases h
  | cons row rows ih =>
    rw [entriesOfRows] at h
    cases hrow : entryOfRow root store row with
    | error first =>
      rw [hrow] at h
      cases h
      exact ⟨[], row, rows, rfl, by simp, entryOfRow_eq_error_iff.1 hrow⟩
    | ok entry =>
      cases hrows : entriesOfRows root store rows with
      | ok entries =>
        rw [hrow, hrows] at h
        cases h
      | error later =>
        rw [hrow, hrows] at h
        cases h
        obtain ⟨before, r, after, rfl, hbefore, hfault⟩ := ih hrows
        refine ⟨row :: before, r, after, rfl, ?_, hfault⟩
        exact List.forall_mem_cons.2 ⟨not_faulty_iff.2 ⟨entry, hrow⟩, hbefore⟩

/-! ## Reports -/

/-- The rows are pairs whose first fields spell these versions. -/
abbrev Spells (rows : List (List String)) (vs : List Version) : Prop :=
  List.Forall₂ (fun row v => ∃ text artifact, row = [text, artifact] ∧ Version.parse text = .ok v)
    rows vs

theorem spells_of_readAs {entries : List MapEntry} (h : ReadAs root store rows entries) :
    Spells rows (entries.map MapEntry.version) := by
  rw [Spells, List.forall₂_map_right_iff]
  refine h.imp fun row entry hentry => ?_
  obtain ⟨text, rfl, hversion, -⟩ := entryOfRow_eq_ok_iff.1 hentry
  exact ⟨text, entry.artifact, rfl, hversion⟩

/-- The fault in the order of rows that are sound by themselves, which spell these versions. -/
structure OrderReported (rows : List (List String)) (vs : List Version) (fault : MapFault) :
    Prop where
  /-- The list differs from the sorted one, whether or not versions are repeated as well. -/
  unsorted_iff : fault = .unsorted vs ↔ vs ≠ MapFault.sortedVersions vs
  /-- Neighbours tell whether it does. -/
  descends_iff : vs ≠ MapFault.sortedVersions vs ↔ ∃ i v w, NeighboursAt vs i v w ∧ w.Before v
  /-- In a sorted list the first repetition is at fault, and the second row of it is named as it
  was written. -/
  duplicate : vs = MapFault.sortedVersions vs → ∃ i v w text artifact, FirstLevelAt vs i v w ∧
    fault = .duplicate v w ∧ rows[i + 1]? = some [text, artifact] ∧
    fault.message = "duplicate version '" ++ text ++ "' in cluster map"

/-- The fault is the one that these rows are refused for. -/
structure Reported (root : Path) (rows : List (List String)) (store : FileStore)
    (fault : MapFault) : Prop where
  empty : rows = [] → fault = .empty root
  /-- The first row that is faulty by itself comes before anything about the order. -/
  row : (∃ row ∈ rows, Faulty root store row) → ∃ before row after, rows = before ++ row :: after ∧
    (∀ r ∈ before, ¬ Faulty root store r) ∧ RowFault root store row fault
  order : rows ≠ [] → (∀ row ∈ rows, ¬ Faulty root store row) → ∃ vs, Spells rows vs ∧
    Version.IsStableSort vs (MapFault.sortedVersions vs) ∧ OrderReported rows vs fault

theorem orderReported_of_orderFault? (hspells : Spells rows vs)
    (h : orderFault? vs = some fault) : OrderReported rows vs fault := by
  have hneighbours : vs ≠ MapFault.sortedVersions vs ↔
      ∃ i v w, NeighboursAt vs i v w ∧ w.Before v :=
    descends_iff_ne_sortedVersions.symm.trans descends_iff
  unfold orderFault? at h
  split at h
  · next hdescends =>
    have hunsorted := descends_iff_ne_sortedVersions.1 hdescends
    cases h
    exact ⟨iff_of_true rfl hunsorted, hneighbours, fun hsorted => absurd hsorted hunsorted⟩
  · next hdescends =>
    have hsorted : ¬ vs ≠ MapFault.sortedVersions vs :=
      mt descends_iff_ne_sortedVersions.2 hdescends
    obtain ⟨⟨v, w⟩, hrepeated, rfl⟩ := Option.map_eq_some_iff.1 h
    obtain ⟨i, hfirst⟩ := firstLevelAt_of_repeated? hrepeated
    refine ⟨iff_of_false (fun heq => nomatch heq) hsorted, hneighbours, fun _ => ?_⟩
    -- The second of the repeated versions has a row, whose text is the one that is named.
    obtain ⟨row, hrow, text, artifact, rfl, hversion⟩ :=
      exists_left_of_related hspells hfirst.neighbours.2
    refine ⟨i, v, w, text, artifact, hfirst, rfl, hrow, ?_⟩
    show "duplicate version '" ++ w.text ++ "' in cluster map" = _
    rw [Version.text_of_parse hversion]

/-- **Rows are refused for one fault**: having no rows at all, or else the first fault of the first
row that is faulty by itself, or else that they are not sorted, or else the first repetition. -/
theorem build_reports (h : build root rows store = .error fault) :
    Reported root rows store fault := by
  unfold build at h
  split at h
  · next hrows =>
    cases h
    obtain ⟨before, row, after, rfl, hbefore, hrow⟩ := first_of_entriesOfRows hrows
    have hfaulty : Faulty root store row := ⟨fault, hrow⟩
    constructor
    case empty => simp
    case row => exact fun _ => ⟨before, row, after, rfl, hbefore, hrow⟩
    case order => exact fun _ hsound => absurd hfaulty (hsound row (by simp))
  · next hrows =>
    cases h
    have hempty : rows = [] := List.forall₂_nil_right_iff.1 (entriesOfRows_eq_ok_iff.1 hrows)
    subst hempty
    constructor
    case empty => exact fun _ => rfl
    case row => simp
    case order => exact fun hne _ => absurd rfl hne
  · next entry entries hrows =>
    have hread := entriesOfRows_eq_ok_iff.1 hrows
    split at h
    · next horder =>
      cases h
      constructor
      case empty =>
        rintro rfl
        cases hread
      case row =>
        rintro ⟨row, hrow, hfaulty⟩
        exact absurd hfaulty (not_faulty_iff.2 (exists_entry_of_mem hread row hrow))
      case order =>
        exact fun _ _ => ⟨_, spells_of_readAs hread, MapFault.isStableSort_sortedVersions _,
          orderReported_of_orderFault? (spells_of_readAs hread) horder⟩
    · cases h

/-- Rows that descend before one of them leaves the root, and another one is none. -/
def leavingRows : List (List String) :=
  [["2.0.0", "old.json"], ["1.0.0", "dir/../.."], ["3.0.0"]]

/-- Rows that are sorted, with one precedence twice and another one three times. -/
def repeatingRows : List (List String) :=
  [["1.0.0-rc.1", "old.json"], ["1.0.0+a", "old.json"], ["1.0.0+b.2", "old.json"],
    ["2.0.0", "old.json"], ["2.0.0", "newer.json"], ["2.0.0+z", "newer.json"]]

/-- The faults of rows that are faulty in three ways, of sorted rows with repetitions, and of the
same rows the other way round. -/
theorem leavingRows_reported :
    build ⟨"/remote/stable"⟩ leavingRows boundaryFiles.fileStore =
        .error (.notLocal "dir/../..") ∧
      Reported ⟨"/remote/stable"⟩ leavingRows boundaryFiles.fileStore (.notLocal "dir/../..") ∧
    build ⟨"/remote/stable"⟩ repeatingRows boundaryFiles.fileStore =
        .error (.duplicate ⟨1, 0, 0, [], ['a']⟩ ⟨1, 0, 0, [], ['b', '.', '2']⟩) ∧
      Reported ⟨"/remote/stable"⟩ repeatingRows boundaryFiles.fileStore
        (.duplicate ⟨1, 0, 0, [], ['a']⟩ ⟨1, 0, 0, [], ['b', '.', '2']⟩) ∧
    ∃ vs, build ⟨"/remote/stable"⟩ repeatingRows.reverse boundaryFiles.fileStore =
        .error (.unsorted vs) ∧
      Reported ⟨"/remote/stable"⟩ repeatingRows.reverse boundaryFiles.fileStore (.unsorted vs) := by
  have hleaving : build ⟨"/remote/stable"⟩ leavingRows boundaryFiles.fileStore =
      .error (.notLocal "dir/../..") := rfl
  have hrepeating : build ⟨"/remote/stable"⟩ repeatingRows boundaryFiles.fileStore =
      .error (.duplicate ⟨1, 0, 0, [], ['a']⟩ ⟨1, 0, 0, [], ['b', '.', '2']⟩) := rfl
  exact ⟨hleaving, build_reports hleaving, hrepeating, build_reports hrepeating, _, rfl,
    build_reports rfl⟩

end ClusterMap

end RemoteRollout
