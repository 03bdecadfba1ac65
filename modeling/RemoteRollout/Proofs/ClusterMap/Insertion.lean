import RemoteRollout.Proofs.ClusterMap.Faults
import RemoteRollout.Proofs.ClusterMap.Floor

/-!
# One more row

A row that is put between the rows of a map is accepted at one place, behind all versions before its
own (`ascending_middle_iff`), and makes the rows unsorted at any other. The new map answers like the
old one but for the versions that the row itself is the floor of: from its own up to that of the
next row (`InReach`).
-/

namespace RemoteRollout.ClusterMap

open Version (AtMost Ascending)

variable {root : Path} {store : FileStore} {rows : List (List String)} {row : List String}
  {m m' : ClusterMap} {entry : MapEntry} {v x : Version} {before after : List Version}

/-! ## The place -/

theorem insertIdx_eq_append {α : Type} (as : List α) (a : α) {place : Nat}
    (h : place ≤ as.length) : as.insertIdx place a = as.take place ++ a :: as.drop place := by
  induction as generalizing place with
  | nil =>
    cases Nat.le_zero.1 h
    rfl
  | cons b bs ih =>
    cases place with
    | zero => rfl
    | succ place =>
      rw [List.insertIdx_succ_cons, ih (Nat.le_of_succ_le_succ h)]
      rfl

/-- A version in the midst of ascending ones goes on ascending if it comes after those before it and
before those after it. -/
theorem ascending_middle_iff (h : Ascending (before ++ after)) :
    Ascending (before ++ x :: after) ↔ (∀ v ∈ before, v.Before x) ∧ ∀ v ∈ after, x.Before v := by
  simp only [Ascending, Version.precedence_eq_lt_iff] at h ⊢
  obtain ⟨hbefore, hafter, hacross⟩ := List.pairwise_append.1 h
  rw [List.pairwise_append, List.pairwise_cons]
  constructor
  · rintro ⟨-, ⟨hx, -⟩, hcross⟩
    exact ⟨fun v hv => hcross v hv x List.mem_cons_self, hx⟩
  · rintro ⟨hbelow, habove⟩
    refine ⟨hbefore, ⟨habove, hafter⟩, fun v hv w hw => ?_⟩
    rcases List.mem_cons.1 hw with rfl | hw
    · exact hbelow v hv
    · exact hacross v hv w hw

/-- Versions of which no two are level are unsorted if they do not ascend. -/
theorem orderFault?_of_distinct {vs : List Version} (hdistinct : vs.Pairwise fun v w => ¬ v.Level w)
    (h : ¬ Ascending vs) : orderFault? vs = some (.unsorted vs) := by
  cases hrepeated : repeated? vs with
  | none =>
    have hdescends : descends vs = true := by
      rw [← Bool.not_eq_false]
      exact fun hno => h (descends_repeated_iff vs |>.1 ⟨hno, hrepeated⟩)
    rw [orderFault?, if_pos hdescends]
  | some pair =>
    obtain ⟨v, w⟩ := pair
    obtain ⟨i, ⟨hi, hsucc⟩, hlevel, -⟩ := firstLevelAt_of_repeated? hrepeated
    obtain ⟨hilt, rfl⟩ := List.getElem?_eq_some_iff.1 hi
    obtain ⟨hjlt, rfl⟩ := List.getElem?_eq_some_iff.1 hsucc
    exact absurd hlevel
      (List.pairwise_iff_getElem.1 hdistinct i (i + 1) hilt hjlt (Nat.lt_succ_self i))

/-! ## Building -/

theorem readAs_insertIdx {entries : List MapEntry} (h : ReadAs root store rows entries)
    (hrow : entryOfRow root store row = .ok entry) (place : Nat) :
    ReadAs root store (rows.insertIdx place row) (entries.insertIdx place entry) := by
  induction h generalizing place with
  | nil =>
    cases place with
    | zero => exact .cons hrow .nil
    | succ place => exact .nil
  | cons hfirst hrest ih =>
    cases place with
    | zero => exact .cons hrow (.cons hfirst hrest)
    | succ place => exact .cons hfirst (ih place)

theorem build_of_ascending {entries : List MapEntry} (h : ReadAs root store rows entries)
    (hne : entries ≠ []) (hascending : Ascending (entries.map MapEntry.version)) :
    ∃ m, build root rows store = .ok m ∧ m.entries = entries :=
  ⟨⟨root, entries, hne, hascending⟩, build_eq_ok_iff.2 ⟨rfl, h⟩, rfl⟩

theorem build_of_orderFault? {entries : List MapEntry} {fault : MapFault}
    (h : ReadAs root store rows entries)
    (horder : orderFault? (entries.map MapEntry.version) = some fault) :
    build root rows store = .error fault := by
  unfold build
  split
  · next hrows => cases hrows.symm.trans (entriesOfRows_eq_ok_iff.2 h)
  · next hrows =>
    cases hrows.symm.trans (entriesOfRows_eq_ok_iff.2 h)
    cases horder
  · next hrows =>
    cases hrows.symm.trans (entriesOfRows_eq_ok_iff.2 h)
    split
    · next hfault =>
      cases hfault.symm.trans horder
      rfl
    · next hnone => cases hnone.symm.trans horder

/-! ## Floors -/

/-- The floor of a version is the greatest of the entries that are at most the version. -/
theorem floor?_eq_some_iff_greatest :
    m.floor? v = some entry ↔
      entry ∈ m.entries ∧ entry.version.AtMost v ∧
        ∀ other ∈ m.entries, other.version.AtMost v → other.version.AtMost entry.version := by
  rw [floor?_eq_some_iff]
  constructor
  · rintro ⟨i, hi, hv, hmax⟩
    refine ⟨List.mem_of_getElem? hi, hv, fun other hmem hother => ?_⟩
    obtain ⟨j, hj⟩ := List.mem_iff_getElem?.1 hmem
    rcases Nat.eq_or_lt_of_le (hmax j other hj hother) with rfl | hlt
    · cases hi.symm.trans hj
      exact .inr (.refl _)
    · exact .inl (before_of_lt hlt hj hi)
  · rintro ⟨hmem, hv, hgreatest⟩
    obtain ⟨i, hi⟩ := List.mem_iff_getElem?.1 hmem
    refine ⟨i, hi, hv, fun j other hj hother => Nat.le_of_not_lt fun hij => ?_⟩
    have hle := hgreatest other (List.mem_of_getElem? hj) hother
    exact (before_of_lt hij hi hj).not_atMost hle

/-- A map with one entry more has the entry as the floor of a version that is at least its own and
before all higher ones. -/
theorem floor?_of_mem_cons (hmem : ∀ e, e ∈ m'.entries ↔ e = entry ∨ e ∈ m.entries)
    (hv : entry.version.AtMost v)
    (hhigher : ∀ e ∈ m.entries, entry.version.Before e.version → v.Before e.version) :
    m'.floor? v = some entry := by
  refine floor?_eq_some_iff_greatest.2 ⟨(hmem entry).2 (.inl rfl), hv, fun other hother hle => ?_⟩
  rcases (hmem other).1 hother with rfl | hother
  · exact .inr (.refl _)
  · rw [Version.atMost_iff_not_before]
    exact fun hbefore => (hhigher other hother hbefore).not_atMost hle

/-- It has the same floor as before of a version that is below its own, or at least a higher one. -/
theorem floor?_congr_of_mem_cons (hmem : ∀ e, e ∈ m'.entries ↔ e = entry ∨ e ∈ m.entries)
    (hhigher : entry.version.AtMost v →
      ∃ e ∈ m.entries, entry.version.Before e.version ∧ e.version.AtMost v) :
    m'.floor? v = m.floor? v := by
  refine Option.ext fun found => ?_
  rw [floor?_eq_some_iff_greatest, floor?_eq_some_iff_greatest]
  constructor
  · rintro ⟨hfound, hv, hgreatest⟩
    have hold : found ∈ m.entries := by
      rcases (hmem found).1 hfound with rfl | hfound
      · -- The higher entry would not be at most the new one.
        obtain ⟨e, he, hbefore, hle⟩ := hhigher hv
        exact absurd (hgreatest e ((hmem e).2 (.inr he)) hle) hbefore.not_atMost
      · exact hfound
    exact ⟨hold, hv, fun other hother => hgreatest other ((hmem other).2 (.inr hother))⟩
  · rintro ⟨hfound, hv, hgreatest⟩
    refine ⟨(hmem found).2 (.inr hfound), hv, fun other hother hle => ?_⟩
    rcases (hmem other).1 hother with rfl | hother
    · obtain ⟨e, he, hbefore, hele⟩ := hhigher hle
      exact .inl (hbefore.of_before_of_atMost (hgreatest e he hele))
    · exact hgreatest other hother hle

/-! ## Inserting a row -/

/-- The versions that a new row with this version is the floor of: from its own up to that of the
next row, or all of them if there is none. -/
def InReach (rows : List (List String)) (x v : Version) : Prop :=
  x.AtMost v ∧ ∀ i higher, EntryAt rows i higher → x.Before higher.version → v.Before higher.version

/-- The row has been put in at this place, the only one for it, and is the floor of just the
versions in its reach. -/
structure Inserted (root : Path) (rows : List (List String)) (store : FileStore) (m : ClusterMap)
    (row : List String) (entry : MapEntry) (place : Nat) (m' : ClusterMap) : Prop where
  place_le : place ≤ rows.length
  accepted : build root (rows.insertIdx place row) store = .ok m'
  /-- Anywhere else the rows are not sorted. -/
  refused : ∀ elsewhere ≤ rows.length, elsewhere ≠ place →
    ∃ vs, build root (rows.insertIdx elsewhere row) store = .error (.unsorted vs)
  inReach : ∀ v, InReach rows entry.version v → m'.resolve v = .ok entry
  /-- All other versions are answered as before, and are below the range if they were. -/
  outOfReach : ∀ v, ¬ InReach rows entry.version v →
    (∀ other, m'.resolve v = .ok other ↔ m.resolve v = .ok other) ∧
    ((∃ message, m'.resolve v = .error (.notFound message)) ↔
      ∃ message, m.resolve v = .error (.notFound message))

theorem inReach_iff (h : build root rows store = .ok m) :
    InReach rows x v ↔
      x.AtMost v ∧ ∀ e ∈ m.entries, x.Before e.version → v.Before e.version := by
  refine and_congr_right fun _ => ?_
  constructor
  · intro hhigher e he
    obtain ⟨i, hi⟩ := List.mem_iff_getElem?.1 he
    exact hhigher i e ((entries_of_build h i e).1 hi)
  · intro hhigher i e hi
    rw [← entries_of_build h] at hi
    exact hhigher e (List.mem_of_getElem? hi)

/-- What keeps a version out of reach is a higher row that comes before it or is level with it. -/
theorem exists_higher_of_not_inReach (h : build root rows store = .ok m)
    (hout : ¬ InReach rows x v) (hv : x.AtMost v) :
    ∃ e ∈ m.entries, x.Before e.version ∧ e.version.AtMost v := by
  refine Classical.byContradiction fun hnone => hout ((inReach_iff h).2 ⟨hv, ?_⟩)
  intro e he hbefore
  refine Classical.byContradiction fun hnot => hnone ?_
  exact ⟨e, he, hbefore, Version.atMost_iff_not_before.2 hnot⟩

theorem ascending_insertIdx_iff (hnew : ∀ e ∈ m.entries, ¬ e.version.Level entry.version)
    {place : Nat} (hplace : place ≤ m.entries.length) :
    Ascending ((m.entries.insertIdx place entry).map MapEntry.version) ↔
      place = m.rank entry.version := by
  have hascending := m.ascending
  rw [← List.take_append_drop place m.entries, List.map_append] at hascending
  rw [insertIdx_eq_append _ _ hplace, List.map_append, List.map_cons,
    ascending_middle_iff hascending, List.forall_mem_map, List.forall_mem_map]
  constructor
  · rintro ⟨hbelow, habove⟩
    refine Nat.le_antisymm (Nat.le_of_not_lt fun hlt => ?_) (Nat.le_of_not_lt fun hlt => ?_)
    · -- The entry at the rank stands before the new one, and then counts for the rank.
      have hrank := List.getElem?_eq_getElem (Nat.lt_of_lt_of_le hlt hplace)
      have hmem := List.mem_of_getElem? ((List.getElem?_take_of_lt hlt).trans hrank)
      exact absurd (lt_rank_iff.2 ⟨_, hrank, .inl (hbelow _ hmem)⟩) (Nat.lt_irrefl _)
    · obtain ⟨e, he, hle⟩ := lt_rank_iff.1 hlt
      have hmem : e ∈ m.entries.drop place :=
        List.mem_of_getElem? (i := 0) (by rw [List.getElem?_drop]; exact he)
      exact (habove e hmem).not_atMost hle
  · rintro rfl
    constructor
    · intro e he
      obtain ⟨i, hi, rfl⟩ := List.mem_take_iff_getElem.1 he
      obtain ⟨e, he, hle⟩ := lt_rank_iff.1 (Nat.lt_of_lt_of_le hi (Nat.min_le_left ..))
      obtain ⟨hlt, rfl⟩ := List.getElem?_eq_some_iff.1 he
      exact hle.resolve_right (hnew _ (List.getElem_mem hlt))
    · intro e he
      obtain ⟨i, hi, rfl⟩ := List.mem_drop_iff_getElem.1 he
      refine Classical.byContradiction fun hnot => ?_
      have hlt : m.rank entry.version + i < m.rank entry.version :=
        lt_rank_iff.2 ⟨_, List.getElem?_eq_getElem _, Version.atMost_iff_not_before.2 hnot⟩
      omega

/-- No two of the versions are level, wherever the new one is put in. -/
theorem distinct_insertIdx (hnew : ∀ e ∈ m.entries, ¬ e.version.Level entry.version) {place : Nat}
    (hplace : place ≤ m.entries.length) :
    ((m.entries.insertIdx place entry).map MapEntry.version).Pairwise fun v w => ¬ v.Level w := by
  rw [List.pairwise_map, (List.perm_insertIdx entry m.entries hplace).pairwise_iff
    fun h hlevel => h hlevel.symm, List.pairwise_cons]
  refine ⟨fun e he hlevel => hnew e he hlevel.symm, ?_⟩
  have hascending := m.ascending
  rw [Ascending, List.pairwise_map] at hascending
  exact hascending.imp fun hlt => (Version.precedence_eq_lt_iff.1 hlt).not_level

/-- **A new row changes only what is in its reach.** A row that is sound by itself, of a precedence
that no row of a map has, is accepted at just one place between them; elsewhere it leaves the rows
unsorted. In the map with it, it is the floor of the versions in its reach, and all others are
answered as before. -/
theorem row_inserted {text : String} (h : build root rows store = .ok m)
    (hversion : Version.parse text = .ok entry.version)
    (hlocal : Path.isLocal entry.artifact = true)
    (hfile : store.isFile (root.join entry.artifact) = true)
    (hnew : ∀ i other, EntryAt rows i other → ¬ other.version.Level entry.version) :
    ∃ place m', Inserted root rows store m [text, entry.artifact] entry place m' := by
  have hread := (build_eq_ok_iff.1 h).2
  have hlength : m.entries.length = rows.length := hread.length_eq.symm
  have hrow : entryOfRow root store [text, entry.artifact] = .ok entry :=
    entryOfRow_eq_ok_iff.2 ⟨text, rfl, hversion, hlocal, hfile⟩
  have hinserted := readAs_insertIdx hread hrow
  have hdistinct : ∀ e ∈ m.entries, ¬ e.version.Level entry.version := by
    intro e he
    obtain ⟨i, hi⟩ := List.mem_iff_getElem?.1 he
    exact hnew i e ((entries_of_build h i e).1 hi)
  obtain ⟨m', hm', hentries⟩ := build_of_ascending (hinserted (m.rank entry.version))
    (by rw [insertIdx_eq_append _ _ rank_le_length]; simp)
    ((ascending_insertIdx_iff hdistinct rank_le_length).2 rfl)
  have hmem : ∀ e, e ∈ m'.entries ↔ e = entry ∨ e ∈ m.entries := by
    intro e
    rw [hentries, List.mem_insertIdx rank_le_length]
  refine ⟨m.rank entry.version, m', ?_⟩
  constructor
  case place_le =>
    rw [← hlength]
    exact rank_le_length
  case accepted => exact hm'
  case refused =>
    intro elsewhere hle hne
    rw [← hlength] at hle
    refine ⟨_, build_of_orderFault? (hinserted elsewhere) (orderFault?_of_distinct ?_ ?_)⟩
    · exact distinct_insertIdx hdistinct hle
    · exact fun hascending => hne ((ascending_insertIdx_iff hdistinct hle).1 hascending)
  case inReach =>
    intro v hin
    obtain ⟨hv, hhigher⟩ := (inReach_iff h).1 hin
    exact resolve_eq_ok_iff.2 (floor?_of_mem_cons hmem hv hhigher)
  case outOfReach =>
    intro v hout
    have hfloor : m'.floor? v = m.floor? v :=
      floor?_congr_of_mem_cons hmem fun hv => exists_higher_of_not_inReach h hout hv
    simp only [resolve_eq_ok_iff, resolve_notFound_iff, hfloor, implies_true, and_self]

/-- A release candidate, which comes after the first pre-release. -/
def candidateEntry : MapEntry :=
  ⟨⟨4, 17, 0, [.word ['r', 'c'], .number 1], ['x']⟩, ".//old.json"⟩

/-- The candidate is put in between the first pre-release and the release. -/
theorem boundaryRows_inserted :
    ∃ m, build ⟨"/remote/stable"⟩ boundaryRows boundaryFiles.fileStore = .ok m ∧
      (∀ i other, EntryAt boundaryRows i other →
        ¬ other.version.Level candidateEntry.version) ∧
      ∃ place m', Inserted ⟨"/remote/stable"⟩ boundaryRows boundaryFiles.fileStore m
        ["4.17.0-rc.1+x", candidateEntry.artifact] candidateEntry place m' := by
  obtain ⟨m, h⟩ := build_boundaryRows
  have hnew : ∀ i other, EntryAt boundaryRows i other →
      ¬ other.version.Level candidateEntry.version :=
    forall_entryAt (P := fun _ v => ¬ v.Level candidateEntry.version) (by decide +kernel)
  have hversion : Version.parse "4.17.0-rc.1+x" = .ok candidateEntry.version := rfl
  exact ⟨m, h, hnew, row_inserted h hversion (by decide +kernel) (by decide +kernel) hnew⟩

end RemoteRollout.ClusterMap
