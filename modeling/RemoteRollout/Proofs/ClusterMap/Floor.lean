import RemoteRollout.Proofs.ClusterMap.Acceptance

/-!
# The floor of a version

A cluster map answers a version with its floor: the greatest entry that is at most the version.
The search halves the entries, so it rests on their ascent (`isWithin_falling`); `lt_rank_iff` says
where it ends, and `floor?_eq_some_iff` and `floor?_eq_none_iff` what it answers.
-/

namespace RemoteRollout.ClusterMap

variable {m : ClusterMap}

/-! ## The search -/

theorem before_of_lt {i j : Nat} {a b : MapEntry} (hij : i < j) (ha : m.entries[i]? = some a)
    (hb : m.entries[j]? = some b) : a.version.Before b.version :=
  ascending_iff.1 m.ascending i j a b hij ha hb

theorem isWithin_iff {v : Version} {i : Nat} :
    m.isWithin v i = true ↔ ∃ entry, m.entries[i]? = some entry ∧ entry.version.AtMost v := by
  rw [isWithin, Option.any_eq_true]
  simp only [bne_iff_ne, Version.precedence_ne_gt_iff]

/-- Entries ascend, so below an entry within the version there are only such entries. -/
theorem isWithin_falling (v : Version) : Falling (m.isWithin v) := by
  intro i j hij hj
  rw [isWithin_iff] at hj ⊢
  obtain ⟨b, hb, hbv⟩ := hj
  rcases Nat.eq_or_lt_of_le hij with rfl | hlt
  · exact ⟨b, hb, hbv⟩
  · have hlength := (List.getElem?_eq_some_iff.1 hb).1
    have ha := List.getElem?_eq_getElem (Nat.lt_trans hlt hlength)
    exact ⟨_, ha, .inl ((before_of_lt hlt ha hb).of_before_of_atMost hbv)⟩

/-- The rank of a version counts the entries that are at most the version. -/
theorem lt_rank_iff {v : Version} {i : Nat} :
    i < m.rank v ↔ ∃ entry, m.entries[i]? = some entry ∧ entry.version.AtMost v := by
  rw [← isWithin_iff]
  refine lt_bisect_iff (isWithin_falling v) (fun j hj => absurd hj (Nat.not_lt_zero j)) ?_ i
  intro j hj
  rw [isWithin, List.getElem?_eq_none_iff.2 hj]
  rfl

theorem rank_le_length {v : Version} : m.rank v ≤ m.entries.length := by
  refine Nat.le_of_not_lt fun hlt => ?_
  obtain ⟨entry, hentry, -⟩ := lt_rank_iff.1 hlt
  exact absurd (List.getElem?_eq_some_iff.1 hentry).1 (Nat.lt_irrefl _)

/-- An entry stands at one place only. -/
theorem place_unique {i j : Nat} {entry : MapEntry} (hi : m.entries[i]? = some entry)
    (hj : m.entries[j]? = some entry) : i = j := by
  rcases Nat.lt_trichotomy i j with hlt | heq | hlt
  · exact absurd (.refl _) (before_of_lt hlt hi hj).not_level
  · exact heq
  · exact absurd (.refl _) (before_of_lt hlt hj hi).not_level

/-! ## Floors -/

/-- The floor is the last entry that counts for the rank. -/
theorem floor?_eq_some_iff_rank {v : Version} {entry : MapEntry} :
    m.floor? v = some entry ↔ ∃ i, m.rank v = i + 1 ∧ m.entries[i]? = some entry := by
  unfold floor?
  cases m.rank v with
  | zero => simp
  | succ n => simp

theorem floor?_eq_none_iff_rank {v : Version} : m.floor? v = none ↔ m.rank v = 0 := by
  constructor
  · intro h
    refine Nat.eq_zero_of_not_pos fun hpos => ?_
    obtain ⟨entry, hentry, -⟩ := lt_rank_iff.1 (Nat.sub_one_lt_of_lt hpos)
    have hrank : m.rank v = m.rank v - 1 + 1 := by omega
    cases h.symm.trans (floor?_eq_some_iff_rank.2 ⟨_, hrank, hentry⟩)
  · intro h
    rw [floor?, h]

theorem floor?_eq_some_iff {v : Version} {entry : MapEntry} :
    m.floor? v = some entry ↔
      ∃ i, m.entries[i]? = some entry ∧ entry.version.AtMost v ∧
        ∀ (j : Nat) (other : MapEntry), m.entries[j]? = some other →
          other.version.AtMost v → j ≤ i := by
  rw [floor?_eq_some_iff_rank]
  constructor
  · rintro ⟨i, hrank, hi⟩
    obtain ⟨found, hfound, hv⟩ := lt_rank_iff.1 (show i < m.rank v by omega)
    cases hi.symm.trans hfound
    refine ⟨i, hi, hv, fun j other hj hother => ?_⟩
    have hlt := lt_rank_iff.2 ⟨other, hj, hother⟩
    omega
  · rintro ⟨i, hi, hv, hmax⟩
    have hlt := lt_rank_iff.2 ⟨entry, hi, hv⟩
    -- The last entry that counts for the rank is no later one.
    obtain ⟨last, hlast, hle⟩ := lt_rank_iff.1 (show m.rank v - 1 < m.rank v by omega)
    have hplace := hmax (m.rank v - 1) last hlast hle
    exact ⟨i, by omega, hi⟩

/-- An entry of the precedence asked for is its floor. -/
theorem floor?_of_level {v : Version} {i : Nat} {entry : MapEntry}
    (hi : m.entries[i]? = some entry) (hlevel : entry.version.Level v) :
    m.floor? v = some entry := by
  refine floor?_eq_some_iff.2 ⟨i, hi, .inr hlevel, ?_⟩
  intro j other hj hother
  refine Nat.le_of_not_lt fun hij => ?_
  have hbefore := before_of_lt hij hi hj
  exact (hbefore.of_before_of_atMost hother).not_atMost (.inr hlevel.symm)

theorem floor?_eq_none_iff {v : Version} :
    m.floor? v = none ↔ ∀ entry ∈ m.entries, ¬ entry.version.AtMost v := by
  rw [floor?_eq_none_iff_rank]
  constructor
  · intro h entry hmem hv
    obtain ⟨i, hi⟩ := List.mem_iff_getElem?.1 hmem
    have hlt := lt_rank_iff.2 ⟨entry, hi, hv⟩
    omega
  · intro h
    refine Nat.eq_zero_of_not_pos fun hpos => ?_
    obtain ⟨entry, hentry, hv⟩ := lt_rank_iff.1 hpos
    exact h entry (List.mem_of_getElem? hentry) hv

/-- A version has no floor exactly if it comes before the lowest entry. -/
theorem floor?_eq_none_iff_before_first {v : Version} :
    m.floor? v = none ↔ v.Before m.first.version := by
  rw [floor?_eq_none_iff]
  have hfirst : m.entries[0]? = some m.first := by
    rw [← List.head?_eq_getElem?, List.head?_eq_some_head m.nonempty]
    rfl
  constructor
  · intro h
    have hnot := h m.first (List.mem_of_getElem? hfirst)
    rwa [Version.atMost_iff_not_before, Classical.not_not] at hnot
  · intro h entry hmem
    obtain ⟨i, hi⟩ := List.mem_iff_getElem?.1 hmem
    rcases Nat.eq_zero_or_pos i with rfl | hpos
    · cases hfirst.symm.trans hi
      exact h.not_atMost
    · exact (h.trans (before_of_lt hpos hfirst hi)).not_atMost

theorem resolve_eq_ok_iff {v : Version} {entry : MapEntry} :
    m.resolve v = .ok entry ↔ m.floor? v = some entry := by
  unfold resolve
  cases m.floor? v with
  | none => simp
  | some found => simp

theorem resolve_eq_error_iff {v : Version} {e : ServiceError} :
    m.resolve v = .error e ↔ v.Before m.first.version ∧ e = m.belowRange v := by
  rw [← floor?_eq_none_iff_before_first]
  unfold resolve
  cases m.floor? v with
  | none => simp [eq_comm]
  | some found => simp

/-- A version is not found exactly if it has no floor. -/
theorem resolve_notFound_iff {v : Version} :
    (∃ message, m.resolve v = .error (.notFound message)) ↔ m.floor? v = none := by
  unfold resolve
  cases m.floor? v with
  | none => simp [belowRange]
  | some found => simp

/-! ## Floors among the rows -/

/-- The row at this place is the floor of the version: it is at most the version, and it comes
after every other row that is. -/
structure FloorAt (rows : List (List String)) (v : Version) (place : Nat) (entry : MapEntry) :
    Prop where
  row : EntryAt rows place entry
  atMost : entry.version.AtMost v
  greatest : ∀ j other, EntryAt rows j other → other.version.AtMost v → j ≠ place →
    other.version.Before entry.version

variable {root : Path} {rows : List (List String)} {store : FileStore}

/-- A version has one floor at most. -/
theorem FloorAt.unique {v : Version} {i j : Nat} {a b : MapEntry} (ha : FloorAt rows v i a)
    (hb : FloorAt rows v j b) : i = j ∧ a = b := by
  have hplace : i = j := by
    refine Classical.byContradiction fun hne => ?_
    have hba : b.version.Before a.version :=
      ha.greatest j b hb.row hb.atMost fun h => hne h.symm
    have hab : a.version.Before b.version := hb.greatest i a ha.row ha.atMost hne
    exact hab.not_atMost (.inl hba)
  subst hplace
  exact ⟨rfl, ha.row.unique hb.row⟩

theorem floorAt_of_floor? (h : build root rows store = .ok m) {v : Version} {entry : MapEntry}
    (hfloor : m.floor? v = some entry) : ∃ i, FloorAt rows v i entry := by
  obtain ⟨i, hi, hv, hmax⟩ := floor?_eq_some_iff.1 hfloor
  refine ⟨i, (entries_of_build h i entry).1 hi, hv, ?_⟩
  intro j other hj hother hne
  rw [← entries_of_build h] at hj
  have hle := hmax j other hj hother
  exact before_of_lt (Nat.lt_of_le_of_ne hle hne) hj hi

/-- **Inclusive floor**: a map of these rows answers a version with the greatest row that is at
most the version, which is the very row of that precedence if there is one, and refuses the
version as not found if every row comes after it. -/
theorem resolve_inclusive_floor (h : build root rows store = .ok m) (v : Version) :
    ((∃ i entry, EntryAt rows i entry ∧ entry.version.AtMost v) →
      ∃ i entry, FloorAt rows v i entry ∧ m.resolve v = .ok entry) ∧
    (∀ i entry, EntryAt rows i entry → entry.version.Level v → m.resolve v = .ok entry) ∧
    ((∀ i entry, EntryAt rows i entry → ¬ entry.version.AtMost v) →
      ∃ message, m.resolve v = .error (.notFound message)) := by
  refine ⟨?_, ?_, ?_⟩
  · rintro ⟨i, entry, hrow, hv⟩
    cases hfloor : m.floor? v with
    | none =>
      rw [← entries_of_build h] at hrow
      exact absurd hv (floor?_eq_none_iff.1 hfloor entry (List.mem_of_getElem? hrow))
    | some found =>
      obtain ⟨j, hj⟩ := floorAt_of_floor? h hfloor
      exact ⟨j, found, hj, resolve_eq_ok_iff.2 hfloor⟩
  · intro i entry hrow hlevel
    rw [← entries_of_build h] at hrow
    exact resolve_eq_ok_iff.2 (floor?_of_level hrow hlevel)
  · intro hnone
    refine ⟨_, resolve_eq_error_iff.2 ⟨floor?_eq_none_iff_before_first.1 ?_, rfl⟩⟩
    rw [floor?_eq_none_iff]
    intro entry hmem
    obtain ⟨i, hi⟩ := List.mem_iff_getElem?.1 hmem
    exact hnone i entry ((entries_of_build h i entry).1 hi)

/-- The entry of the first pre-release among the rows. -/
def firstPreRelease : MapEntry :=
  ⟨⟨4, 17, 0, [.number 0], []⟩, "./dir//new.json"⟩

/-- A nightly build, between the first pre-release and the release. -/
def nightly : Version :=
  ⟨4, 17, 0, [.number 0, .word ['n']], ['b']⟩

theorem floorAt_nightly : FloorAt boundaryRows nightly 1 firstPreRelease where
  row := ⟨"4.17.0-0", rfl, by decide +kernel⟩
  atMost := by decide
  greatest :=
    forall_entryAt
      (P := fun j v => v.AtMost nightly → j ≠ 1 → v.Before firstPreRelease.version)
      (by decide +kernel)

/-- A nightly build of 4.17.0 is served what the first pre-release of 4.17.0 is, and so is that
pre-release with build metadata of its own; a pre-release of 1.0.0 comes before all rows. -/
theorem boundaryRows_floors :
    ∃ m, build ⟨"/remote/stable"⟩ boundaryRows boundaryFiles.fileStore = .ok m ∧
      (FloorAt boundaryRows nightly 1 firstPreRelease ∧ m.resolve nightly = .ok firstPreRelease) ∧
      m.resolve ⟨4, 17, 0, [.number 0], ['b']⟩ = .ok firstPreRelease ∧
      ∃ message, m.resolve ⟨1, 0, 0, [.word ['r', 'c']], []⟩ = .error (.notFound message) := by
  obtain ⟨m, h⟩ := build_boundaryRows
  obtain ⟨i, entry, hfloor, hresolve⟩ :=
    (resolve_inclusive_floor h nightly).1 ⟨1, _, floorAt_nightly.row, floorAt_nightly.atMost⟩
  obtain ⟨-, rfl⟩ := hfloor.unique floorAt_nightly
  refine ⟨m, h, ⟨floorAt_nightly, hresolve⟩, ?_, ?_⟩
  · exact (resolve_inclusive_floor h _).2.1 1 _ floorAt_nightly.row (by decide)
  · refine (resolve_inclusive_floor h _).2.2 ?_
    exact forall_entryAt (P := fun _ v => ¬ v.AtMost ⟨1, 0, 0, [.word ['r', 'c']], []⟩)
      (by decide +kernel)

end RemoteRollout.ClusterMap
