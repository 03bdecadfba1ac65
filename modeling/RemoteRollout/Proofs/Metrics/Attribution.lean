import RemoteRollout.Proofs.Metrics.Counting

/-!
# What a count is made of

A counter that is used many times, through whichever of its clones: they all share its series. A
pair of labels is shown what was recorded for its series (`Metrics.toNat_count_after`), and a series
is known by its hash alone. So a pair is counted exactly as long as no other pair with the same hash
is recorded; pairs that read the same when the two labels are joined never are told apart.
-/

namespace RemoteRollout.Metrics

/-- A use of a counter. -/
inductive Use where
  | record (file version : String)
  /-- The counter is asked for, which creates its series. -/
  | count (file version : String)
deriving DecidableEq, Repr

/-- The counter after a use. -/
def use (m : Metrics) : Use → Metrics
  | .record file version => m.record file version
  | .count file version => m.touch file version

/-- The counter after some uses. -/
def after (m : Metrics) : List Use → Metrics
  | [] => m
  | u :: us => (m.use u).after us

/-- The pairs of labels that are recorded, as often as they are. -/
def recordings : List Use → List (String × String)
  | [] => []
  | .record file version :: us => (file, version) :: recordings us
  | .count .. :: us => recordings us

/-- The two pairs of labels have one series. -/
def SameSeries (p q : String × String) : Prop := hashLabels p.1 p.2 = hashLabels q.1 q.2

instance (p q : String × String) : Decidable (SameSeries p q) :=
  inferInstanceAs (Decidable (_ = _))

/-- How many of these recordings go to the series of a pair of labels. -/
def seriesCount (q : String × String) (ps : List (String × String)) : Nat :=
  ps.countP fun p => decide (SameSeries p q)

/-! ## One use -/

variable {m : Metrics} {file version : String} {p q : String × String}

/-- Changing one series leaves those with another hash alone. -/
theorem valueIn_changed_of_ne {change : UInt64 → UInt64} {fresh other : Series}
    {series : List Series} (hne : other.hash ≠ fresh.hash) :
    valueIn fresh (changed change other series) = valueIn fresh series := by
  induction series with
  | nil =>
    rw [changed, valueIn_cons, if_neg hne]
  | cons s rest ih =>
    rw [changed]
    by_cases hs : s.hash = other.hash
    · rw [if_pos hs, valueIn_cons, valueIn_cons, if_neg (by rwa [hs]), if_neg (by rwa [hs])]
    · rw [if_neg hs, valueIn_cons, valueIn_cons, ih]

/-- What is shown for a pair of labels is told by its series. -/
theorem count_congr (h : SameSeries p q) : m.count p.1 p.2 = m.count q.1 q.2 := by
  unfold SameSeries at h
  rw [count, count, h]

theorem count_record (m : Metrics) (p q : String × String) :
    (m.record p.1 p.2).count q.1 q.2 =
      if SameSeries p q then m.count q.1 q.2 + 1 else m.count q.1 q.2 := by
  by_cases h : SameSeries p q
  · rw [if_pos h, ← count_congr h, ← count_congr h]
    exact valueIn_changed (· + 1) (blank p.1 p.2) m.series
  · have hne : (blank p.1 p.2).hash ≠ (blank q.1 q.2).hash := h
    rw [if_neg h]
    exact valueIn_changed_of_ne hne

theorem count_touch (m : Metrics) (p q : String × String) :
    (m.touch p.1 p.2).count q.1 q.2 = m.count q.1 q.2 := by
  by_cases h : SameSeries p q
  · rw [← count_congr h, ← count_congr h]
    exact valueIn_changed id (blank p.1 p.2) m.series
  · have hne : (blank p.1 p.2).hash ≠ (blank q.1 q.2).hash := h
    exact valueIn_changed_of_ne hne

/-! ## Many uses -/

theorem seriesCount_cons (q p : String × String) (ps : List (String × String)) :
    seriesCount q (p :: ps) = seriesCount q ps + if SameSeries p q then 1 else 0 := by
  simp [seriesCount, List.countP_cons]

/-- As long as the series stays below its width, a pair of labels is shown what was recorded for its
series. -/
theorem toNat_count_after {us : List Use} (q : String × String)
    (h : (m.count q.1 q.2).toNat + (recordings us).length < 2 ^ 64) :
    ((m.after us).count q.1 q.2).toNat =
      (m.count q.1 q.2).toNat + seriesCount q (recordings us) := by
  induction us generalizing m with
  | nil => rfl
  | cons u us ih =>
    cases u with
    | count file version =>
      have hcount : (m.use (.count file version)).count q.1 q.2 = m.count q.1 q.2 :=
        count_touch m (file, version) q
      rw [after, ih (by rw [hcount]; exact h), hcount, recordings]
    | record file version =>
      rw [recordings, List.length_cons] at h
      have hcount : (m.use (.record file version)).count q.1 q.2 = _ :=
        count_record m (file, version) q
      have hvalue : ((m.use (.record file version)).count q.1 q.2).toNat =
          (m.count q.1 q.2).toNat + if SameSeries (file, version) q then 1 else 0 := by
        rw [hcount]
        split
        · rw [UInt64.toNat_add]
          exact Nat.mod_eq_of_lt (by simp; omega)
        · rfl
      have hbound : ((m.use (.record file version)).count q.1 q.2).toNat +
          (recordings us).length < 2 ^ 64 := by
        rw [hvalue]
        split <;> omega
      rw [after, ih hbound, hvalue, recordings, seriesCount_cons]
      omega

/-- The recordings of a pair are among those of its series, and are all of them if and only if no
other pair of the series is recorded. -/
theorem seriesCount_eq_count_iff (q : String × String) (ps : List (String × String)) :
    seriesCount q ps = ps.count q ↔ ∀ p ∈ ps, SameSeries p q → p = q := by
  have hle : ∀ ps : List (String × String), ps.count q ≤ seriesCount q ps := by
    intro ps
    refine List.countP_mono_left fun p _ hp => ?_
    rw [eq_of_beq hp]
    exact decide_eq_true rfl
  induction ps with
  | nil => simp [seriesCount]
  | cons p ps ih =>
    have hrest := hle ps
    rw [seriesCount_cons, List.count_cons, List.forall_mem_cons]
    by_cases hpq : p = q
    · subst hpq
      have hself : SameSeries p p := rfl
      simp [hself, ih]
    · by_cases hseries : SameSeries p q
      · simp [hpq, hseries]
        omega
      · simp [hpq, hseries, ih]

/-- The bytes of two labels are hashed as those of the joined text. -/
theorem sameSeries_of_joined (h : p.1 ++ p.2 = q.1 ++ q.2) : SameSeries p q := by
  have hjoined : ∀ p : String × String,
      hashLabels p.1 p.2 = hashBytes 0xcbf29ce484222325 (Text.Utf8.ofString (p.1 ++ p.2)) := by
    intro p
    simp [hashLabels, hashBytes, Text.Utf8.ofString, Text.Utf8.encode]
  rw [SameSeries, hjoined, hjoined, h]

/-! ## Attribution -/

/-- **What a count is made of**: after any uses of a new counter with less than `2 ^ 64` recordings,
a pair of labels is shown what was recorded for all pairs of its series. That is what was recorded
for the pair itself if and only if no other pair of the series was recorded; and pairs that read the
same when their labels are joined are always shown the same. -/
theorem count_attribution (us : List Use) (h : (recordings us).length < 2 ^ 64)
    (q : String × String) :
    ((({} : Metrics).after us).count q.1 q.2).toNat = seriesCount q (recordings us) ∧
      (((({} : Metrics).after us).count q.1 q.2).toNat = (recordings us).count q ↔
        ∀ p ∈ recordings us, SameSeries p q → p = q) ∧
      ∀ p : String × String, p.1 ++ p.2 = q.1 ++ q.2 →
        (({} : Metrics).after us).count p.1 p.2 = (({} : Metrics).after us).count q.1 q.2 := by
  have hzero : (({} : Metrics).count q.1 q.2).toNat = 0 := rfl
  have hcount : ((({} : Metrics).after us).count q.1 q.2).toNat = seriesCount q (recordings us) := by
    rw [toNat_count_after q (by omega), hzero, Nat.zero_add]
  refine ⟨hcount, ?_, fun p hp => count_congr (sameSeries_of_joined hp)⟩
  rw [hcount]
  exact seriesCount_eq_count_iff q (recordings us)

/-- Two artifacts whose names and versions join to the same text, one recorded twice, the other
once. -/
def joinedUses : List Use :=
  [.record "ab" "c", .count "a" "bc", .record "a" "bc", .record "ab" "c", .record "x" ""]

theorem count_attribution_joinedUses :
    (recordings joinedUses).length < 2 ^ 64 ∧
      ((({} : Metrics).after joinedUses).count "a" "bc").toNat =
        seriesCount ("a", "bc") (recordings joinedUses) :=
  ⟨by decide, (count_attribution joinedUses (by decide) ("a", "bc")).1⟩

/-- A pair of labels can be shown more than was recorded for it: one recording of another pair whose
joined text is the same. -/
theorem not_counted_by_pair :
    ¬ ∀ us : List Use, (recordings us).length < 2 ^ 64 → ∀ q : String × String,
      ((({} : Metrics).after us).count q.1 q.2).toNat = (recordings us).count q := by
  intro h
  have hcount := h [.record "ab" "c"] (by decide) ("a", "bc")
  have hseries : SameSeries ("a", "bc") ("ab", "c") := sameSeries_of_joined rfl
  rw [count_congr hseries] at hcount
  have hone := toNat_count_record (m := {}) "ab" "c" (by decide)
  have hzero : (({} : Metrics).count "ab" "c").toNat = 0 := rfl
  rw [hzero] at hone
  have htwo : ((({} : Metrics).after [.record "ab" "c"]).count "ab" "c").toNat = 0 := hcount
  exact absurd (hone.symm.trans htwo) (by decide)

end RemoteRollout.Metrics
