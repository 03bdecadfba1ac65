import RemoteRollout.Proofs.Metrics.Attribution
import RemoteRollout.Proofs.Metrics.Exposition

/-!
# Recordings in any order

A new counter after some recordings has one series for each pair of labels, with the number of its
recordings, if no two of the pairs share a series (`mem_series_recorded`). In which order they were
recorded shows in the order of the series alone; and that is not shown, since an exposition is sorted
(`text_recorded_of_perm`).
-/

namespace RemoteRollout.Metrics

/-! ## Series without their values -/

/-- The series before it counted anything. -/
def bare (s : Series) : Series := { s with value := 0 }

theorem bare_changed (change : UInt64 → UInt64) (fresh : Series) (series : List Series) :
    (changed change fresh series).map bare =
      if fresh.hash ∈ series.map Series.hash then series.map bare
      else series.map bare ++ [bare fresh] := by
  induction series with
  | nil => rfl
  | cons s rest ih =>
    rw [changed]
    by_cases hs : s.hash = fresh.hash
    · rw [if_pos hs, if_pos (by simp [hs])]
      rfl
    · have hmem : fresh.hash ∈ (s :: rest).map Series.hash ↔ fresh.hash ∈ rest.map Series.hash := by
        simp [Ne.symm hs]
      rw [if_neg hs, List.map_cons, ih, if_congr hmem rfl rfl]
      split
      · rfl
      · rfl

theorem map_hash_bare (series : List Series) :
    (series.map bare).map Series.hash = series.map Series.hash := List.map_map ..

theorem hashes_changed (change : UInt64 → UInt64) (fresh : Series) (series : List Series) :
    (changed change fresh series).map Series.hash =
      if fresh.hash ∈ series.map Series.hash then series.map Series.hash
      else series.map Series.hash ++ [fresh.hash] := by
  have hhashes := congrArg (List.map Series.hash) (bare_changed change fresh series)
  rwa [map_hash_bare, apply_ite (List.map Series.hash), List.map_append, map_hash_bare] at hhashes

/-- The value that is shown for a series is its own, if no other has its hash. -/
theorem valueIn_of_mem {fresh s : Series} {series : List Series}
    (h : (series.map Series.hash).Nodup) (hs : s ∈ series) (hhash : s.hash = fresh.hash) :
    valueIn fresh series = s.value := by
  induction series with
  | nil => cases hs
  | cons t rest ih =>
    obtain ⟨ht, hrest⟩ := List.nodup_cons.1 h
    rw [valueIn_cons]
    rcases List.mem_cons.1 hs with rfl | hs
    · rw [if_pos hhash]
    · have hne : t.hash ≠ fresh.hash := fun heq =>
        ht (heq.trans hhash.symm ▸ List.mem_map_of_mem hs)
      rw [if_neg hne]
      exact ih hrest hs

/-- The series are those of these pairs of labels: each is known by one of them, and each of them has
just one. -/
structure SeriesOf (ps : List (String × String)) (series : List Series) : Prop where
  labels : ∀ s ∈ series, ∃ p ∈ ps, bare s = blank p.1 p.2
  present : ∀ p ∈ ps, hashLabels p.1 p.2 ∈ series.map Series.hash
  distinct : (series.map Series.hash).Nodup

variable {ps qs seen : List (String × String)} {m : Metrics} {s : Series}

theorem SeriesOf.nil : SeriesOf [] [] := ⟨by simp, by simp, List.nodup_nil⟩

theorem SeriesOf.record (h : SeriesOf ps m.series) (p : String × String) :
    SeriesOf (ps ++ [p]) (m.record p.1 p.2).series := by
  have hbare : (m.record p.1 p.2).series.map bare = _ :=
    bare_changed (· + 1) (blank p.1 p.2) m.series
  have hhashes : (m.record p.1 p.2).series.map Series.hash = _ :=
    hashes_changed (· + 1) (blank p.1 p.2) m.series
  constructor
  case labels =>
    intro s hs
    have hmem : bare s ∈ (m.record p.1 p.2).series.map bare := List.mem_map_of_mem hs
    have hold : bare s ∈ m.series.map bare → ∃ q ∈ ps ++ [p], bare s = blank q.1 q.2 := by
      intro hs
      obtain ⟨t, ht, hts⟩ := List.mem_map.1 hs
      obtain ⟨q, hq, hblank⟩ := h.labels t ht
      exact ⟨q, List.mem_append_left _ hq, hts ▸ hblank⟩
    rw [hbare] at hmem
    split at hmem
    · exact hold hmem
    · rcases List.mem_append.1 hmem with hmem | hmem
      · exact hold hmem
      · exact ⟨p, by simp, List.mem_singleton.1 hmem⟩
  case present =>
    intro q hq
    rw [hhashes]
    rcases List.mem_append.1 hq with hq | hq
    · split
      · exact h.present q hq
      · exact List.mem_append_left _ (h.present q hq)
    · rw [List.mem_singleton.1 hq]
      split
      · next hmem => exact hmem
      · exact List.mem_append_right _ List.mem_cons_self
  case distinct =>
    rw [hhashes]
    split
    · exact h.distinct
    · next hnew =>
      exact List.nodup_append.2 ⟨h.distinct, List.nodup_singleton _,
        fun a ha b hb hab => hnew (List.mem_singleton.1 hb ▸ hab ▸ ha)⟩

/-! ## Counters -/

/-- The recordings of these pairs of labels. -/
def recordingsOf (ps : List (String × String)) : List Use := ps.map fun p => .record p.1 p.2

/-- A new counter after these pairs of labels were recorded. -/
def recorded (ps : List (String × String)) : Metrics := ({} : Metrics).after (recordingsOf ps)

theorem seriesOf_after (h : SeriesOf seen m.series) (ps : List (String × String)) :
    SeriesOf (seen ++ ps) (m.after (recordingsOf ps)).series := by
  induction ps generalizing m seen with
  | nil => rwa [List.append_nil]
  | cons p ps ih =>
    have hrest := ih (h.record p)
    rwa [List.append_assoc] at hrest

theorem seriesOf_recorded (ps : List (String × String)) : SeriesOf ps (recorded ps).series :=
  seriesOf_after (m := {}) .nil ps

theorem recordings_recordingsOf (ps : List (String × String)) :
    recordings (recordingsOf ps) = ps := by
  induction ps with
  | nil => rfl
  | cons p ps ih => exact congrArg (p :: ·) ih

/-- No two different ones of these pairs of labels share a series. -/
def Apart (ps : List (String × String)) : Prop := ∀ p ∈ ps, ∀ q ∈ ps, SameSeries p q → p = q

instance (ps : List (String × String)) : Decidable (Apart ps) :=
  inferInstanceAs (Decidable (∀ p ∈ ps, ∀ q ∈ ps, SameSeries p q → p = q))

/-- Each pair of labels is shown as often as it was recorded. -/
theorem toNat_count_recorded (h : Apart ps) (hlength : ps.length < 2 ^ 64) {p : String × String}
    (hp : p ∈ ps) : ((recorded ps).count p.1 p.2).toNat = ps.count p := by
  have hzero : (({} : Metrics).count p.1 p.2).toNat = 0 := rfl
  have hcount : ((recorded ps).count p.1 p.2).toNat = (({} : Metrics).count p.1 p.2).toNat +
      seriesCount p (recordings (recordingsOf ps)) :=
    toNat_count_after p (by rwa [hzero, recordings_recordingsOf, Nat.zero_add])
  rw [recordings_recordingsOf, hzero, Nat.zero_add] at hcount
  exact hcount.trans ((seriesCount_eq_count_iff p ps).2 fun q hq => h q hq p hp)

/-- The series of a pair of labels that was recorded so many times. -/
def seriesFor (p : String × String) (n : Nat) : Series := { blank p.1 p.2 with value := .ofNat n }

/-- There is one series for each pair of labels, and no other. -/
theorem mem_series_recorded (h : Apart ps) (hlength : ps.length < 2 ^ 64) :
    s ∈ (recorded ps).series ↔ ∃ p ∈ ps, s = seriesFor p (ps.count p) := by
  have hseries := seriesOf_recorded ps
  have hvalue : ∀ p ∈ ps, ∀ t ∈ (recorded ps).series, bare t = blank p.1 p.2 →
      t = seriesFor p (ps.count p) := by
    intro p hp t ht hbare
    have hhash : (bare t).hash = (blank p.1 p.2).hash := congrArg Series.hash hbare
    have hcount : (recorded ps).count p.1 p.2 = t.value :=
      valueIn_of_mem hseries.distinct ht hhash
    calc t = { bare t with value := t.value } := rfl
      _ = { blank p.1 p.2 with value := t.value } := by rw [hbare]
      _ = seriesFor p t.value.toNat := by rw [seriesFor, UInt64.ofNat_toNat]
      _ = seriesFor p (ps.count p) := by rw [← hcount, toNat_count_recorded h hlength hp]
  constructor
  · intro hs
    obtain ⟨p, hp, hbare⟩ := hseries.labels s hs
    exact ⟨p, hp, hvalue p hp s hs hbare⟩
  · rintro ⟨p, hp, rfl⟩
    obtain ⟨t, ht, hhash⟩ := List.mem_map.1 (hseries.present p hp)
    obtain ⟨q, hq, hbare⟩ := hseries.labels t ht
    -- The series with the hash of the pair is that of a pair with the same hash.
    have hqp : q = p := h q hq p hp ((congrArg Series.hash hbare).symm.trans hhash)
    subst hqp
    rwa [← hvalue q hq t ht hbare]

theorem nodup_series_recorded (ps : List (String × String)) : (recorded ps).series.Nodup :=
  (seriesOf_recorded ps).distinct.of_map

theorem perm_series_recorded (hperm : ps.Perm qs) (h : Apart ps) (hlength : ps.length < 2 ^ 64) :
    (recorded ps).series.Perm (recorded qs).series := by
  have hapart : Apart qs := fun p hp q hq =>
    h p (hperm.mem_iff.2 hp) q (hperm.mem_iff.2 hq)
  refine (List.perm_ext_iff_of_nodup (nodup_series_recorded ps) (nodup_series_recorded qs)).2
    fun s => ?_
  rw [mem_series_recorded h hlength, mem_series_recorded hapart (hperm.length_eq ▸ hlength)]
  simp only [hperm.mem_iff, hperm.count_eq]

/-! ## Expositions -/

theorem seriesOrder_eq_compareLex :
    seriesOrder = compareLex (compareOn (·.file.toList)) (compareOn (·.version.toList)) := rfl

instance : Std.OrientedCmp seriesOrder := by
  rw [seriesOrder_eq_compareLex]
  infer_instance

instance : Std.TransCmp seriesOrder := by
  rw [seriesOrder_eq_compareLex]
  infer_instance

/-- Series of one place in the order have the same labels. -/
theorem labels_eq_of_seriesOrder {s t : Series} (h : seriesOrder s t = .eq) :
    s.file = t.file ∧ s.version = t.version := by
  obtain ⟨hfile, hversion⟩ := Ordering.then_eq_eq.1 h
  exact ⟨String.toList_injective (Std.LawfulEqOrd.eq_of_compare hfile),
    String.toList_injective (Std.LawfulEqOrd.eq_of_compare hversion)⟩

theorem pairwise_sorted (m : Metrics) :
    m.sorted.Pairwise fun s t => (seriesOrder s t).isLE = true := by
  refine List.pairwise_mergeSort (fun s t u hst htu => ?_) (fun s t => ?_) m.series
  · exact Std.TransCmp.isLE_trans hst htu
  · have hswap : seriesOrder t s = (seriesOrder s t).swap := Std.OrientedCmp.eq_swap
    rw [Bool.or_eq_true, hswap]
    cases seriesOrder s t <;> simp

/-- The order of the recordings does not show. -/
theorem text_recorded_of_perm (hperm : ps.Perm qs) (h : Apart ps) (hlength : ps.length < 2 ^ 64) :
    (recorded ps).text = (recorded qs).text := by
  have hseries := perm_series_recorded hperm h hlength
  have hsorted : (recorded ps).sorted = (recorded qs).sorted := by
    refine List.Perm.eq_of_pairwise (fun s t hs ht hst hts => ?_) (pairwise_sorted _)
      (pairwise_sorted _) ((List.mergeSort_perm ..).trans
        (hseries.trans (List.mergeSort_perm ..).symm))
    -- Both are series of the first counter, and there is one for each pair of labels.
    obtain ⟨p, -, rfl⟩ := (mem_series_recorded h hlength).1 (mem_sorted.1 hs)
    obtain ⟨q, -, rfl⟩ := (mem_series_recorded h hlength).1 (hseries.mem_iff.2 (mem_sorted.1 ht))
    obtain ⟨hfile, hversion⟩ := labels_eq_of_seriesOrder (Std.OrientedCmp.isLE_antisymm hst hts)
    have hpq : p = q := Prod.ext hfile hversion
    rw [hpq]
  have hempty : (recorded ps).series.isEmpty = (recorded qs).series.isEmpty := by
    rw [Bool.eq_iff_iff, List.isEmpty_iff, List.isEmpty_iff]
    exact ⟨fun hnil => (hnil ▸ hseries).nil_eq.symm, fun hnil => (hnil ▸ hseries).eq_nil⟩
  rw [text, text, hsorted, hempty]

/-- The line of a pair of labels with a number. -/
def sampleLine (p : String × String) (n : Nat) : List Char :=
  (name ++ "\x7bfile=" ++ labelText p.1 ++ ",version=" ++ labelText p.2 ++ "\x7d").toList ++
    ' ' :: Nat.toDigits 10 n

theorem lineChars_seriesFor {p : String × String} {n : Nat} (h : n < 2 ^ 53) :
    lineChars (seriesFor p n) = sampleLine p n := by
  have hvalue : (seriesFor p n).value.toNat = n := by
    show (UInt64.ofNat n).toNat = n
    rw [UInt64.toNat_ofNat']
    exact Nat.mod_eq_of_lt (by omega)
  have htext : (sampleText (seriesFor p n).value).toList = Nat.toDigits 10 n := by
    rw [toList_sampleText (hvalue.trans_lt h), hvalue]
  rw [lineChars, htext]
  rfl

/-- There is one sample for each pair of labels, with the number of its recordings. -/
theorem sampleLines_recorded (h : Apart ps) (hlength : ps.length < 2 ^ 53) :
    ∃ listed : List (String × String), listed.Nodup ∧ (∀ p, p ∈ listed ↔ p ∈ ps) ∧
      sampleLines (recorded ps).text = listed.map fun p => sampleLine p (ps.count p) := by
  have hmem : ∀ s, s ∈ (recorded ps).sorted ↔ ∃ p ∈ ps, s = seriesFor p (ps.count p) := fun s =>
    mem_sorted.trans (mem_series_recorded h (by omega))
  have hcount : ∀ p, ps.count p < 2 ^ 53 := fun p => List.count_le_length.trans_lt hlength
  have hlines : sampleLines (recorded ps).text = (recorded ps).sorted.map lineChars := by
    refine sampleLines_text fun s hs => ?_
    obtain ⟨p, -, rfl⟩ := (hmem s).1 (mem_sorted.2 hs)
    exact (UInt64.toNat_ofNat'.trans_le (Nat.mod_le ..)).trans_lt (hcount p)
  -- Sorted series and their labels tell the same.
  have hentry : ∀ s ∈ (recorded ps).sorted,
      s = seriesFor (s.file, s.version) (ps.count (s.file, s.version)) := by
    intro s hs
    obtain ⟨p, -, rfl⟩ := (hmem s).1 hs
    rfl
  refine ⟨(recorded ps).sorted.map fun s => (s.file, s.version), ?_, fun p => ?_, ?_⟩
  · refine List.Nodup.map_on (fun s hs t ht hst => ?_)
      ((List.mergeSort_perm ..).nodup_iff.2 (nodup_series_recorded ps))
    rw [hentry s hs, hentry t ht, hst]
  · constructor
    · intro hp
      obtain ⟨s, hs, rfl⟩ := List.mem_map.1 hp
      obtain ⟨q, hq, rfl⟩ := (hmem s).1 hs
      exact hq
    · intro hp
      exact List.mem_map.2 ⟨seriesFor p (ps.count p), (hmem _).2 ⟨p, hp, rfl⟩, rfl⟩
  · rw [hlines, List.map_map]
    refine List.map_congr_left fun s hs => ?_
    rw [Function.comp, ← lineChars_seriesFor (hcount _), ← hentry s hs]

end RemoteRollout.Metrics
