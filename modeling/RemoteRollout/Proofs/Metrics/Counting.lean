import Mathlib.Algebra.Order.BigOperators.Group.List
import Mathlib.Algebra.Order.Ring.Nat
import RemoteRollout.Metrics

/-!
# Counting

What recording does to the counter. The series of a pair of labels is changed in its place, or
else added at the end, so what all of them show together (`Metrics.total`) changes by as much as
that one does. Values are 64 bits wide; as long as the total is far from that, none of them wraps.
-/

namespace RemoteRollout.Metrics

/-! ## Series -/

variable {fresh : Series} {series : List Series} {change : UInt64 → UInt64}

/-- The value of the series with the hash of this one, which stands in if there is none. -/
def valueIn (fresh : Series) (series : List Series) : UInt64 :=
  match series.find? (·.hash == fresh.hash) with
  | some s => s.value
  | none => fresh.value

theorem valueIn_cons (fresh s : Series) (rest : List Series) :
    valueIn fresh (s :: rest) = if s.hash = fresh.hash then s.value else valueIn fresh rest := by
  unfold valueIn
  by_cases h : s.hash = fresh.hash
  · simp [h]
  · simp [h]

theorem valueIn_changed (change : UInt64 → UInt64) (fresh : Series) (series : List Series) :
    valueIn fresh (changed change fresh series) = change (valueIn fresh series) := by
  induction series with
  | nil => simp [changed, valueIn]
  | cons s rest ih =>
    rw [changed, valueIn_cons]
    by_cases h : s.hash = fresh.hash
    · rw [if_pos h, if_pos h, valueIn_cons, if_pos h]
    · rw [if_neg h, if_neg h, valueIn_cons, if_neg h, ih]

/-- What some series show together. -/
def sum (series : List Series) : Nat := (series.map (·.value.toNat)).sum

/-- The sum changes by as much as the value that is changed. -/
theorem sum_changed (change : UInt64 → UInt64) (series : List Series) (h : fresh.value = 0) :
    sum (changed change fresh series) + (valueIn fresh series).toNat =
      sum series + (change (valueIn fresh series)).toNat := by
  induction series with
  | nil => simp [changed, valueIn, sum, h]
  | cons s rest ih =>
    rw [changed, valueIn_cons]
    by_cases hs : s.hash = fresh.hash
    · rw [if_pos hs, if_pos hs]
      simp only [sum, List.map_cons, List.sum_cons]
      omega
    · rw [if_neg hs, if_neg hs]
      simp only [sum, List.map_cons, List.sum_cons] at ih ⊢
      omega

theorem toNat_valueIn_le_sum (h : fresh.value = 0) : (valueIn fresh series).toNat ≤ sum series := by
  induction series with
  | nil => simp [valueIn, h]
  | cons s rest ih =>
    rw [valueIn_cons]
    simp only [sum, List.map_cons, List.sum_cons] at ih ⊢
    by_cases hs : s.hash = fresh.hash
    · rw [if_pos hs]
      omega
    · rw [if_neg hs]
      omega

theorem length_changed_le : (changed change fresh series).length ≤ series.length + 1 := by
  induction series with
  | nil => simp [changed]
  | cons s rest ih =>
    rw [changed]
    by_cases hs : s.hash = fresh.hash
    · simp [hs]
    · simpa [hs] using ih

/-- Looking at a series changes none that is there. -/
theorem prefix_changed_id : series <+: changed id fresh series := by
  induction series with
  | nil => exact List.nil_prefix
  | cons s rest ih =>
    rw [changed]
    by_cases hs : s.hash = fresh.hash
    · rw [if_pos hs]
      exact List.prefix_rfl
    · rw [if_neg hs, List.prefix_cons_inj]
      exact ih

/-! ## Counters -/

variable {m : Metrics}

/-- What all series show together. -/
def total (m : Metrics) : Nat := sum m.series

theorem count_eq (m : Metrics) (file version : String) :
    m.count file version = valueIn (blank file version) m.series := rfl

theorem toNat_value_le_total {s : Series} (h : s ∈ m.series) : s.value.toNat ≤ m.total :=
  List.le_sum_of_mem (List.mem_map_of_mem h)

theorem value_blank (file version : String) : (blank file version).value = 0 := rfl

/-- One more is counted. -/
theorem toNat_count_record (file version : String) (h : m.total < 2 ^ 64 - 1) :
    ((m.record file version).count file version).toNat = (m.count file version).toNat + 1 := by
  have hle : (m.count file version).toNat ≤ m.total :=
    toNat_valueIn_le_sum (value_blank file version)
  have hcount : (m.record file version).count file version = m.count file version + 1 :=
    valueIn_changed (· + 1) (blank file version) m.series
  rw [hcount, UInt64.toNat_add]
  exact Nat.mod_eq_of_lt (by simp; omega)

theorem total_record (file version : String) (h : m.total < 2 ^ 64 - 1) :
    (m.record file version).total = m.total + 1 := by
  have hsum := sum_changed (· + 1) m.series (value_blank file version)
  have hnext := toNat_count_record file version h
  rw [count_eq, record, valueIn_changed, count_eq] at hnext
  rw [hnext] at hsum
  show sum (changed (· + 1) (blank file version) m.series) = sum m.series + 1
  omega

theorem total_touch (m : Metrics) (file version : String) :
    (m.touch file version).total = m.total :=
  Nat.add_right_cancel (sum_changed id m.series (value_blank file version))

theorem length_record_le (m : Metrics) (file version : String) :
    (m.record file version).series.length ≤ m.series.length + 1 := length_changed_le

theorem prefix_touch (m : Metrics) (file version : String) :
    m.series <+: (m.touch file version).series := prefix_changed_id

end RemoteRollout.Metrics
