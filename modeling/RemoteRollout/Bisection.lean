/-!
# Bisection

Where a test stops passing. A test on places is `Falling` if no place that passes comes after one
that fails; `bisect` then finds the first place that fails by halving the range in which it lies.
-/

namespace RemoteRollout

/-- No place that passes the test comes after one that fails it. -/
def Falling (test : Nat → Bool) : Prop := ∀ i j, i ≤ j → test j = true → test i = true

/-- The first place from `low` on, and before `high`, at which the test fails; `high` if it passes
at all of them. -/
def bisect (test : Nat → Bool) (low high : Nat) : Nat :=
  if low < high then
    let middle := (low + high) / 2
    if test middle then bisect test (middle + 1) high else bisect test low middle
  else low
termination_by high - low

/-- A falling test passes before the place found, and nowhere from there on. -/
theorem lt_bisect_iff {test : Nat → Bool} (falling : Falling test) {low high : Nat}
    (hlow : ∀ i, i < low → test i = true) (hhigh : ∀ i, high ≤ i → test i = false) (i : Nat) :
    i < bisect test low high ↔ test i = true := by
  -- Every call keeps the bounds: the test passes before `low` and fails from `high` on.
  fun_induction bisect test low high with
  | case1 low high hlt middle hpass ih =>
    exact ih (fun j hj => falling j middle (by omega) hpass) hhigh
  | case2 low high hlt middle hfail ih =>
    refine ih hlow fun j hj => ?_
    rw [Bool.eq_false_iff]
    intro hpass
    exact hfail (falling middle j hj hpass)
  | case3 low high hge =>
    constructor
    · exact hlow i
    · intro hpass
      rcases Nat.lt_or_ge i low with hlt | hle
      · exact hlt
      · rw [hhigh i (by omega)] at hpass
        cases hpass

end RemoteRollout
