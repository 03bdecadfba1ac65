import RemoteRollout.Version

/-!
# Precedence is an order

Precedence compares any two versions, is transitive, and finds two versions equal exactly if they
differ in nothing but their build metadata. Each comparison it is made of has these laws; those of
numbers and of texts are the library's.
-/

namespace RemoteRollout

namespace Identifier

instance : Std.OrientedCmp order where
  eq_swap {a b} := by
    cases a with
    | number m =>
      cases b with
      | number n => exact Std.OrientedOrd.eq_swap
      | word w => rfl
    | word v =>
      cases b with
      | number n => rfl
      | word w => exact Std.OrientedOrd.eq_swap

instance : Std.TransCmp order where
  isLE_trans {a b c} hab hbc := by
    cases a with
    | number m =>
      cases b with
      | number n =>
        cases c with
        | number k => exact Std.TransOrd.isLE_trans (α := Nat) hab hbc
        | word w => rfl
      | word v =>
        cases c with
        | number k => cases hbc
        | word w => rfl
    | word u =>
      cases b with
      | number n => cases hab
      | word v =>
        cases c with
        | number k => cases hbc
        | word w => exact Std.TransOrd.isLE_trans (α := List Char) hab hbc

instance : Std.LawfulEqCmp order where
  compare_self {a} := by
    cases a with
    | number m => exact Std.ReflOrd.compare_self
    | word v => exact Std.ReflOrd.compare_self
  eq_of_compare {a b} h := by
    cases a with
    | number m =>
      cases b with
      | number n => exact congrArg number (Std.LawfulEqOrd.eq_of_compare h)
      | word w => cases h
    | word v =>
      cases b with
      | number n => cases h
      | word w => exact congrArg word (Std.LawfulEqOrd.eq_of_compare h)

end Identifier

namespace Version

/-- Two pre-releases that are both there compare identifier by identifier. -/
theorem preOrder_cons (a : Identifier) (as : List Identifier) (b : Identifier)
    (bs : List Identifier) :
    preOrder (a :: as) (b :: bs) = List.compareLex Identifier.order (a :: as) (b :: bs) := rfl

instance : Std.OrientedCmp preOrder where
  eq_swap {as bs} := by
    cases as with
    | nil => cases bs <;> rfl
    | cons a as =>
      cases bs with
      | nil => rfl
      | cons b bs =>
        rw [preOrder_cons, preOrder_cons]
        exact Std.OrientedCmp.eq_swap

instance : Std.TransCmp preOrder where
  isLE_trans {as bs cs} hab hbc := by
    cases cs with
    | nil => cases as <;> rfl
    | cons c cs =>
      cases bs with
      | nil => cases hbc
      | cons b bs =>
        cases as with
        | nil => cases hab
        | cons a as =>
          rw [preOrder_cons] at hab hbc ⊢
          exact Std.TransCmp.isLE_trans hab hbc

instance : Std.LawfulEqCmp preOrder where
  compare_self {as} := by
    cases as with
    | nil => rfl
    | cons a as => rw [preOrder_cons]; exact Std.ReflCmp.compare_self
  eq_of_compare {as bs} h := by
    cases as with
    | nil =>
      cases bs with
      | nil => rfl
      | cons b bs => cases h
    | cons a as =>
      cases bs with
      | nil => cases h
      | cons b bs =>
        rw [preOrder_cons] at h
        exact Std.LawfulEqCmp.eq_of_compare h

/-- Precedence looks at one part after the other. -/
theorem precedence_eq_compareLex :
    precedence = compareLex (compareOn major) (compareLex (compareOn minor)
      (compareLex (compareOn patch) fun v w => preOrder v.pre w.pre)) := rfl

instance : Std.TransCmp fun v w : Version => preOrder v.pre w.pre where
  eq_swap {v w} := @Std.OrientedCmp.eq_swap _ preOrder _ v.pre w.pre
  isLE_trans {u v w} := @Std.TransCmp.isLE_trans _ preOrder _ u.pre v.pre w.pre

instance : Std.TransCmp precedence := by
  rw [precedence_eq_compareLex]
  infer_instance

/-- Versions of equal precedence agree on everything but the build metadata. -/
theorem precedence_eq_eq_iff {v w : Version} :
    v.precedence w = .eq ↔
      v.major = w.major ∧ v.minor = w.minor ∧ v.patch = w.patch ∧ v.pre = w.pre := by
  simp only [precedence, Ordering.then_eq_eq, Std.LawfulEqCmp.compare_eq_iff_eq]

end Version

end RemoteRollout
