import RemoteRollout.Version.Precedence

/-!
# What precedence says

The rules for comparing two versions, stated without the comparison itself. `Version.Before` is
the strict order: the three numbers decide first, then the pre-releases, of which a release has
none and comes last. `precedence_eq_lt_iff` and its companions say that `Version.precedence`
answers exactly by these rules, so that every fact about its answers is one about the rules.
-/

namespace RemoteRollout

/-! ## Dictionaries -/

/-- The order of a dictionary over some order of the letters: the first letters that differ decide,
and a beginning comes before whatever it begins. -/
inductive Dictionary {α : Type} (before : α → α → Prop) : List α → List α → Prop where
  | differ (common : List α) {a b : α} (as bs : List α) (h : before a b) :
      Dictionary before (common ++ a :: as) (common ++ b :: bs)
  | longer (common : List α) (b : α) (bs : List α) : Dictionary before common (common ++ b :: bs)

namespace Dictionary

variable {α : Type} {before : α → α → Prop}

theorem cons {as bs : List α} (c : α) (h : Dictionary before as bs) :
    Dictionary before (c :: as) (c :: bs) := by
  cases h with
  | differ common as bs h => exact .differ (c :: common) as bs h
  | longer _ b bs => exact .longer (c :: as) b bs

theorem not_nil {as : List α} : ¬ Dictionary before as [] := by
  intro h
  -- The lists of the constructors are appends, which `cases` cannot match with `[]` by itself.
  generalize hbs : ([] : List α) = bs at h
  cases h with
  | differ common as bs h => simp at hbs
  | longer common b bs => simp at hbs

theorem cons_iff {a b : α} {as bs : List α} :
    Dictionary before (a :: as) (b :: bs) ↔ before a b ∨ a = b ∧ Dictionary before as bs := by
  constructor
  · intro h
    generalize hl : a :: as = left at h
    generalize hr : b :: bs = right at h
    cases h with
    | differ common as' bs' h =>
      -- The first letters differ, or they are the first that the lists have in common.
      cases common with
      | nil =>
        cases hl
        cases hr
        exact .inl h
      | cons c common =>
        cases hl
        cases hr
        exact .inr ⟨rfl, .differ common as' bs' h⟩
    | longer common b' bs' =>
      subst hl
      cases hr
      exact .inr ⟨rfl, .longer as b' bs'⟩
  · rintro (h | ⟨rfl, h⟩)
    · exact .differ [] as bs h
    · exact h.cons a

/-- The lexicographic comparison of lists is the order of a dictionary. -/
theorem compareLex_eq_lt_iff {cmp : α → α → Ordering} [Std.LawfulEqCmp cmp]
    (h : ∀ a b, cmp a b = .lt ↔ before a b) (as bs : List α) :
    List.compareLex cmp as bs = .lt ↔ Dictionary before as bs := by
  induction as generalizing bs with
  | nil =>
    cases bs with
    | nil => simpa [List.compareLex_nil_nil] using not_nil
    | cons b bs => simpa [List.compareLex_nil_cons] using Dictionary.longer [] b bs
  | cons a as ih =>
    cases bs with
    | nil => simpa [List.compareLex_cons_nil] using not_nil
    | cons b bs =>
      rw [List.compareLex_cons_cons, Ordering.then_eq_lt, Std.LawfulEqCmp.compare_eq_iff_eq, h, ih,
        cons_iff]

end Dictionary

/-! ## Identifiers and pre-releases -/

/-- One identifier comes before another: numbers by their value, words as in a dictionary of
character codes, and any number before any word. -/
inductive Identifier.Before : Identifier → Identifier → Prop where
  | numbers {m n : Nat} (h : m < n) : Before (.number m) (.number n)
  | numberWord (n : Nat) (w : List Char) : Before (.number n) (.word w)
  | words {v w : List Char} (h : Dictionary (·.toNat < ·.toNat) v w) : Before (.word v) (.word w)

/-- One pre-release comes before another: every pre-release before the release, which has no
identifiers, and two pre-releases as in a dictionary of identifiers. -/
inductive Version.PreBefore : List Identifier → List Identifier → Prop where
  | release (a : Identifier) (as : List Identifier) : PreBefore (a :: as) []
  | listed {a b : Identifier} {as bs : List Identifier}
      (h : Dictionary Identifier.Before (a :: as) (b :: bs)) : PreBefore (a :: as) (b :: bs)

theorem compare_char_eq_lt_iff (c d : Char) : compare c d = .lt ↔ c.toNat < d.toNat :=
  compareOfLessAndEq_eq_lt

namespace Identifier

theorem order_eq_lt_iff (a b : Identifier) : order a b = .lt ↔ a.Before b := by
  constructor
  · intro h
    cases a with
    | number m =>
      cases b with
      | number n => exact .numbers (Nat.compare_eq_lt.1 h)
      | word w => exact .numberWord m w
    | word v =>
      cases b with
      | number n => cases h
      | word w => exact .words ((Dictionary.compareLex_eq_lt_iff compare_char_eq_lt_iff v w).1 h)
  · intro h
    cases h with
    | numbers h => exact Nat.compare_eq_lt.2 h
    | numberWord n w => rfl
    | words h => exact (Dictionary.compareLex_eq_lt_iff compare_char_eq_lt_iff _ _).2 h

end Identifier

namespace Version

theorem preOrder_eq_lt_iff (as bs : List Identifier) : preOrder as bs = .lt ↔ PreBefore as bs := by
  constructor
  · intro h
    cases as with
    | nil => cases bs <;> cases h
    | cons a as =>
      cases bs with
      | nil => exact .release a as
      | cons b bs =>
        exact .listed ((Dictionary.compareLex_eq_lt_iff Identifier.order_eq_lt_iff _ _).1 h)
  · intro h
    cases h with
    | release a as => rfl
    | listed h => exact (Dictionary.compareLex_eq_lt_iff Identifier.order_eq_lt_iff _ _).2 h

/-! ## Versions -/

/-- One version comes before another: the first of the three numbers that differs decides, or else
the pre-releases do. -/
inductive Before (v w : Version) : Prop where
  | major (h : v.major < w.major)
  | minor (major : v.major = w.major) (h : v.minor < w.minor)
  | patch (major : v.major = w.major) (minor : v.minor = w.minor) (h : v.patch < w.patch)
  | pre (major : v.major = w.major) (minor : v.minor = w.minor) (patch : v.patch = w.patch)
      (h : PreBefore v.pre w.pre)

/-- Neither version comes before the other: they differ in their build metadata at most. -/
structure Level (v w : Version) : Prop where
  major : v.major = w.major
  minor : v.minor = w.minor
  patch : v.patch = w.patch
  pre : v.pre = w.pre

/-- One version comes before the other, or is level with it. -/
def AtMost (v w : Version) : Prop := v.Before w ∨ v.Level w

theorem precedence_eq_lt_iff {v w : Version} : v.precedence w = .lt ↔ v.Before w := by
  simp only [precedence, Ordering.then_eq_lt, Nat.compare_eq_lt, Nat.compare_eq_eq,
    preOrder_eq_lt_iff]
  constructor
  · rintro (h | ⟨hmajor, h | ⟨hminor, h | ⟨hpatch, h⟩⟩⟩)
    · exact .major h
    · exact .minor hmajor h
    · exact .patch hmajor hminor h
    · exact .pre hmajor hminor hpatch h
  · intro h
    cases h with
    | major h => exact .inl h
    | minor hmajor h => exact .inr ⟨hmajor, .inl h⟩
    | patch hmajor hminor h => exact .inr ⟨hmajor, .inr ⟨hminor, .inl h⟩⟩
    | pre hmajor hminor hpatch h => exact .inr ⟨hmajor, .inr ⟨hminor, .inr ⟨hpatch, h⟩⟩⟩

theorem precedence_eq_gt_iff {v w : Version} : v.precedence w = .gt ↔ w.Before v := by
  rw [← precedence_eq_lt_iff]
  exact Std.OrientedCmp.gt_iff_lt

theorem precedence_eq_eq_iff_level {v w : Version} : v.precedence w = .eq ↔ v.Level w := by
  rw [precedence_eq_eq_iff]
  constructor
  · rintro ⟨hmajor, hminor, hpatch, hpre⟩
    exact ⟨hmajor, hminor, hpatch, hpre⟩
  · rintro ⟨hmajor, hminor, hpatch, hpre⟩
    exact ⟨hmajor, hminor, hpatch, hpre⟩

/-- Of any two versions, one is at most the other. -/
theorem atMost_iff_not_before {v w : Version} : v.AtMost w ↔ ¬ w.Before v := by
  rw [AtMost, ← precedence_eq_lt_iff, ← precedence_eq_eq_iff_level, ← precedence_eq_gt_iff]
  cases v.precedence w <;> simp

theorem precedence_ne_gt_iff {v w : Version} : v.precedence w ≠ .gt ↔ v.AtMost w := by
  rw [ne_eq, precedence_eq_gt_iff, atMost_iff_not_before]

instance (v w : Version) : Decidable (v.Before w) := decidable_of_iff _ precedence_eq_lt_iff

instance (v w : Version) : Decidable (v.Level w) := decidable_of_iff _ precedence_eq_eq_iff_level

instance (v w : Version) : Decidable (v.AtMost w) := inferInstanceAs (Decidable (_ ∨ _))

theorem Before.trans {u v w : Version} (huv : u.Before v) (hvw : v.Before w) : u.Before w := by
  rw [← precedence_eq_lt_iff] at *
  exact Std.TransCmp.lt_trans huv hvw

theorem Before.of_before_of_atMost {u v w : Version} (huv : u.Before v) (hvw : v.AtMost w) :
    u.Before w := by
  rcases hvw with hvw | hvw
  · exact huv.trans hvw
  · rw [← precedence_eq_lt_iff] at *
    rw [← precedence_eq_eq_iff_level] at hvw
    exact Std.TransCmp.lt_of_lt_of_eq huv hvw

theorem Level.refl (v : Version) : v.Level v := ⟨rfl, rfl, rfl, rfl⟩

theorem Level.symm {v w : Version} (h : v.Level w) : w.Level v :=
  ⟨h.major.symm, h.minor.symm, h.patch.symm, h.pre.symm⟩

theorem Before.not_atMost {v w : Version} (h : v.Before w) : ¬ w.AtMost v := by
  rw [atMost_iff_not_before]
  exact not_not_intro h

theorem Before.not_level {v w : Version} (h : v.Before w) : ¬ v.Level w :=
  fun hlevel => h.not_atMost (.inr hlevel.symm)

end Version

end RemoteRollout
