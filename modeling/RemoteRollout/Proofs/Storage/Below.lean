import RemoteRollout.Cohort
import RemoteRollout.Storage.Path

/-!
# Paths below a root

A path is below a root if the steps of the root come first among its own. `components_join` says
what joining does to the steps, so that whatever is joined to a root is below it. The directories
of the cohorts have no path in common, also across two trees, as long as neither tree is below the
other (`IsBelow.cohort_unique`, `Apart.not_isBelow`).
-/

namespace RemoteRollout

theorem Cohort.name_injective {c d : Cohort} (h : c.name = d.name) : c = d := by
  cases c with
  | stable =>
    cases d with
    | stable => rfl
    | canary => simp [name] at h
  | canary =>
    cases d with
    | stable => simp [name] at h
    | canary => rfl

namespace Path

/-! ## Joining -/

/-- The steps of a relative text below a root: there a `.` at its beginning is none. -/
def stepsBelow (text : String) : List Component :=
  (Text.pieces '/' text.toList).filterMap Component.ofPiece?

/-- The steps of a text that begins with no slash, by its first piece. -/
theorem componentsOf_of_pieces {cs p : List Char} {ps : List (List Char)}
    (h : cs.head? ≠ some '/') (hp : Text.pieces '/' cs = p :: ps) :
    componentsOf cs =
      (if p = ['.'] then [.here] else (Component.ofPiece? p).toList) ++
        ps.filterMap Component.ofPiece? := by
  unfold componentsOf
  split
  · next rest => exact absurd rfl h
  · rw [hp]
    by_cases hdot : p = ['.']
    · subst hdot
      rfl
    · rw [if_neg hdot]
      split
      · next heq => exact absurd (List.cons.inj heq).1 hdot
      · rw [List.filterMap_cons]
        cases Component.ofPiece? p <;> rfl

/-- What follows a slash adds its steps, unless the slash comes first. -/
theorem componentsOf_append {front : List Char} (h : front ≠ []) (rest : List Char) :
    componentsOf (front ++ '/' :: rest) =
      componentsOf front ++ (Text.pieces '/' rest).filterMap Component.ofPiece? := by
  obtain ⟨c, cs, rfl⟩ := List.exists_cons_of_ne_nil h
  by_cases hc : c = '/'
  · subst hc
    rw [List.cons_append, componentsOf, componentsOf, Text.pieces_append, List.filterMap_append]
    rfl
  · cases hp : Text.pieces '/' (c :: cs) with
    | nil => exact absurd hp (Text.pieces_ne_nil '/' (c :: cs))
    | cons p ps =>
      have hjoined : Text.pieces '/' (c :: cs ++ '/' :: rest) =
          p :: (ps ++ Text.pieces '/' rest) := by
        rw [Text.pieces_append, hp, List.cons_append]
      rw [componentsOf_of_pieces (by simpa using hc) hp,
        componentsOf_of_pieces (by simpa using hc) hjoined, List.filterMap_append,
        List.append_assoc]

/-- A slash at the end makes no step. -/
theorem componentsOf_append_slash {front : List Char} (h : front ≠ []) :
    componentsOf (front ++ ['/']) = componentsOf front := by
  rw [componentsOf_append h]
  simp [Text.pieces, Component.ofPiece?]

/-- The steps of a joined path are those of its root and then those of the text. -/
theorem components_join {root : Path} {text : String} (hroot : root.text ≠ "")
    (hrelative : isAbsoluteText text = false) :
    (root.join text).components = root.components ++ stepsBelow text := by
  have hne : root.text.toList ≠ [] := by simpa using hroot
  rw [join, hrelative, if_neg Bool.false_ne_true, stepsBelow, components, components]
  split
  · next hlast => exact absurd (List.getLast?_eq_none_iff.1 hlast) hne
  · -- The root brings its own slash, which makes no step.
    next hlast =>
    obtain ⟨front, hfront⟩ := List.getLast?_eq_some_iff.1 hlast
    rw [String.toList_append, hfront, List.append_assoc, List.singleton_append]
    by_cases hfront' : front = []
    · subst hfront'
      rfl
    · rw [componentsOf_append hfront', componentsOf_append_slash hfront']
  · rw [String.toList_append, String.toList_append, List.append_assoc]
    exact componentsOf_append hne _

theorem Component.ofPiece?_ne {piece : List Char} {c : Component} (h : ofPiece? piece = some c) :
    c ≠ .root ∧ c ≠ .here := by
  unfold ofPiece? at h
  split at h <;> cases h <;> simp

theorem ne_of_mem_stepsBelow {text : String} {c : Component} (h : c ∈ stepsBelow text) :
    c ≠ .root ∧ c ≠ .here := by
  obtain ⟨piece, -, hpiece⟩ := List.mem_filterMap.1 h
  exact Component.ofPiece?_ne hpiece

/-- A relative text has the steps that it adds below a root, and a `.` before them if it begins with
one. -/
theorem components_of_relative {text : String} (h : text.toList.head? ≠ some '/') :
    (Path.mk text).components = stepsBelow text ∨
      (Path.mk text).components = .here :: stepsBelow text := by
  cases hp : Text.pieces '/' text.toList with
  | nil => exact absurd hp (Text.pieces_ne_nil '/' text.toList)
  | cons p ps =>
    rw [components, componentsOf_of_pieces h hp, stepsBelow, hp, List.filterMap_cons]
    by_cases hdot : p = ['.']
    · subst hdot
      exact .inr rfl
    · rw [if_neg hdot]
      left
      cases Component.ofPiece? p <;> rfl

theorem root_not_mem_components {text : String} (h : text.toList.head? ≠ some '/') :
    .root ∉ (Path.mk text).components := by
  intro hmem
  have hbelow : Component.root ∉ stepsBelow text := fun hroot => (ne_of_mem_stepsBelow hroot).1 rfl
  rcases components_of_relative h with heq | heq
  · exact hbelow (heq ▸ hmem)
  · rw [heq] at hmem
    exact hbelow (by simpa using hmem)

theorem isAbsoluteText_of_isLocal {text : String} (h : isLocal text = true) :
    isAbsoluteText text = false := by
  rw [isLocal, Bool.and_eq_true] at h
  unfold isAbsoluteText
  cases hcs : text.toList with
  | nil => rfl
  | cons c cs =>
    by_cases hc : c = '/'
    · subst hc
      rw [hcs] at h
      cases h.2
    · simpa using hc

/-! ## Roots -/

/-- The steps of the root come first among those of the path. -/
def IsBelow (p root : Path) : Prop := root.components <+: p.components

instance (p root : Path) : Decidable (p.IsBelow root) :=
  inferInstanceAs (Decidable (root.components <+: p.components))

theorem IsBelow.trans {p q root : Path} (hp : p.IsBelow q) (hq : q.IsBelow root) :
    p.IsBelow root :=
  List.IsPrefix.trans hq hp

theorem IsBelow.congr {p q root : Path} (h : p.components = q.components) :
    p.IsBelow root ↔ q.IsBelow root := by
  rw [IsBelow, IsBelow, h]

theorem join_isBelow {root : Path} {text : String} (hroot : root.text ≠ "")
    (hrelative : isAbsoluteText text = false) : (root.join text).IsBelow root := by
  rw [IsBelow, components_join hroot hrelative]
  exact List.prefix_append _ _

/-- Neither of the two paths is below the other. -/
def Apart (a b : Path) : Prop := ¬ a.IsBelow b ∧ ¬ b.IsBelow a

/-- Nothing is below two paths that are apart. -/
theorem Apart.not_isBelow {a b p : Path} (h : a.Apart b) (ha : p.IsBelow a) : ¬ p.IsBelow b := by
  intro hb
  rcases List.prefix_or_prefix_of_prefix ha hb with hab | hba
  · exact h.2 hab
  · exact h.1 hba

/-! ## Directories of cohorts -/

/-- The directory of a cohort in the tree below a root. -/
def directory (root : Path) (cohort : Cohort) : Path := root.join cohort.name

/-- It takes one step from any root to the directory of a cohort, also from the empty one. -/
theorem components_directory (root : Path) (cohort : Cohort) :
    (root.directory cohort).components = root.components ++ [.name cohort.name.toList] := by
  by_cases hroot : root.text = ""
  · obtain ⟨text⟩ := root
    dsimp only at hroot
    subst hroot
    rw [directory, join_empty_root]
    cases cohort <;> decide +kernel
  · have hrelative : isAbsoluteText cohort.name = false := by cases cohort <;> decide +kernel
    have hsteps : stepsBelow cohort.name = [.name cohort.name.toList] := by
      cases cohort <;> decide +kernel
    rw [directory, components_join hroot hrelative, hsteps]

theorem directory_isBelow (root : Path) (cohort : Cohort) :
    (root.directory cohort).IsBelow root := by
  rw [IsBelow, components_directory]
  exact List.prefix_append _ _

theorem directory_text_ne (root : Path) (cohort : Cohort) : (root.directory cohort).text ≠ "" := by
  intro h
  have hcomponents := components_directory root cohort
  have hnone : (root.directory cohort).components = [] := by
    rw [components, h]
    rfl
  rw [hnone] at hcomponents
  simp at hcomponents

/-- A relative text joined to the directory of a cohort stays below it. -/
theorem join_directory_isBelow {root : Path} {cohort : Cohort} {text : String}
    (hrelative : isAbsoluteText text = false) :
    ((root.directory cohort).join text).IsBelow (root.directory cohort) :=
  join_isBelow (directory_text_ne root cohort) hrelative

/-- The directories of one tree have no path in common. -/
theorem IsBelow.cohort_unique {p root : Path} {c d : Cohort} (hc : p.IsBelow (root.directory c))
    (hd : p.IsBelow (root.directory d)) : c = d := by
  have hlength : (root.directory c).components.length ≤ (root.directory d).components.length := by
    simp [components_directory]
  have hprefix := List.prefix_of_prefix_length_le hc hd hlength
  rw [components_directory, components_directory, List.prefix_append_right_inj,
    List.cons_prefix_cons] at hprefix
  have hname : Component.name c.name.toList = Component.name d.name.toList := hprefix.1
  exact Cohort.name_injective (String.toList_inj.1 (Component.name.inj hname))

end Path

end RemoteRollout
