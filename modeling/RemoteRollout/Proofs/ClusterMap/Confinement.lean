import RemoteRollout.Proofs.ClusterMap.Loading
import RemoteRollout.Proofs.Storage.Below

/-!
# Artifacts stay below their root

`Path.isLocal` keeps a depth while it goes along the steps of a path. What it accepts is said here
without one, in two ways. Counted, no beginning of the steps leads up more often than down
(`Path.staysInside_iff`). Walked, with each `..` resolved against the name before it, a path that is
joined to a root stands at the root or at names below it from there on (`Path.Keeps`), while for a
path that is refused some `..` comes where the walk stands at the root (`Path.Climbs`). So whatever
a cluster map serves lies below the root of the map.
-/

namespace RemoteRollout

namespace Path

/-! ## Counting steps -/

/-- The step leads down, to a name. -/
@[simp] def Component.isName : Component → Bool
  | .name _ => true
  | _ => false

/-- How often these steps lead up. -/
def ups (steps : List Component) : Nat := steps.count .parent

/-- How often these steps lead down. -/
def downs (steps : List Component) : Nat := steps.countP Component.isName

@[simp] theorem ups_nil : ups [] = 0 := rfl

@[simp] theorem downs_nil : downs [] = 0 := rfl

theorem ups_cons (c : Component) (rest : List Component) :
    ups (c :: rest) = ups rest + (if c = .parent then 1 else 0) := by
  simp [ups, List.count_cons]

theorem downs_cons (c : Component) (rest : List Component) :
    downs (c :: rest) = downs rest + (if c.isName then 1 else 0) := by
  simp [downs, List.countP_cons]

theorem forall_prefix_cons {α : Type} {a : α} {l : List α} {P : List α → Prop} :
    (∀ front, front <+: a :: l → P front) ↔ P [] ∧ ∀ front, front <+: l → P (a :: front) := by
  constructor
  · intro h
    exact ⟨h [] List.nil_prefix, fun front hfront => h _ (List.cons_prefix_cons.2 ⟨rfl, hfront⟩)⟩
  · rintro ⟨hnil, hcons⟩ front hfront
    rcases List.prefix_cons_iff.1 hfront with rfl | ⟨rest, rfl, hrest⟩
    · exact hnil
    · exact hcons rest hrest

/-- From some depth a walk stays inside if at no point the steps up outnumber those down by more
than the depth. -/
theorem staysInside_iff {depth : Nat} {steps : List Component} (hroot : .root ∉ steps) :
    staysInside depth steps = true ↔
      ∀ front, front <+: steps → ups front ≤ depth + downs front := by
  induction steps generalizing depth with
  | nil => simp [staysInside]
  | cons c rest ih =>
    have hrest : .root ∉ rest := fun h => hroot (List.mem_cons_of_mem c h)
    rw [forall_prefix_cons]
    simp only [ups_cons, downs_cons]
    cases c with
    | root => exact absurd List.mem_cons_self hroot
    | here => simp [staysInside, ih hrest]
    | name text => simp [staysInside, ih hrest, Nat.add_assoc, Nat.add_comm 1]
    | parent =>
      cases depth with
      | zero =>
        -- The step itself leads up, and nothing before it down.
        refine iff_of_false Bool.false_ne_true fun h => ?_
        simpa using h.2 [] List.nil_prefix
      | succ depth =>
        simp only [staysInside, ih hrest, ups_nil, downs_nil, Nat.zero_le, true_and,
          Component.isName, Bool.false_eq_true, if_true, if_false]
        refine forall₂_congr fun front _ => ?_
        omega

/-- A walk that stays inside has stayed inside wherever it is cut off. -/
theorem staysInside_of_beginning {depth : Nat} {front steps : List Component} (h : front <+: steps)
    (hsteps : staysInside depth steps = true) : staysInside depth front = true := by
  induction front generalizing depth steps with
  | nil => rfl
  | cons c front ih =>
    obtain ⟨rest, rfl⟩ := h
    have hfront : front <+: front ++ rest := List.prefix_append front rest
    cases c with
    | root => cases hsteps
    | here => exact ih hfront hsteps
    | name text => exact ih hfront hsteps
    | parent =>
      cases depth with
      | zero => cases hsteps
      | succ depth => exact ih hfront hsteps

/-! ## Resolving steps -/

/-- Where a step leads from a place: `..` takes the last name of the place away. -/
def stepped (place : List Component) : Component → List Component
  | .root => [.root]
  | .here => place
  | .name text => place ++ [.name text]
  | .parent =>
    match place.getLast? with
    | some (.name _) => place.dropLast
    | some .root => place
    | _ => place ++ [.parent]

/-- Where these steps lead from a place, resolved from left to right. -/
def walked (place steps : List Component) : List Component := steps.foldl stepped place

/-- The place that these steps name by themselves. -/
def resolved (steps : List Component) : List Component := walked [] steps

/-- The place below another one that some names lead to. -/
def under (place : List Component) (names : List (List Char)) : List Component :=
  place ++ names.map .name

/-- Wherever a walk along these steps is cut off, it stands at the place where it began or at names
below it. -/
def Confined (place steps : List Component) : Prop :=
  ∀ front, front <+: steps → ∃ names, walked place front = under place names

/-- At some point of a walk along these steps it stands at the place where it began, and `..` is
next. -/
def Climbs (place steps : List Component) : Prop :=
  ∃ front, front ++ [.parent] <+: steps ∧ walked place front = place

@[simp] theorem walked_cons (place : List Component) (c : Component) (rest : List Component) :
    walked place (c :: rest) = walked (stepped place c) rest := rfl

theorem resolved_append (front rest : List Component) :
    resolved (front ++ rest) = walked (resolved front) rest :=
  List.foldl_append

@[simp] theorem under_nil (place : List Component) : under place [] = place :=
  List.append_nil place

@[simp] theorem stepped_name (place : List Component) (names : List (List Char))
    (text : List Char) :
    stepped (under place names) (.name text) = under place (names ++ [text]) := by
  simp [stepped, under]

@[simp] theorem stepped_parent (place : List Component) (names : List (List Char))
    (text : List Char) : stepped (under place (names ++ [text])) .parent = under place names := by
  simp [stepped, under, ← List.append_assoc]

theorem walked_of_staysInside (place : List Component) (names : List (List Char))
    {steps : List Component} (h : staysInside names.length steps = true) :
    ∃ names', walked (under place names) steps = under place names' := by
  -- The depth is always the number of names below the place.
  induction steps generalizing names with
  | nil => exact ⟨names, rfl⟩
  | cons c rest ih =>
    rw [walked_cons]
    cases c with
    | root => cases h
    | here => exact ih names h
    | name text =>
      rw [stepped_name]
      exact ih (names ++ [text]) (by simpa [staysInside] using h)
    | parent =>
      rcases List.eq_nil_or_concat' names with rfl | ⟨front, text, rfl⟩
      · cases h
      · rw [stepped_parent]
        exact ih front (by simpa [staysInside] using h)

theorem exists_climb (place : List Component) (names : List (List Char)) {steps : List Component}
    (hroot : .root ∉ steps) (h : staysInside names.length steps = false) :
    ∃ front, front ++ [.parent] <+: steps ∧ walked (under place names) front = place := by
  induction steps generalizing names with
  | nil => cases h
  | cons c rest ih =>
    have hrest : .root ∉ rest := fun hmem => hroot (List.mem_cons_of_mem c hmem)
    -- If the walk stands below the place after the step, it climbs later on.
    have hlater : ∀ names' : List (List Char), staysInside names'.length rest = false →
        stepped (under place names) c = under place names' →
        ∃ front, front ++ [.parent] <+: c :: rest ∧ walked (under place names) front = place := by
      intro names' hinside hstepped
      obtain ⟨front, hprefix, hwalked⟩ := ih names' hrest hinside
      exact ⟨c :: front, List.cons_prefix_cons.2 ⟨rfl, hprefix⟩,
        by rw [walked_cons, hstepped, hwalked]⟩
    cases c with
    | root => exact absurd List.mem_cons_self hroot
    | here => exact hlater names h rfl
    | name text =>
      exact hlater (names ++ [text]) (by simpa [staysInside] using h) (stepped_name ..)
    | parent =>
      rcases List.eq_nil_or_concat' names with rfl | ⟨front, text, rfl⟩
      · exact ⟨[], by simp, under_nil place⟩
      · exact hlater front (by simpa [staysInside] using h) (stepped_parent ..)

/-- A walk that stays inside is confined to the place where it begins. -/
theorem confined_of_staysInside (place : List Component) {steps : List Component}
    (h : staysInside 0 steps = true) : Confined place steps := by
  intro front hfront
  have hwalked := walked_of_staysInside place [] (staysInside_of_beginning hfront h)
  rwa [under_nil] at hwalked

/-- A walk that does not stay inside climbs above the place where it begins. -/
theorem climbs_of_not_staysInside (place : List Component) {steps : List Component}
    (hroot : .root ∉ steps) (h : staysInside 0 steps = false) : Climbs place steps := by
  have hclimb := exists_climb place [] hroot h
  rwa [under_nil] at hclimb

/-! ## Joined paths -/

/-- The steps without the `.` that they may begin with. -/
def withoutHere : List Component → List Component
  | .here :: rest => rest
  | steps => steps

/-- The steps that a relative text adds to a root. -/
def stepsUnder (root : Path) (text : String) : List Component :=
  if root.text = "" then (Path.mk text).components else withoutHere (Path.mk text).components

/-- A path that is joined to a root keeps it. -/
structure Keeps (root : Path) (text : String) : Prop where
  /-- The steps of the joined path are those of the root and then those of the text. -/
  components_eq : (root.join text).components = root.components ++ root.stepsUnder text
  /-- No step of the text ever takes a step of the root away. -/
  confined : Confined root.components (root.stepsUnder text)
  /-- Beyond the root, the joined path goes on resolving to the place of the root or to names below
  it, also if the root has some `..` of its own. -/
  resolved_eq : ∀ steps, root.components <+: steps → steps <+: (root.join text).components →
    ∃ names, resolved steps = under (resolved root.components) names

theorem isAbsoluteText_eq_false_iff {text : String} :
    isAbsoluteText text = false ↔ text.toList.head? ≠ some '/' := by
  simp [isAbsoluteText]

theorem withoutHere_components {text : String} (h : text.toList.head? ≠ some '/') :
    withoutHere (Path.mk text).components = stepsBelow text := by
  rcases components_of_relative h with heq | heq
  · rw [heq]
    cases hsteps : stepsBelow text with
    | nil => rfl
    | cons c rest =>
      have hc := (ne_of_mem_stepsBelow (hsteps ▸ List.mem_cons_self : c ∈ stepsBelow text)).2
      cases c with
      | here => exact absurd rfl hc
      | _ => rfl
  · rw [heq]
    rfl

theorem components_join_relative (root : Path) {text : String}
    (h : text.toList.head? ≠ some '/') :
    (root.join text).components = root.components ++ root.stepsUnder text := by
  by_cases hroot : root.text = ""
  · obtain ⟨root⟩ := root
    cases hroot
    rw [join_empty_root, stepsUnder, if_pos rfl]
    rfl
  · rw [components_join hroot (isAbsoluteText_eq_false_iff.2 h), stepsUnder, if_neg hroot,
      withoutHere_components h]

theorem staysInside_withoutHere (depth : Nat) (steps : List Component) :
    staysInside depth (withoutHere steps) = staysInside depth steps := by
  unfold withoutHere
  split <;> rfl

theorem staysInside_stepsUnder (root : Path) (text : String) :
    staysInside 0 (root.stepsUnder text) = staysInside 0 (Path.mk text).components := by
  unfold stepsUnder
  split
  · rfl
  · exact staysInside_withoutHere ..

theorem root_not_mem_stepsUnder (root : Path) {text : String}
    (h : text.toList.head? ≠ some '/') : .root ∉ root.stepsUnder text := by
  unfold stepsUnder
  split
  · exact root_not_mem_components h
  · rw [withoutHere_components h]
    exact fun hmem => (ne_of_mem_stepsBelow hmem).1 rfl

/-! ## Local paths -/

theorem isLocal_eq_staysInside {text : String} (h : text ≠ "") :
    isLocal text = staysInside 0 (Path.mk text).components := by
  simp [isLocal, components, h]

theorem isLocal_iff {text : String} :
    isLocal text = true ↔ text ≠ "" ∧ text.toList.head? ≠ some '/' ∧
      ∀ front, front <+: (Path.mk text).components → ups front ≤ downs front := by
  by_cases hempty : text = ""
  · subst hempty
    simp [isLocal]
  · by_cases hhead : text.toList.head? = some '/'
    · have hnot : ¬ isLocal text = true := fun h =>
        isAbsoluteText_eq_false_iff.1 (isAbsoluteText_of_isLocal h) hhead
      simp [hnot, hhead]
    · rw [isLocal_eq_staysInside hempty, staysInside_iff (root_not_mem_components hhead)]
      simp [hempty, hhead]

theorem keeps_of_isLocal (root : Path) {text : String} (h : isLocal text = true) :
    Keeps root text := by
  obtain ⟨hne, hhead, -⟩ := isLocal_iff.1 h
  have hjoin := components_join_relative root hhead
  have hinside : staysInside 0 (root.stepsUnder text) = true := by
    rw [staysInside_stepsUnder, ← isLocal_eq_staysInside hne, h]
  constructor
  case components_eq => exact hjoin
  case confined => exact confined_of_staysInside _ hinside
  case resolved_eq =>
    rintro steps ⟨front, rfl⟩ hsteps
    rw [hjoin, List.prefix_append_right_inj] at hsteps
    rw [resolved_append]
    exact confined_of_staysInside _ hinside front hsteps

theorem climbs_of_not_isLocal (root : Path) {text : String} (h : isLocal text = false)
    (hne : text ≠ "") (hhead : text.toList.head? ≠ some '/') (place : List Component) :
    Climbs place (root.stepsUnder text) := by
  refine climbs_of_not_staysInside place (root_not_mem_stepsUnder root hhead) ?_
  rw [staysInside_stepsUnder, ← isLocal_eq_staysInside hne, h]

end Path

namespace ClusterMap

open RemoteRollout.Path

/-- **Artifacts cannot leave their root.** The local paths are those that are neither empty nor
absolute and of which no beginning leads up more often than down. Joined to any root they keep it,
and so do all artifacts of a cluster map; any other relative path climbs above the root. -/
theorem artifacts_keep_root :
    (∀ text, isLocal text = true ↔ text ≠ "" ∧ text.toList.head? ≠ some '/' ∧
      ∀ front, front <+: (Path.mk text).components → ups front ≤ downs front) ∧
    (∀ root text, isLocal text = true → Keeps root text) ∧
    (∀ (root : Path) (text : String),
      isLocal text = false → text ≠ "" → text.toList.head? ≠ some '/' →
      (root.join text).components = root.components ++ root.stepsUnder text ∧
        Climbs root.components (root.stepsUnder text) ∧
        Climbs (resolved root.components) (root.stepsUnder text)) ∧
    ∀ root rows store m, build root rows store = .ok m → ∀ entry ∈ m.entries,
      m.artifactPath entry.artifact = root.join entry.artifact ∧ Keeps root entry.artifact := by
  refine ⟨fun text => isLocal_iff, fun root text => keeps_of_isLocal root, ?climbing, ?built⟩
  case climbing =>
    intro root text h hne hhead
    exact ⟨components_join_relative root hhead, climbs_of_not_isLocal root h hne hhead _,
      climbs_of_not_isLocal root h hne hhead _⟩
  case built =>
    intro root rows store m h entry hmem
    exact ⟨by rw [artifactPath, root_of_build h], keeps_of_isLocal root (isLocal_of_build h hmem)⟩

/-- A path that leads up and down again keeps a root with a `..` of its own, one that leads up too
often climbs above it, and a map has artifacts under odd spellings. -/
theorem artifacts_keep_root_odd :
    Keeps ⟨"/remote/../tree//"⟩ "./dir//../new.json/" ∧
    Climbs (Path.mk "/remote/../tree//").components
      (stepsUnder ⟨"/remote/../tree//"⟩ "dir/./../../new.json") ∧
    ∃ m, build ⟨"/remote/stable"⟩ boundaryRows boundaryFiles.fileStore = .ok m ∧
      Keeps ⟨"/remote/stable"⟩ m.first.artifact := by
  obtain ⟨m, hbuild⟩ := build_boundaryRows
  exact ⟨artifacts_keep_root.2.1 _ _ (by decide +kernel),
    (artifacts_keep_root.2.2.1 _ _ (by decide +kernel) (by decide) (by decide +kernel)).2.1,
    m, hbuild, (artifacts_keep_root.2.2.2 _ _ _ m hbuild m.first (List.head_mem m.nonempty)).2⟩

end ClusterMap

end RemoteRollout
