import RemoteRollout.Proofs.ClusterMap.Floor
import RemoteRollout.Proofs.Service.Run
import RemoteRollout.Proofs.Startup
import RemoteRollout.Proofs.Storage.Below

/-!
# Cohorts do not disturb each other

Both cohorts share one cache and one store. A service is laid out (`LaidOut`) if each map came from
the directory of its cohort, and the trees of remote configurations and of rules are apart; then
what a cohort reads lies in its own trees (`LaidOut.resource_inTrees`), and no path lies in the
trees of both (`LaidOut.cohort_unique`). Two worlds that agree outside the trees of a cohort
(`AgreeOutside`) cannot be told apart by the other one, and stay so if that cohort's steps are
taken in only one of them: so these can be taken away from a run, and nobody else will notice.
-/

namespace RemoteRollout

/-! ## Steady selection -/

/-- The evaluator goes by the id alone, whatever it was asked before. -/
def Evaluator.Steady (e : Evaluator) : Prop :=
  ∀ asked asked' id, e.isCanary asked id = e.isCanary asked' id

theorem Evaluator.ofList_steady (ids : List String) : (Evaluator.ofList ids).Steady :=
  fun _ _ _ => rfl

/-- The evaluator of the selector, if there is one, goes by the id alone. -/
def Selector.Steady (sel : Selector) : Prop := ∀ e, sel.evaluator = some e → e.Steady

theorem Selector.Steady.cohort_eq {sel : Selector} (h : sel.Steady) (asked asked' : List String)
    (r : Request) : (sel.select asked r).cohort = (sel.select asked' r).cohort := by
  obtain ⟨enabled, evaluator⟩ := sel
  cases enabled with
  | false => rfl
  | true =>
    cases evaluator with
    | none => rfl
    | some e =>
      have hanswer := h e rfl asked asked' r.clusterId
      simp only [select]
      by_cases hid : r.clusterId = ""
      · rw [if_pos hid, if_pos hid]
      · rw [if_neg hid, if_neg hid, hanswer]

namespace Service

variable {s : Service} {remote : Path}

theorem cohortOf_steady (h : s.selector.Steady) (asked asked' : List String) (q : Query) :
    s.cohortOf asked q = s.cohortOf asked' q := by
  cases q with
  | rules r => exact h.cohort_eq asked asked' r
  | remoteConfiguration r text => exact h.cohort_eq asked asked' r
  | artifact cohort text => rfl

/-! ## Trees -/

/-- The maps of the service came from the directories of their cohorts in the tree of remote
configurations, and its rules are in a tree apart from that one. -/
structure LaidOut (s : Service) (remote : Path) : Prop where
  apart : remote.Apart s.rulesPath
  stable : s.stable.LoadedBelow (remote.directory .stable)
  canary : s.canary.LoadedBelow (remote.directory .canary)

/-- The path lies in the directory of the cohort, in one tree or the other. -/
def InTrees (s : Service) (remote : Path) (cohort : Cohort) (p : Path) : Prop :=
  p.IsBelow (remote.directory cohort) ∨ p.IsBelow (s.rulesPath.directory cohort)

instance (s : Service) (remote : Path) (cohort : Cohort) (p : Path) :
    Decidable (s.InTrees remote cohort p) :=
  inferInstanceAs (Decidable (_ ∨ _))

theorem LaidOut.loadedBelow (h : s.LaidOut remote) (cohort : Cohort) :
    (s.clusterMap cohort).LoadedBelow (remote.directory cohort) := by
  cases cohort with
  | stable => exact h.stable
  | canary => exact h.canary

/-- What is read for an answer lies in the trees of the cohort it is answered from. -/
theorem LaidOut.resource_inTrees (h : s.LaidOut remote) {cohort : Cohort} {q : Query} {p : Path}
    (hp : s.resource? cohort q = some p) : s.InTrees remote cohort p := by
  cases q with
  | artifact c text => cases hp
  | rules r =>
    cases hp
    exact .inr (Path.join_directory_isBelow (by decide +kernel))
  | remoteConfiguration r text =>
    cases hv : Version.parse text with
    | error fault => simp [resource?, hv] at hp
    | ok v =>
      cases he : (s.clusterMap cohort).resolve v with
      | error e => simp [resource?, hv, he] at hp
      | ok entry =>
        simp only [resource?, hv, he, Option.some.injEq] at hp
        have hmap := h.loadedBelow cohort
        obtain ⟨i, hi, -⟩ := ClusterMap.floor?_eq_some_iff.1 (ClusterMap.resolve_eq_ok_iff.1 he)
        have hlocal := hmap.isLocal (List.mem_of_getElem? hi)
        rw [← hp, ClusterMap.artifactPath, hmap.root_eq]
        exact .inl (Path.join_directory_isBelow (Path.isAbsoluteText_of_isLocal hlocal))

/-- No path lies in the trees of two cohorts. -/
theorem LaidOut.cohort_unique (h : s.LaidOut remote) {c d : Cohort} {p : Path}
    (hc : s.InTrees remote c p) (hd : s.InTrees remote d p) : c = d := by
  rcases hc with hc | hc
  · rcases hd with hd | hd
    · exact hc.cohort_unique hd
    · have hremote := hc.trans (Path.directory_isBelow remote c)
      exact absurd (hd.trans (Path.directory_isBelow s.rulesPath d)) (h.apart.not_isBelow hremote)
  · rcases hd with hd | hd
    · have hremote := hd.trans (Path.directory_isBelow remote d)
      exact absurd (hc.trans (Path.directory_isBelow s.rulesPath c)) (h.apart.not_isBelow hremote)
    · exact hc.cohort_unique hd

theorem inTrees_congr {cohort : Cohort} {p q : Path} (h : p.components = q.components) :
    s.InTrees remote cohort p ↔ s.InTrees remote cohort q := by
  rw [InTrees, InTrees, Path.IsBelow.congr h, Path.IsBelow.congr h]

/-! ## Runs without a cohort -/

/-- The step is a query answered from the cohort, or changes a file in its trees. A steady selector
chooses the same cohort whatever it has asked for, and so as if it had asked for nothing. -/
def Concerns (s : Service) (remote : Path) (cohort : Cohort) : Step → Prop
  | .ask q => s.cohortOf [] q = cohort
  | .write p _ | .remove p => s.InTrees remote cohort p
  | .count .. | .keep .. => False

instance (s : Service) (remote : Path) (cohort : Cohort) (a : Step) :
    Decidable (s.Concerns remote cohort a) := by
  cases a <;> unfold Concerns <;> infer_instance

/-- The run without the queries and file changes of a cohort. -/
def without (s : Service) (remote : Path) (cohort : Cohort) (steps : List Step) : List Step :=
  steps.filter fun a => ¬ s.Concerns remote cohort a

/-- The step is a query answered from the cohort. -/
def Asks (s : Service) (cohort : Cohort) : Step → Prop
  | .ask q => s.cohortOf [] q = cohort
  | _ => False

instance (s : Service) (cohort : Cohort) (a : Step) : Decidable (s.Asks cohort a) := by
  cases a <;> unfold Asks <;> infer_instance

/-- The queries of a run that are answered from the cohort, each with its answer. -/
def answersOf (s : Service) (cohort : Cohort) (w : World) (steps : List Step) :
    List (Step × Answer) :=
  (steps.zip (s.run w steps).1).filter fun e => s.Asks cohort e.1

theorem answersOf_cons (cohort : Cohort) (w : World) (a : Step) (as : List Step) :
    s.answersOf cohort w (a :: as) =
      (if s.Asks cohort a then [(a, (s.step w a).1)] else []) ++
        s.answersOf cohort (s.step w a).2 as := by
  rw [answersOf, run, List.zip_cons_cons, List.filter_cons]
  by_cases h : s.Asks cohort a
  · simp [h, answersOf]
  · simp [h, answersOf]

/-! ## Worlds that agree outside the trees of a cohort -/

/-- Outside the trees of the cohort there are the same files, and the same are kept. -/
structure AgreeOutside (s : Service) (remote : Path) (cohort : Cohort) (w w' : World) : Prop where
  files : ∀ p, ¬ s.InTrees remote cohort p → w.files.get? p = w'.files.get? p
  kept : ∀ p, ¬ s.InTrees remote cohort p →
    w.state.cache.entries.get? p = w'.state.cache.entries.get? p

variable {gone other : Cohort} {w w' : World}

theorem AgreeOutside.refl (w : World) : s.AgreeOutside remote gone w w :=
  ⟨fun _ _ => rfl, fun _ _ => rfl⟩

theorem AgreeOutside.shown_eq (h : s.AgreeOutside remote gone w w') {p : Path}
    (hp : ¬ s.InTrees remote gone p) :
    (w.state.cache.get w.files.fileStore p).1 = (w'.state.cache.get w'.files.fileStore p).1 := by
  rw [Cache.get_answers, Cache.get_answers, Cache.bytes?, Cache.bytes?, h.files p hp, h.kept p hp]

/-- What other cohorts read does not lie in the trees of this one. -/
theorem LaidOut.not_inTrees (h : s.LaidOut remote) (hother : other ≠ gone) {q : Query} {p : Path}
    (hp : s.resource? other q = some p) : ¬ s.InTrees remote gone p :=
  fun hgone => hother (h.cohort_unique (h.resource_inTrees hp) hgone)

/-- A query of another cohort is answered alike in both worlds. -/
theorem AgreeOutside.answer_eq (h : s.AgreeOutside remote gone w w') (hlaid : s.LaidOut remote)
    (hsteady : s.selector.Steady) {q : Query} (hq : s.cohortOf [] q ≠ gone) :
    (s.step w (.ask q)).1 = (s.step w' (.ask q)).1 := by
  show (s.answer w.files.fileStore w.state q).1 = (s.answer w'.files.fileStore w'.state q).1
  rw [Service.answer_eq, Service.answer_eq, cohortOf_steady hsteady w.state.asked [],
    cohortOf_steady hsteady w'.state.asked []]
  exact answerFrom_congr fun p hp => h.shown_eq (hlaid.not_inTrees hq hp)

theorem step_ask_cache (s : Service) (w : World) (q : Query) :
    (s.step w (.ask q)).2.state.cache =
      ((s.resource? (s.cohortOf w.state.asked q) q).map
        fun p => (w.state.cache.get w.files.fileStore p).2.1).getD w.state.cache :=
  answer_cache_eq s w.files.fileStore w.state q

/-- A step of the cohort changes nothing outside its trees. -/
theorem AgreeOutside.step_left (h : s.AgreeOutside remote gone w w') (hlaid : s.LaidOut remote)
    (hsteady : s.selector.Steady) {a : Step} (ha : s.Concerns remote gone a) :
    s.AgreeOutside remote gone (s.step w a).2 w' := by
  cases a with
  | count file version => exact ha.elim
  | keep p bytes => exact ha.elim
  | ask q =>
    refine ⟨h.files, fun p hp => ?_⟩
    have hcohort : s.cohortOf w.state.asked q = gone :=
      (cohortOf_steady hsteady w.state.asked [] q).trans ha
    rw [step_ask_cache, hcohort]
    cases hresource : s.resource? gone q with
    | none => exact h.kept p hp
    | some read =>
      have hne : read.components ≠ p.components := by
        intro heq
        exact hp ((inTrees_congr heq).1 (hlaid.resource_inTrees hresource))
      show (w.state.cache.get w.files.fileStore read).2.1.entries.get? p = _
      rw [Cache.get?_entries_get, if_neg hne]
      exact h.kept p hp
  | write changed bytes =>
    refine ⟨fun p hp => ?_, h.kept⟩
    have hne : changed.components ≠ p.components := fun heq => hp ((inTrees_congr heq).1 ha)
    show (w.files.set changed bytes).get? p = _
    rw [PathTable.get?_set, if_neg hne]
    exact h.files p hp
  | remove changed =>
    refine ⟨fun p hp => ?_, h.kept⟩
    have hne : changed.components ≠ p.components := fun heq => hp ((inTrees_congr heq).1 ha)
    show (w.files.erase changed).get? p = _
    rw [PathTable.get?_erase, if_neg hne]
    exact h.files p hp

/-- Any other step changes the same outside the trees of the cohort in both worlds. -/
theorem AgreeOutside.step (h : s.AgreeOutside remote gone w w') (hlaid : s.LaidOut remote)
    (hsteady : s.selector.Steady) {a : Step} (ha : ¬ s.Concerns remote gone a) :
    s.AgreeOutside remote gone (s.step w a).2 (s.step w' a).2 := by
  cases a with
  | count file version => exact ⟨h.files, h.kept⟩
  | ask q =>
    refine ⟨h.files, fun p hp => ?_⟩
    rw [step_ask_cache, step_ask_cache, cohortOf_steady hsteady w.state.asked [],
      cohortOf_steady hsteady w'.state.asked []]
    cases hresource : s.resource? (s.cohortOf [] q) q with
    | none => exact h.kept p hp
    | some read =>
      show (w.state.cache.get w.files.fileStore read).2.1.entries.get? p =
        (w'.state.cache.get w'.files.fileStore read).2.1.entries.get? p
      rw [Cache.get?_entries_get, Cache.get?_entries_get, h.kept p hp,
        h.shown_eq (hlaid.not_inTrees ha hresource)]
  | keep changed bytes =>
    refine ⟨h.files, fun p hp => ?_⟩
    show (w.state.cache.entries.set changed bytes).get? p =
      (w'.state.cache.entries.set changed bytes).get? p
    rw [PathTable.get?_set, PathTable.get?_set, h.kept p hp]
  | write changed bytes =>
    refine ⟨fun p hp => ?_, h.kept⟩
    show (w.files.set changed bytes).get? p = (w'.files.set changed bytes).get? p
    rw [PathTable.get?_set, PathTable.get?_set, h.files p hp]
  | remove changed =>
    refine ⟨fun p hp => ?_, h.kept⟩
    show (w.files.erase changed).get? p = (w'.files.erase changed).get? p
    rw [PathTable.get?_erase, PathTable.get?_erase, h.files p hp]

/-! ## Isolation -/

/-- From worlds that agree outside the trees of a cohort, one run with its steps and one without
them give the other cohort the same answers. -/
theorem AgreeOutside.answersOf_eq (h : s.AgreeOutside remote gone w w') (hlaid : s.LaidOut remote)
    (hsteady : s.selector.Steady) (hother : other ≠ gone) (steps : List Step) :
    s.answersOf other w' (s.without remote gone steps) = s.answersOf other w steps := by
  induction steps generalizing w w' with
  | nil => rfl
  | cons a as ih =>
    rw [answersOf_cons]
    by_cases ha : s.Concerns remote gone a
    · -- The step is taken in `w` only, and it is no query of the other cohort.
      have hasks : ¬ s.Asks other a := by
        cases a with
        | ask q => exact fun hq => hother (hq.symm.trans ha)
        | _ => exact id
      have hskip : s.without remote gone (a :: as) = s.without remote gone as := by
        simp [without, ha]
      rw [if_neg hasks, hskip, List.nil_append]
      exact ih (h.step_left hlaid hsteady ha)
    · have hkeep : s.without remote gone (a :: as) = a :: s.without remote gone as := by
        simp [without, ha]
      rw [hkeep, answersOf_cons, ih (h.step hlaid hsteady ha)]
      by_cases hasks : s.Asks other a
      · cases a with
        | ask q => rw [h.answer_eq hlaid hsteady ha]
        | _ => exact hasks.elim
      · rw [if_neg hasks, if_neg hasks]

/-- **Cohorts do not disturb each other**: if all queries of one cohort are taken away from a run,
together with all changes to files in its trees, then the queries of the other one are answered as
before. -/
theorem answersOf_without (hlaid : s.LaidOut remote) (hsteady : s.selector.Steady)
    (hother : other ≠ gone) (w : World) (steps : List Step) :
    s.answersOf other w (s.without remote gone steps) = s.answersOf other w steps :=
  (AgreeOutside.refl w).answersOf_eq hlaid hsteady hother steps

/-- A run in which the canary trees change, under other spellings, between queries of both
cohorts. -/
def canaryChanges : List Step :=
  [.ask (.remoteConfiguration ⟨some "cluster/c1"⟩ "1.5.0"),
    .write ⟨"/remote/./canary//old.json"⟩ [],
    .ask (.remoteConfiguration ⟨none⟩ "1.5.0"),
    .remove ⟨"/rules//canary/rules.json"⟩,
    .remove ⟨"/remote/stable/dir/new.json"⟩,
    .ask (.rules ⟨some "cluster/c1"⟩),
    .ask (.remoteConfiguration ⟨none⟩ "2.0.0")]

theorem slashedFiles_isolated :
    ∃ s state, (Startup.start Startup.slashedSettings none Startup.slashedFiles.fileStore).result =
        .ok (s, state) ∧
      s.LaidOut ⟨"/remote//"⟩ ∧ s.selector.Steady ∧
      s.answersOf .stable ⟨Startup.slashedFiles, state⟩
          (s.without ⟨"/remote//"⟩ .canary canaryChanges) =
        s.answersOf .stable ⟨Startup.slashedFiles, state⟩ canaryChanges := by
  obtain ⟨s, state, h⟩ := Startup.start_slashedFiles
  obtain ⟨hrules, hselector, hstable, hcanary⟩ := Startup.parts_of_start h
  have hlaid : s.LaidOut ⟨"/remote//"⟩ := by
    refine ⟨?_, hstable, hcanary⟩
    rw [hrules]
    exact ⟨by decide +kernel, by decide +kernel⟩
  have hsteady : s.selector.Steady := by
    rw [hselector]
    intro e he
    cases he
    exact Evaluator.ofList_steady _
  have hother : Cohort.stable ≠ Cohort.canary := by decide
  exact ⟨s, state, h, hlaid, hsteady, answersOf_without hlaid hsteady hother _ canaryChanges⟩

end Service

end RemoteRollout
