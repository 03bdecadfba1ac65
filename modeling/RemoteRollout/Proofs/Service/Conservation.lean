import RemoteRollout.Proofs.Metrics.Exposition
import RemoteRollout.Proofs.Service.History
import RemoteRollout.Proofs.Startup

/-!
# Every served configuration is counted once

What a moment does to the counter is one of three things (`Moment.Metered`): a remote configuration
that is served is recorded, a look at the counter touches it, and anything else leaves it alone. So
what all series show together grows by one for each configuration served, and by nothing else; over
a run, the samples that are exposed add up to the configurations served.
-/

namespace RemoteRollout

/-- A remote configuration was served. -/
def Answer.isServed : Answer → Bool
  | .remoteConfiguration (.ok _) => true
  | _ => false

namespace Moment

variable {s : Service} {m : Moment}

/-- The counter before a moment. -/
def metrics (m : Moment) : Metrics := m.scene.state.metrics

/-- The counter after a moment. -/
def metricsAfter (s : Service) (m : Moment) : Metrics := (m.after s).state.metrics

/-- What a moment makes of the counter. -/
inductive Metered (s : Service) (m : Moment) : Metrics → Prop where
  | served {cohort : Cohort} {entry : MapEntry} {configuration : RemoteConfiguration}
      (hentry : m.ResolvesTo s cohort entry)
      (hanswer : m.answer s = .remoteConfiguration (.ok configuration)) :
      Metered s m (m.metrics.record entry.artifact configuration.version)
  | looked {file version : String} (hanswer : (m.answer s).isServed = false) :
      Metered s m (m.metrics.touch file version)
  | unchanged (hanswer : (m.answer s).isServed = false) : Metered s m m.metrics

/-- A request for a remote configuration is recorded if it is served, and leaves the counter alone
if it fails at any stage. -/
theorem metered_remoteConfiguration (s : Service) (x : Scene) (r : Request) (text : String) :
    Metered s ⟨x, .ask (.remoteConfiguration r text)⟩
      (s.remoteConfiguration x.store x.state r text).state.metrics := by
  have hanswer : answer s ⟨x, .ask (.remoteConfiguration r text)⟩ =
      .remoteConfiguration (s.remoteConfiguration x.store x.state r text).result := rfl
  cases hv : Version.parse text with
  | error fault =>
    rw [(Service.remoteConfiguration_of_badVersion hv).2]
    exact .unchanged (by rw [hanswer, (Service.remoteConfiguration_of_badVersion hv).1]; rfl)
  | ok v =>
    cases he : s.entryFor x.state.asked r v with
    | error e =>
      rw [(Service.remoteConfiguration_of_noEntry hv he).2]
      exact .unchanged (by rw [hanswer, (Service.remoteConfiguration_of_noEntry hv he).1]; rfl)
    | ok entry =>
      rw [(Service.remoteConfiguration_of_entry hv he).2]
      cases hresult : (s.remoteConfiguration x.store x.state r text).result with
      | error e => exact .unchanged (by rw [hanswer, hresult]; rfl)
      | ok configuration =>
        have hentry : ResolvesTo s ⟨x, .ask (.remoteConfiguration r text)⟩
            (s.selector.select x.state.asked r).cohort entry := ⟨r, text, v, rfl, hv, rfl, he⟩
        exact .served hentry (by rw [hanswer, hresult])

theorem metered (s : Service) (m : Moment) : m.Metered s (m.metricsAfter s) := by
  obtain ⟨x, h⟩ := m
  cases h with
  | count file version => exact .looked rfl
  | change store => exact .unchanged rfl
  | ask q =>
    cases q with
    | artifact cohort text => exact .unchanged rfl
    | remoteConfiguration r text => exact metered_remoteConfiguration s x r text
    | rules r =>
      show Metered s _ (s.rules x.store x.state r).state.metrics
      rw [Service.rules_state]
      exact .unchanged rfl

/-! ## The total -/

/-- What all series show together grows by one if the moment is served, and not at all if not. -/
theorem total_metricsAfter (h : m.metrics.total < 2 ^ 53) :
    (m.metricsAfter s).total = m.metrics.total + (m.answer s).isServed.toNat := by
  have hmetered := m.metered s
  generalize m.metricsAfter s = after at hmetered ⊢
  cases hmetered with
  | served hentry hanswer =>
    rw [Metrics.total_record _ _ (by omega), hanswer]
    rfl
  | looked hanswer =>
    rw [Metrics.total_touch, hanswer]
    rfl
  | unchanged hanswer =>
    rw [hanswer]
    rfl

end Moment

namespace Service

variable {s : Service} {x : Scene} {hs : List Happening}

/-- How many remote configurations were served. -/
def servings (s : Service) (ms : List Moment) : Nat := ms.countP fun m => (m.answer s).isServed

theorem servings_cons (s : Service) (m : Moment) (ms : List Moment) :
    s.servings (m :: ms) = (m.answer s).isServed.toNat + s.servings ms := by
  rw [servings, List.countP_cons, Nat.add_comm]
  cases (m.answer s).isServed <;> rfl

theorem servings_history_le (s : Service) (x : Scene) (hs : List Happening) :
    s.servings (s.history x hs) ≤ hs.length := by
  induction hs generalizing x with
  | nil => exact Nat.le_refl 0
  | cons a as ih =>
    have hone := Bool.toNat_le (Moment.answer s ⟨x, a⟩).isServed
    have hrest := ih (s.happen x a).2
    rw [history, servings_cons, List.length_cons]
    omega

/-- One step of a run that is too short to fill the counter: it counts what was served, and what is
left of the run is too short as well. -/
theorem total_happen {a : Happening} {as : List Happening}
    (h : x.state.metrics.total + (a :: as).length < 2 ^ 53) :
    (s.happen x a).2.state.metrics.total =
        x.state.metrics.total + (Moment.answer s ⟨x, a⟩).isServed.toNat ∧
      (s.happen x a).2.state.metrics.total + as.length < 2 ^ 53 := by
  rw [List.length_cons] at h
  have hbound : x.state.metrics.total < 2 ^ 53 := by omega
  have htotal : (s.happen x a).2.state.metrics.total =
      x.state.metrics.total + (Moment.answer s ⟨x, a⟩).isServed.toNat :=
    Moment.total_metricsAfter (m := ⟨x, a⟩) hbound
  have hone := Bool.toNat_le (Moment.answer s ⟨x, a⟩).isServed
  exact ⟨htotal, by omega⟩

theorem total_outcome (h : x.state.metrics.total + hs.length < 2 ^ 53) :
    (s.outcome x hs).state.metrics.total =
      x.state.metrics.total + s.servings (s.history x hs) := by
  induction hs generalizing x with
  | nil => rfl
  | cons a as ih =>
    obtain ⟨hfirst, hbound⟩ := total_happen (s := s) h
    have hrest : (s.outcome x (a :: as)).state.metrics.total = _ := ih hbound
    rw [hrest, hfirst, history, servings_cons, Nat.add_assoc]

/-- The counter never comes near its width. -/
theorem total_lt_of_mem_history (h : x.state.metrics.total + hs.length < 2 ^ 53) :
    ∀ m ∈ s.history x hs, m.metrics.total < 2 ^ 53 := by
  induction hs generalizing x with
  | nil => exact fun m hm => absurd hm List.not_mem_nil
  | cons a as ih =>
    intro m hm
    rcases List.mem_cons.1 hm with rfl | hm
    · exact Nat.lt_of_le_of_lt (Nat.le_add_right ..) h
    · exact ih (total_happen h).2 m hm

/-! ## Conservation -/

/-- Over this run, every remote configuration that is served is counted once, and nothing else
is. -/
structure Conserved (s : Service) (x : Scene) (hs : List Happening) : Prop where
  /-- In the end, the samples exposed add up to the configurations served. -/
  total : (Metrics.samples? (s.outcome x hs).state.metrics.text).map List.sum =
    some (s.servings (s.history x hs))
  /-- Each of these is counted for the artifact of its entry and the version that the artifact
  states, in at most one new series. -/
  served : ∀ m ∈ s.history x hs, ∀ configuration,
    m.answer s = .remoteConfiguration (.ok configuration) →
      ∃ cohort entry, m.ResolvesTo s cohort entry ∧
        ((m.metricsAfter s).count entry.artifact configuration.version).toNat =
          (m.metrics.count entry.artifact configuration.version).toNat + 1 ∧
        (m.metricsAfter s).series.length ≤ m.metrics.series.length + 1
  /-- Whatever else happens leaves the series that there are as they are. -/
  unserved : ∀ m ∈ s.history x hs, (m.answer s).isServed = false →
    m.metrics.series <+: (m.metricsAfter s).series

/-- **Every served configuration is counted once**, over every run that starts with an empty
counter and is shorter than the largest number that a sample shows in full. -/
theorem counter_conserved (hempty : x.state.metrics = {}) (hlength : hs.length < 2 ^ 53) :
    s.Conserved x hs := by
  have hzero : x.state.metrics.total = 0 := by
    rw [hempty]
    rfl
  have hbound : x.state.metrics.total + hs.length < 2 ^ 53 := by
    rw [hzero, Nat.zero_add]
    exact hlength
  constructor
  case total =>
    have houtcome := total_outcome (s := s) hbound
    have hservings := s.servings_history_le x hs
    rw [Metrics.sum_samples?_text (by omega), houtcome, hzero, Nat.zero_add]
  case served =>
    intro m hm configuration hanswer
    have htotal := total_lt_of_mem_history hbound m hm
    have hmetered := m.metered s
    generalize m.metricsAfter s = after at hmetered ⊢
    cases hmetered with
    | @served cohort entry configuration' hentry hserved =>
      cases hanswer.symm.trans hserved
      exact ⟨cohort, entry, hentry, Metrics.toNat_count_record _ _ (by omega),
        Metrics.length_record_le ..⟩
    | looked hunserved => simp [hanswer, Answer.isServed] at hunserved
    | unchanged hunserved => simp [hanswer, Answer.isServed] at hunserved
  case unserved =>
    intro m hm hanswer
    have hmetered := m.metered s
    generalize m.metricsAfter s = after at hmetered ⊢
    cases hmetered with
    | served hentry hserved => simp [hserved, Answer.isServed] at hanswer
    | looked hunserved => exact Metrics.prefix_touch ..
    | unchanged hunserved => exact List.prefix_rfl

/-- A run in which one label pair is looked at before it is served twice, between a version below
every entry, rules that are missing, and a removal of all files. -/
def lookedAtFirst : List Happening :=
  [.count ".//old.json" "b",
    .ask (.remoteConfiguration ⟨some "cluster/c1"⟩ "1.5.0"),
    .ask (.remoteConfiguration ⟨none⟩ "0.9.0"),
    .change (MemoryStore.fileStore {}),
    .ask (.rules ⟨none⟩),
    .ask (.remoteConfiguration ⟨some "cluster/c1"⟩ "1.6.0"),
    .ask (.artifact .stable "2.0.0")]

theorem slashedFiles_conserved :
    ∃ s state, (Startup.start Startup.slashedSettings none Startup.slashedFiles.fileStore).result =
        .ok (s, state) ∧
      state.metrics = {} ∧ lookedAtFirst.length < 2 ^ 53 ∧
      s.Conserved ⟨Startup.slashedFiles.fileStore, state⟩ lookedAtFirst := by
  obtain ⟨s, state, h⟩ := Startup.start_slashedFiles
  have hempty := Startup.metrics_of_start h
  have hlength : lookedAtFirst.length < 2 ^ 53 := by decide
  exact ⟨s, state, h, hempty, hlength,
    counter_conserved (x := ⟨Startup.slashedFiles.fileStore, state⟩) hempty hlength⟩

end Service

end RemoteRollout
