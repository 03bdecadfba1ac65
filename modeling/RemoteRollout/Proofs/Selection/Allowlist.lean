import RemoteRollout.Proofs.Selection.ClusterId
import RemoteRollout.Proofs.Settings.ListItems
import RemoteRollout.Proofs.Startup.Validation

/-!
# The list of canary clusters

From the text of a variable to the cohort of a request: a service that is started without an evaluator
of its own asks the listed clusters (`Startup.cohort_eq_canary_iff`). A variable that lists words is
read as these words, and a word behind the first mark of a user agent is its id, so that the clusters
listed are exactly those that are served from the canary tree.
-/

namespace RemoteRollout

namespace Settings

/-- The name of the variable with the canary clusters. -/
def clustersVariable : String := variablePrefix ++ "CANARY_CLUSTERS"

variable {s : Settings} {lookup : String → Option String}

theorem canaryClusters_of_given {text : String} (h : lookup clustersVariable = some text) :
    (s.withVariables lookup).canary.canaryClusters = listItems text := by
  rw [clustersVariable] at h
  simp only [withVariables, h, Option.map_some, Option.getD_some]

theorem canaryClusters_of_none (h : lookup clustersVariable = none) :
    (s.withVariables lookup).canary.canaryClusters = s.canary.canaryClusters := by
  rw [clustersVariable] at h
  simp only [withVariables, h, Option.map_none, Option.getD_none]

end Settings

/-- A word between commas can be the id in a user agent. -/
theorem Text.Word.not_endsId {id : String} (h : Text.Word id) :
    ∀ c ∈ id.toList, ¬ (c = ' ' ∨ c = ',') := by
  rintro c hc (rfl | rfl)
  · exact absurd (h.solid ' ' hc).2 (by decide)
  · exact (h.solid ',' hc).1 rfl

/-- The evaluator of a fixed list puts the listed clusters into the canary cohort, but for the empty
id. -/
theorem Selector.cohort_ofList_eq_canary_iff {enabled : Bool} {ids asked : List String} {r : Request} :
    (Selector.select ⟨enabled, some (.ofList ids)⟩ asked r).cohort = .canary ↔
      enabled = true ∧ r.clusterId ≠ "" ∧ r.clusterId ∈ ids := by
  cases enabled with
  | false => simp [select]
  | true =>
    by_cases hid : r.clusterId = ""
    · simp [select, hid]
    · by_cases hmem : r.clusterId ∈ ids
      · simp [select, hid, hmem, Evaluator.ofList, ofAnswer]
      · simp [select, hid, hmem, Evaluator.ofList, ofAnswer]

/-- Without anyone to ask all requests are served from the stable cohort. -/
theorem Selector.cohort_of_none {enabled : Bool} {asked : List String} {r : Request} :
    (Selector.select ⟨enabled, none⟩ asked r).cohort = .stable := by
  cases enabled <;> rfl

namespace Startup

/-- Without an evaluator of its own a service asks the list of its settings. -/
theorem cohort_eq_canary_iff {s : Settings} {asked : List String} {r : Request} :
    ((selector s none).select asked r).cohort = .canary ↔
      s.canary.enabled = true ∧ r.clusterId ≠ "" ∧ r.clusterId ∈ s.canary.canaryClusters := by
  unfold selector evaluator
  cases hids : s.canary.canaryClusters with
  | nil =>
    have hnone : ((none : Option Evaluator).or
        (if ([] : List String).isEmpty then none else some (.ofList []))) = none := rfl
    rw [hnone, Selector.cohort_of_none]
    simp
  | cons id ids => exact Selector.cohort_ofList_eq_canary_iff

variable {s : Settings} {lookup : String → Option String} {store : FileStore} {service : Service}
  {state : ServiceState} {asked : List String}

/-- The clusters that a variable lists are the canary clusters. -/
theorem cohort_of_listed {text : String} {ids : List String}
    (htext : lookup Settings.clustersVariable = some text) (hlists : Settings.Lists text ids)
    (hwords : ∀ id ∈ ids, Text.Word id) (henabled : (s.withVariables lookup).canary.enabled = true)
    (hstart : (start (s.withVariables lookup) none store).result = .ok (service, state))
    {front id rest : String} (hfront : ¬ "cluster/".toList <:+: front.toList) (hid : Text.Word id)
    (hrest : EndsId rest) :
    (service.selector.select asked ⟨some (front ++ "cluster/" ++ id ++ rest)⟩).cohort = .canary ↔
      id ∈ ids := by
  have hclusterId : (Request.mk (some (front ++ "cluster/" ++ id ++ rest))).clusterId = id :=
    clusterId_append hfront hid.not_endsId hrest
  rw [(parts_of_start hstart).2.1, cohort_eq_canary_iff, Settings.canaryClusters_of_given htext,
    Settings.listItems_of_lists hlists fun id hid => (hwords id hid).item, hclusterId]
  constructor
  · exact fun h => h.2.2
  · exact fun h => ⟨henabled, hid.nonempty, h⟩

/-- Without the variable the canary clusters are those of the settings. -/
theorem cohort_of_unlisted (hnone : lookup Settings.clustersVariable = none)
    (hstart : (start (s.withVariables lookup) none store).result = .ok (service, state))
    {r : Request} :
    (service.selector.select asked r).cohort = .canary ↔
      (s.withVariables lookup).canary.enabled = true ∧ r.clusterId ≠ "" ∧
        r.clusterId ∈ s.canary.canaryClusters := by
  rw [(parts_of_start hstart).2.1, cohort_eq_canary_iff, Settings.canaryClusters_of_none hnone]

/-- **The canary clusters are those that are listed.** If the rollout is on and a variable lists some
words, a service that starts without an evaluator of its own serves a request from the canary cohort
exactly if the word behind the first mark of its user agent is one of them. Without the variable it
asks the list of the settings, and with an evaluator of its own no list bears on it at all. -/
theorem canary_clusters_are_listed :
    (∀ (s : Settings) (lookup : String → Option String) (text : String) (ids : List String)
      (store : FileStore) (service : Service) (state : ServiceState),
      lookup Settings.clustersVariable = some text → Settings.Lists text ids →
      (∀ id ∈ ids, Text.Word id) → (s.withVariables lookup).canary.enabled = true →
      (start (s.withVariables lookup) none store).result = .ok (service, state) →
      ∀ (asked : List String) (front id rest : String),
        ¬ "cluster/".toList <:+: front.toList → Text.Word id → EndsId rest →
        ((service.selector.select asked ⟨some (front ++ "cluster/" ++ id ++ rest)⟩).cohort =
          .canary ↔ id ∈ ids)) ∧
    (∀ (s : Settings) (lookup : String → Option String) (store : FileStore) (service : Service)
      (state : ServiceState),
      lookup Settings.clustersVariable = none →
      (start (s.withVariables lookup) none store).result = .ok (service, state) →
      ∀ (asked : List String) (r : Request),
        (service.selector.select asked r).cohort = .canary ↔
          (s.withVariables lookup).canary.enabled = true ∧ r.clusterId ≠ "" ∧
            r.clusterId ∈ s.canary.canaryClusters) ∧
    ∀ (s : Settings) (ids : List String) (given : Evaluator) (store : FileStore),
      start { s with canary := { s.canary with canaryClusters := ids } } (some given) store =
        start s (some given) store := by
  refine ⟨?listed, ?unlisted, ?given⟩
  case listed =>
    intro s lookup text ids store service state htext hlists hwords henabled hstart
      asked front id rest hfront hid hrest
    exact cohort_of_listed htext hlists hwords henabled hstart hfront hid hrest
  case unlisted =>
    intro s lookup store service state hnone hstart asked r
    exact cohort_of_unlisted hnone hstart
  case given =>
    intro s ids given store
    rfl

/-- Variables that list two clusters, with white space and pieces without a cluster. -/
def listedVariables (name : String) : Option String :=
  if name = Settings.clustersVariable then some " c1 ,, \tc-2,  " else none

theorem lists_listedVariables : Settings.Lists " c1 ,, \tc-2,  " ["c1", "c-2"] := by
  refine ⟨[[' '] ++ "c1".toList ++ [' '], [], [' ', '\t'] ++ "c-2".toList ++ [], [' ', ' ']], ?_,
    by decide⟩
  refine .item (by decide) (by decide) ?_
  refine .blank (by decide) ?_
  refine .item (by decide) (by decide) ?_
  exact .blank (by decide) .nil

theorem word_of_listed : ∀ id ∈ ["c1", "c-2"], Text.Word id := by
  decide

/-- Variables do not keep the service with the files under other spellings from starting, as long as
they leave the paths alone. -/
theorem start_slashedFiles_withVariables (lookup : String → Option String)
    (h : (slashedSettings.withVariables lookup).storage = slashedSettings.storage) :
    ∃ service state, (start (slashedSettings.withVariables lookup) none
      slashedFiles.fileStore).result = .ok (service, state) := by
  -- Whether the maps load is up to the paths alone.
  have hcourse := start_course (slashedSettings.withVariables lookup) none slashedFiles.fileStore
  rw [h] at hcourse
  obtain ⟨s, state, hstart⟩ := start_slashedFiles
  have hloads := (start_course slashedSettings none slashedFiles.fileStore).exists_ok_iff.1
    ⟨(s, state), hstart⟩
  obtain ⟨⟨service, state⟩, hservice⟩ := hcourse.exists_ok_iff.2 hloads
  exact ⟨service, state, hservice⟩

/-- The second of the listed clusters is served from the canary cohort, and without the variable
another one that the settings list. -/
theorem slashedFiles_listed :
    (∃ service state, (start (slashedSettings.withVariables listedVariables) none
        slashedFiles.fileStore).result = .ok (service, state) ∧
      ((service.selector.select [] ⟨some ("operator/4.14 clusters/" ++ "cluster/" ++ "c-2" ++
        ", cluster/c3")⟩).cohort = .canary ↔ "c-2" ∈ ["c1", "c-2"])) ∧
    ∃ service state, (start (slashedSettings.withVariables fun _ => none) none
        slashedFiles.fileStore).result = .ok (service, state) ∧
      ((service.selector.select [] ⟨some "cluster/c1"⟩).cohort = .canary ↔
        (slashedSettings.withVariables fun _ => none).canary.enabled = true ∧
          (Request.mk (some "cluster/c1")).clusterId ≠ "" ∧
          (Request.mk (some "cluster/c1")).clusterId ∈ slashedSettings.canary.canaryClusters) := by
  constructor
  · obtain ⟨service, state, hstart⟩ := start_slashedFiles_withVariables listedVariables
      (by decide +kernel)
    exact ⟨service, state, hstart, canary_clusters_are_listed.1 _ _ _ _ _ _ _ (by decide +kernel)
      lists_listedVariables word_of_listed (by decide +kernel) hstart _ _ _ _ (by decide)
      (word_of_listed _ (by simp)) (by decide)⟩
  · obtain ⟨service, state, hstart⟩ := start_slashedFiles_withVariables (fun _ => none) rfl
    exact ⟨service, state, hstart, canary_clusters_are_listed.2.1 _ _ _ _ _ rfl hstart _ _⟩

end Startup

end RemoteRollout
