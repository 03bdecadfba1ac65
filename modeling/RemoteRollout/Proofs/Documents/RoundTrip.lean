import RemoteRollout.ErrorResponse
import RemoteRollout.Proofs.Json.Printing
import RemoteRollout.Proofs.Json.Records
import RemoteRollout.RemoteConfiguration
import RemoteRollout.Settings

/-!
# Texts that come back

Every record comes back from its texts, the one without white space and the one with a line for every
item and member. What a rule holds of its conditions and gathering functions may be any value at all
whose numbers are whole and fit 64 bits, as long as the text does not nest deeper than readers go.
-/

namespace RemoteRollout

open Json (Tree Reader Recovers maxDepth recovers_list recovers_string recovers_bool recovers_tree)
open Text.Utf8 (encode)

/-! ## Lists -/

theorem recovers_strings {depth : Nat} (ss : List String) :
    Recovers (Json.readList Json.readString) (depth + 1) (.list (ss.map .string)) ss := by
  refine recovers_list ?_
  rw [List.forall₂_map_left_iff, List.forall₂_same]
  exact fun s _ => recovers_string _ s

theorem recovers_trees {depth : Nat} {ts : List Tree} (h : ∀ t ∈ ts, t.Canonical)
    (hnest : (Tree.list ts).NestsWithin depth) :
    Recovers (Json.readList Json.readTree) depth (.list ts) ts := by
  cases hnest with
  | list hnest =>
    refine recovers_list (List.forall₂_same.2 fun t ht => ?_)
    have hrecovers := recovers_tree (hnest t ht)
    rwa [(h t ht).canonical_eq] at hrecovers

/-! ## Rules -/

/-- The opaque values of the rule are canonical, as all that are read, and their numbers are whole and
fit 64 bits. -/
structure Rule.Plain (r : Rule) : Prop where
  conditions : ∀ t ∈ r.conditions, t.Canonical ∧ t.NumbersFit
  gatheringFunctions : r.gatheringFunctions.Canonical ∧ r.gatheringFunctions.NumbersFit

namespace Rule

variable {r : Rule} {depth : Nat}

/-- The members of a rule, of which there is none for what is empty. -/
def members (r : Rule) : Json.Members :=
  (if r.conditions.isEmpty then [] else [("conditions", .list r.conditions)]) ++
    (if r.gatheringFunctions = .null then [] else [("gathering_functions", r.gatheringFunctions)])

theorem tree_eq (r : Rule) : r.tree = .object r.members := rfl

theorem forall_members_iff {p : Tree → Prop} :
    (∀ m ∈ r.members, p m.2) ↔
      (r.conditions ≠ [] → p (.list r.conditions)) ∧
        (r.gatheringFunctions ≠ .null → p r.gatheringFunctions) := by
  by_cases hconditions : r.conditions = []
  all_goals by_cases hfunctions : r.gatheringFunctions = .null
  all_goals simp [members, hconditions, hfunctions]

theorem numbersFit_tree (h : r.Plain) : r.tree.NumbersFit := by
  rw [tree_eq, Tree.numbersFit_object_iff, forall_members_iff]
  exact ⟨fun _ => .list fun t ht => (h.conditions t ht).2, fun _ => h.gatheringFunctions.2⟩

theorem recovers (h : r.Plain) (hnest : r.tree.NestsWithin depth) :
    Recovers read depth r.tree r := by
  rw [tree_eq] at hnest ⊢
  cases hnest with
  | @object depth _ hnest =>
    rw [forall_members_iff] at hnest
    have hconditions := fun hne =>
      recovers_trees (fun t ht => (h.conditions t ht).1) (hnest.1 hne)
    have hfunctions : r.gatheringFunctions ≠ .null →
        Recovers Json.readTree depth r.gatheringFunctions r.gatheringFunctions := by
      intro hne
      have hrecovers := recovers_tree (hnest.2 hne)
      rwa [h.gatheringFunctions.1.canonical_eq] at hrecovers
    have hdone : ∀ draft : Draft, layout.Fills depth draft [] draft := fun draft =>
      .done (by simp [layout, Json.Field.of])
    -- A member that is left out leaves the default of its field, which is what was empty.
    obtain ⟨conditions, functions⟩ := r
    cases conditions with
    | nil =>
      by_cases hnull : functions = .null
      · subst hnull
        exact (hdone {}).recovers.map Draft.complete
      · simp only [members, if_neg hnull]
        have hfills : layout.Fills depth layout.blank [("gathering_functions", functions)]
            ⟨none, some functions⟩ := .of rfl rfl (hfunctions hnull) (hdone _)
        exact hfills.recovers.map Draft.complete
    | cons t ts =>
      by_cases hnull : functions = .null
      · subst hnull
        have hfills : layout.Fills depth layout.blank [("conditions", .list (t :: ts))]
            ⟨some (t :: ts), none⟩ := .of rfl rfl (hconditions (by simp)) (hdone _)
        exact hfills.recovers.map Draft.complete
      · simp only [members, if_neg hnull]
        have hfills : layout.Fills depth layout.blank
            [("conditions", .list (t :: ts)), ("gathering_functions", functions)]
            ⟨some (t :: ts), some functions⟩ :=
          .of rfl rfl (hconditions (by simp)) (.of rfl rfl (hfunctions hnull) (hdone _))
        exact hfills.recovers.map Draft.complete

end Rule

theorem recovers_rules {depth : Nat} {rs : List Rule} (h : ∀ r ∈ rs, r.Plain)
    (hnest : (Tree.list (rs.map Rule.tree)).NestsWithin depth) :
    Recovers (Json.readList Rule.read) depth (.list (rs.map Rule.tree)) rs := by
  cases hnest with
  | list hnest =>
    refine recovers_list ?_
    rw [List.forall₂_map_left_iff, List.forall₂_same]
    exact fun r hr => Rule.recovers (h r hr) (hnest r.tree (List.mem_map_of_mem hr))

theorem numbersFit_rules {rs : List Rule} (h : ∀ r ∈ rs, r.Plain) :
    (Tree.list (rs.map Rule.tree)).NumbersFit := by
  simpa using fun r hr => Rule.numbersFit_tree (h r hr)

namespace Rules

theorem recovers {r : Rules} {depth : Nat} (h : ∀ rule ∈ r.rules, rule.Plain)
    (hnest : r.tree.NestsWithin depth) : Recovers read depth r.tree r := by
  unfold tree at hnest ⊢
  cases hnest with
  | @object depth _ hnest =>
    have hrules := recovers_rules h (hnest ("rules", .list (r.rules.map Rule.tree)) (by simp))
    have hfills : layout.Fills depth layout.blank
        [("version", .string r.version), ("rules", .list (r.rules.map Rule.tree))]
        ⟨some r.version, some r.rules⟩ := by
      refine .of rfl rfl (recovers_string _ r.version) ?_
      refine .of rfl rfl hrules ?_
      exact .done (by simp [layout, Json.Field.of])
    exact hfills.recovers.map Draft.complete

theorem nestsWithin_tree_iff {r : Rules} {depth : Nat} :
    r.tree.NestsWithin (depth + 2) ↔ ∀ rule ∈ r.rules, rule.tree.NestsWithin depth := by
  simp [tree]

theorem numbersFit_tree {r : Rules} (h : ∀ rule ∈ r.rules, rule.Plain) : r.tree.NumbersFit := by
  have hrules := numbersFit_rules h
  simpa [tree] using hrules

end Rules

/-! ## Remote configurations -/

namespace ContainerLogRequest

theorem recovers (r : ContainerLogRequest) (depth : Nat) :
    Recovers read (depth + 2) r.tree r := by
  have hfills : layout.Fills (depth + 1) layout.blank
      [("namespace", .string r.nameSpace), ("pod_name_regex", .string r.podNameRegex),
        ("previous", .bool r.previous), ("messages", .list (r.messages.map .string))]
      ⟨some r.nameSpace, some r.podNameRegex, some r.previous, some r.messages⟩ := by
    refine .of rfl rfl (recovers_string _ r.nameSpace) ?_
    refine .of rfl rfl (recovers_string _ r.podNameRegex) ?_
    refine .of rfl rfl (recovers_bool r.previous) ?_
    refine .of rfl rfl (recovers_strings r.messages) ?_
    exact .done (by simp [layout, Json.Field.of])
  exact hfills.recovers.map Draft.complete

theorem numbersFit_tree (r : ContainerLogRequest) : r.tree.NumbersFit := by simp [tree]

end ContainerLogRequest

namespace RemoteConfiguration

theorem recovers {r : RemoteConfiguration} {depth : Nat}
    (h : ∀ rule ∈ r.conditionalRules, rule.Plain) (hnest : r.tree.NestsWithin (depth + 4)) :
    Recovers read (depth + 4) r.tree r := by
  unfold tree at hnest ⊢
  rw [Tree.nestsWithin_object_iff] at hnest
  have hrules := recovers_rules h
    (hnest ("conditional_gathering_rules", .list (r.conditionalRules.map Rule.tree)) (by simp))
  have hlogs : Recovers (Json.readList ContainerLogRequest.read) (depth + 3)
      (.list (r.containerLogs.map ContainerLogRequest.tree)) r.containerLogs := by
    refine recovers_list ?_
    rw [List.forall₂_map_left_iff, List.forall₂_same]
    exact fun log _ => log.recovers depth
  have hfills : layout.Fills (depth + 3) layout.blank
      [("version", .string r.version),
        ("conditional_gathering_rules", .list (r.conditionalRules.map Rule.tree)),
        ("container_logs", .list (r.containerLogs.map ContainerLogRequest.tree))]
      ⟨some r.version, some r.conditionalRules, some r.containerLogs⟩ := by
    refine .of rfl rfl (recovers_string _ r.version) ?_
    refine .of rfl rfl hrules ?_
    refine .of rfl rfl hlogs ?_
    exact .done (by simp [layout, Json.Field.of])
  exact hfills.recovers.map Draft.complete

theorem nestsWithin_tree_iff {r : RemoteConfiguration} {depth : Nat} :
    r.tree.NestsWithin (depth + 4) ↔
      ∀ rule ∈ r.conditionalRules, rule.tree.NestsWithin (depth + 2) := by
  simp [tree, ContainerLogRequest.tree]

theorem numbersFit_tree {r : RemoteConfiguration} (h : ∀ rule ∈ r.conditionalRules, rule.Plain) :
    r.tree.NumbersFit := by
  have hrules := numbersFit_rules h
  simpa [tree, ContainerLogRequest.numbersFit_tree] using hrules

end RemoteConfiguration

/-! ## Error responses and settings -/

theorem ErrorResponse.recovers (r : ErrorResponse) (depth : Nat) :
    Recovers read (depth + 1) r.tree r := by
  have hfills : layout.Fills depth layout.blank [("error", .string r.error)] ⟨some r.error⟩ :=
    .of rfl rfl (recovers_string _ r.error) (.done (by simp [layout, Json.Field.of]))
  exact hfills.recovers.map fun d : Draft => (⟨d.error.getD ""⟩ : ErrorResponse)

theorem StorageSettings.recovers (s : StorageSettings) (depth : Nat) :
    Recovers read (depth + 1) s.tree s := by
  have hfills : layout.Fills depth layout.blank
      [("rules_path", .string s.rulesPath.text),
        ("remote_configuration_path", .string s.remoteConfigurationPath.text),
        ("cluster_mapping", .string s.clusterMapping)]
      ⟨some s.rulesPath, some s.remoteConfigurationPath, some s.clusterMapping⟩ := by
    refine .of rfl rfl ((recovers_string _ s.rulesPath.text).map Path.mk) ?_
    refine .of rfl rfl ((recovers_string _ s.remoteConfigurationPath.text).map Path.mk) ?_
    refine .of rfl rfl (recovers_string _ s.clusterMapping) ?_
    exact .done (by simp [layout, Json.Field.of])
  exact hfills.recovers.map Draft.complete

theorem CanarySettings.recovers (s : CanarySettings) (depth : Nat) :
    Recovers read (depth + 2) s.tree s := by
  have hfills : layout.Fills (depth + 1) layout.blank
      [("enabled", .bool s.enabled), ("canary_clusters", .list (s.canaryClusters.map .string))]
      ⟨some s.enabled, some s.canaryClusters⟩ := by
    refine .of rfl rfl (recovers_bool s.enabled) ?_
    refine .of rfl rfl (recovers_strings s.canaryClusters) ?_
    exact .done (by simp [layout, Json.Field.of])
  exact hfills.recovers.map Draft.complete

theorem LoggingSettings.recovers (s : LoggingSettings) (depth : Nat) :
    Recovers read (depth + 1) s.tree s := by
  have hfills : layout.Fills depth layout.blank
      [("level", .string s.level), ("json", .bool s.json)] ⟨some s.level, some s.json⟩ := by
    refine .of rfl rfl (recovers_string _ s.level) ?_
    refine .of rfl rfl (recovers_bool s.json) ?_
    exact .done (by simp [layout, Json.Field.of])
  exact hfills.recovers.map Draft.complete

theorem Settings.recovers (s : Settings) (depth : Nat) : Recovers read (depth + 3) s.tree s := by
  have hfills : layout.Fills (depth + 2) layout.blank
      [("storage", s.storage.tree), ("canary", s.canary.tree), ("logging", s.logging.tree)]
      ⟨some s.storage, some s.canary, some s.logging⟩ := by
    refine .of rfl rfl (s.storage.recovers (depth + 1)) ?_
    refine .of rfl rfl (s.canary.recovers depth) ?_
    refine .of rfl rfl (s.logging.recovers (depth + 1)) ?_
    exact .done (by simp [layout, Json.Field.of])
  exact hfills.recovers.map Draft.complete

/-! ## Texts -/

/-- The value comes back from both texts of its tree. -/
def ComesBack {α : Type} (read : Reader α) (t : Tree) (x : α) : Prop :=
  Json.decode read (encode t.compact) = .ok x ∧ Json.decode read (encode t.pretty) = .ok x

theorem ComesBack.of_recovers {α : Type} {read : Reader α} {t : Tree} {x : α}
    (h : Recovers read maxDepth t x) (hfit : t.NumbersFit) : ComesBack read t x := by
  have hdocument : ∀ {cs}, t.source.Document cs → Json.decode read (encode cs) = .ok x :=
    fun hcs => (Json.decode_eq_ok_iff hcs).2 (h _ (Json.scan_document hcs).1)
  exact ⟨hdocument (Json.document_compact hfit), hdocument (Json.document_pretty hfit)⟩

/-- **Records come back from their texts**: whatever strings they hold, and whatever the opaque values
of their rules are, as long as the text nests no deeper than 127 levels. -/
theorem records_come_back :
    (∀ r : Rules, (∀ rule ∈ r.rules, rule.Plain) → r.tree.NestsWithin 127 →
        ComesBack Rules.read r.tree r) ∧
      (∀ r : Rule, r.Plain → r.tree.NestsWithin 127 → ComesBack Rule.read r.tree r) ∧
      (∀ r : ContainerLogRequest, ComesBack ContainerLogRequest.read r.tree r) ∧
      (∀ r : RemoteConfiguration, (∀ rule ∈ r.conditionalRules, rule.Plain) →
        r.tree.NestsWithin 127 → ComesBack RemoteConfiguration.read r.tree r) ∧
      (∀ r : ErrorResponse, ComesBack ErrorResponse.read r.tree r) ∧
      ∀ s : Settings, ComesBack Settings.read s.tree s := by
  refine ⟨?rules, ?rule, ?log, ?configuration, ?response, ?settings⟩
  case rules =>
    intro r h hnest
    exact .of_recovers (Rules.recovers h hnest) (Rules.numbersFit_tree h)
  case rule =>
    intro r h hnest
    exact .of_recovers (Rule.recovers h hnest) (Rule.numbersFit_tree h)
  case log =>
    intro r
    exact .of_recovers (r.recovers _) r.numbersFit_tree
  case configuration =>
    intro r h hnest
    exact .of_recovers (RemoteConfiguration.recovers h hnest) (RemoteConfiguration.numbersFit_tree h)
  case response =>
    intro r
    exact .of_recovers (r.recovers _) (by simp [ErrorResponse.tree])
  case settings =>
    intro s
    refine .of_recovers (s.recovers _) ?_
    simp [Settings.tree, StorageSettings.tree, CanarySettings.tree, LoggingSettings.tree]

/-- A rule whose opaque values lie in each other, with the least and the greatest of the numbers. -/
def nestedRule : Rule where
  conditions := [.object [("alert", .object [("name", .string "é\n")]), ("type", .string "\"")]]
  gatheringFunctions :=
    .object [("", .list [
      .number (.whole (-0x8000000000000000)), .number (.whole 0xFFFFFFFFFFFFFFFF), .null])]

theorem nestedRule_plain : nestedRule.Plain := by
  have hkeys : Json.Members.Ascending
      [("alert", .object [("name", .string "é\n")]), ("type", .string "\"")] := by decide
  have hsingle : ∀ m, Json.Members.Ascending [m] := fun m => List.pairwise_singleton _ m
  constructor
  case conditions => simp [nestedRule, hkeys, hsingle]
  case gatheringFunctions => simp [nestedRule, hsingle]

/-- Rules of which one is empty. -/
def nestedRules : Rules := ⟨"", [{}, nestedRule]⟩

/-- A configuration with these rules. -/
def nestedConfiguration : RemoteConfiguration :=
  ⟨"1.1.0", nestedRules.rules, [⟨"ns", ".*", true, ["\t"]⟩]⟩

theorem nested_come_back :
    (nestedRule.Plain ∧ nestedRule.tree.NestsWithin 127) ∧
      ((∀ rule ∈ nestedRules.rules, rule.Plain) ∧ nestedRules.tree.NestsWithin 127) ∧
      nestedConfiguration.tree.NestsWithin 127 ∧
      ComesBack Rule.read nestedRule.tree nestedRule ∧
      ComesBack Rules.read nestedRules.tree nestedRules ∧
      ComesBack RemoteConfiguration.read nestedConfiguration.tree nestedConfiguration := by
  have hplain : ∀ rule ∈ nestedRules.rules, rule.Plain := by
    have hempty : Rule.Plain {} := ⟨by simp, by simp⟩
    simpa [nestedRules] using ⟨hempty, nestedRule_plain⟩
  have hrule : ∀ depth, nestedRule.tree.NestsWithin (depth + 4) := by
    intro depth
    rw [Rule.tree_eq, Tree.nestsWithin_object_iff, Rule.forall_members_iff]
    simp [nestedRule]
  have hrules : ∀ rule ∈ nestedRules.rules, rule.tree.NestsWithin 125 := by
    have hempty : (Rule.tree {}).NestsWithin 125 := .object (by simp)
    simpa [nestedRules] using ⟨hempty, hrule 121⟩
  have hnest : nestedRules.tree.NestsWithin 127 := Rules.nestsWithin_tree_iff.2 hrules
  have hnest' : nestedConfiguration.tree.NestsWithin 127 :=
    RemoteConfiguration.nestsWithin_tree_iff.2 hrules
  obtain ⟨rules, rule, -, configuration, -⟩ := records_come_back
  exact ⟨⟨nestedRule_plain, hrule 123⟩, ⟨hplain, hnest⟩, hnest',
    rule nestedRule nestedRule_plain (hrule 123), rules nestedRules hplain hnest,
    configuration nestedConfiguration hplain hnest'⟩

end RemoteRollout
