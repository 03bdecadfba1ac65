import RemoteRollout.CommandLine.Outcome
import RemoteRollout.Proofs.Yaml.Records

/-!
# Shown settings

The settings that a command shows are printed in one format, and a configuration file is read in
another. What is shown can be read back nevertheless, as long as every character in the settings can be
read where it is printed.
-/

namespace RemoteRollout

open Json (Tree)
open Yaml (Legible LegibleKey Recovers isLegible recovers_bool recovers_string)

/-! ## Sections -/

theorem StorageSettings.recovers_text (s : StorageSettings) : Recovers readText s.tree s := by
  have hfills : textLayout.Fills textLayout.blank
      [("rules_path", .string s.rulesPath.text),
        ("remote_configuration_path", .string s.remoteConfigurationPath.text),
        ("cluster_mapping", .string s.clusterMapping)]
      ⟨some s.rulesPath, some s.remoteConfigurationPath, some s.clusterMapping⟩ := by
    refine .of rfl rfl ((recovers_string _ s.rulesPath.text).map Path.mk) ?_
    refine .of rfl rfl ((recovers_string _ s.remoteConfigurationPath.text).map Path.mk) ?_
    exact .of rfl rfl (recovers_string _ s.clusterMapping) (.done _)
  exact hfills.recovers.map Draft.complete

theorem CanarySettings.recovers_text (s : CanarySettings) : Recovers readText s.tree s := by
  have hfills : textLayout.Fills textLayout.blank
      [("enabled", .bool s.enabled), ("canary_clusters", .list (s.canaryClusters.map .string))]
      ⟨some s.enabled, some s.canaryClusters⟩ := by
    refine .of rfl rfl (recovers_bool s.enabled) ?_
    exact .of rfl rfl (Yaml.recovers_strings s.canaryClusters) (.done _)
  exact hfills.recovers.map Draft.complete

theorem LoggingSettings.recovers_text (s : LoggingSettings) : Recovers readText s.tree s := by
  have hfills : textLayout.Fills textLayout.blank
      [("level", .string s.level), ("json", .bool s.json)] ⟨some s.level, some s.json⟩ := by
    refine .of rfl rfl (recovers_string _ s.level) ?_
    exact .of rfl rfl (recovers_bool s.json) (.done _)
  exact hfills.recovers.map Draft.complete

namespace Settings

theorem recovers_text (s : Settings) : Recovers readText s.tree s := by
  have hfills : textLayout.Fills textLayout.blank
      [("storage", s.storage.tree), ("canary", s.canary.tree), ("logging", s.logging.tree)]
      ⟨some s.storage, some s.canary, some s.logging⟩ := by
    refine .of rfl rfl s.storage.recovers_text ?_
    refine .of rfl rfl s.canary.recovers_text ?_
    exact .of rfl rfl s.logging.recovers_text (.done _)
  exact hfills.recovers.map Draft.complete

/-- All texts that the settings hold. -/
def texts (s : Settings) : List String :=
  [s.storage.rulesPath.text, s.storage.remoteConfigurationPath.text, s.storage.clusterMapping,
    s.logging.level] ++ s.canary.canaryClusters

theorem legible_tree {s : Settings} (h : ∀ text ∈ s.texts, ∀ c ∈ text.toList, isLegible c = true) :
    Legible s.tree := by
  have hsections : LegibleKey "storage" ∧ LegibleKey "canary" ∧ LegibleKey "logging" := by decide
  have hstorage : LegibleKey "rules_path" ∧ LegibleKey "remote_configuration_path" ∧
      LegibleKey "cluster_mapping" := by decide
  have hothers : LegibleKey "enabled" ∧ LegibleKey "canary_clusters" ∧ LegibleKey "level" ∧
      LegibleKey "json" := by decide
  simp only [texts, List.forall_mem_append, List.forall_mem_cons] at h
  obtain ⟨⟨hrules, hremote, hmapping, hlevel, -⟩, hclusters⟩ := h
  simpa [tree, StorageSettings.tree, CanarySettings.tree, LoggingSettings.tree, hsections, hstorage,
    hothers] using ⟨⟨hrules, hremote, hmapping⟩, hclusters, hlevel⟩

/-- Settings that hold nothing but legible characters are read back from their printed tree. -/
theorem ofText_pretty {s : Settings} (h : ∀ text ∈ s.texts, ∀ c ∈ text.toList, isLegible c = true) :
    ofText (String.ofList (s.tree.pretty ++ ['\n'])) = .ok s := by
  have hdecode : Yaml.decode readText (String.ofList (s.tree.pretty ++ ['\n'])) = .ok s :=
    Yaml.decode_pretty (legible_tree h) s.recovers_text
  rw [ofText, hdecode]
  rfl

/-- **Shown settings are read back**, whatever `ASCII` text they hold, as long as there is no `DEL` in
it. -/
theorem shown_settings_read_back (s : Settings) (store : FileStore)
    (h : ∀ text ∈ s.texts, ∀ c ∈ text.toList, c.toNat < 0x7F) :
    ofText (String.ofList (Command.perform s store .showSettings).output) = .ok s :=
  ofText_pretty fun text htext c hc => Yaml.isLegible_of_lt (h text htext c hc)

/-- Settings whose texts look like numbers, truth values, comments, marks and brackets, or cannot be seen
at all. -/
def disguised : Settings where
  storage := ⟨⟨" \"a\" \\n "⟩, ⟨"--- # b: \n...\r\n"⟩, "true"⟩
  canary := ⟨true, ["", "12", "null", "- c, [&d *e]", "\x00\t\x1f \x0c\x08", "?", "12"]⟩
  logging := ⟨"%!|>\x27~\x60@", false⟩

theorem shown_settings_read_back_disguised :
    (∀ text ∈ disguised.texts, ∀ c ∈ text.toList, c.toNat < 0x7F) ∧
      ofText (String.ofList
        (Command.perform disguised (MemoryStore.fileStore {}) .showSettings).output) = .ok disguised := by
  have hall : disguised.texts.all (fun text => text.toList.all fun c => c.toNat < 0x7F) = true := by
    decide
  have hascii : ∀ text ∈ disguised.texts, ∀ c ∈ text.toList, c.toNat < 0x7F := by
    simpa only [List.all_eq_true, decide_eq_true_eq] using hall
  exact ⟨hascii, shown_settings_read_back disguised _ hascii⟩

end Settings

end RemoteRollout
