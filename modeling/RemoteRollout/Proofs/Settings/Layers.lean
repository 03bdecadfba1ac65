import RemoteRollout.Settings

/-!
# Layers of variables

Every setting has one variable of its own, which is all that it takes from the environment
(`Setting.value_withVariables`), and there is no more to the settings than the values of each of them
(`eq_of_values`). So environments can be laid over one another: it does not matter whether they are
applied one after the other, or at once with the upper one looked at first.
-/

namespace RemoteRollout.Settings

/-- A single setting. -/
inductive Setting where
  | rulesPath
  | remoteConfigurationPath
  | clusterMapping
  | canaryEnabled
  | canaryClusters
  | logLevel
  | jsonLogs
deriving DecidableEq, Repr

namespace Setting

/-- The variable that overrides the setting. -/
def variableName : Setting → String
  | rulesPath => "GATHERING_CONDITIONS_RULES_PATH"
  | remoteConfigurationPath => "GATHERING_CONDITIONS_REMOTE_CONFIGURATION_PATH"
  | clusterMapping => "GATHERING_CONDITIONS_CLUSTER_MAPPING"
  | canaryEnabled => "GATHERING_CONDITIONS_CANARY_ENABLED"
  | canaryClusters => "GATHERING_CONDITIONS_CANARY_CLUSTERS"
  | logLevel => "GATHERING_CONDITIONS_LOG_LEVEL"
  | jsonLogs => "GATHERING_CONDITIONS_LOG_JSON"

theorem variableName_inj {x y : Setting} (h : x.variableName = y.variableName) : x = y := by
  cases x
  all_goals cases y
  all_goals first
    | rfl
    | exact absurd h (by decide)

/-- What the values of the setting are. -/
abbrev Value : Setting → Type
  | rulesPath | remoteConfigurationPath => Path
  | clusterMapping | logLevel => String
  | canaryEnabled | jsonLogs => Bool
  | canaryClusters => List String

/-- The value of the setting. -/
def value : (x : Setting) → Settings → x.Value
  | rulesPath, s => s.storage.rulesPath
  | remoteConfigurationPath, s => s.storage.remoteConfigurationPath
  | clusterMapping, s => s.storage.clusterMapping
  | canaryEnabled, s => s.canary.enabled
  | canaryClusters, s => s.canary.canaryClusters
  | logLevel, s => s.logging.level
  | jsonLogs, s => s.logging.json

/-- The value that the text of the variable stands for. -/
def ofText : (x : Setting) → String → x.Value
  | rulesPath, text | remoteConfigurationPath, text => ⟨text⟩
  | clusterMapping, text | logLevel, text => text
  | canaryEnabled, text | jsonLogs, text => switchValue text
  | canaryClusters, text => listItems text

/-- A setting is overridden by its own variable, and by no other. -/
theorem value_withVariables (x : Setting) (s : Settings) (lookup : String → Option String) :
    x.value (s.withVariables lookup) = ((lookup x.variableName).map x.ofText).getD (x.value s) := by
  cases x with
  | rulesPath | remoteConfigurationPath | canaryEnabled | canaryClusters | jsonLogs => rfl
  | clusterMapping | logLevel =>
    -- The text is taken as it is.
    exact (congrArg (Option.getD · _) (Option.map_id' (x := lookup _))).symm

end Setting

theorem eq_of_values {s t : Settings} (h : ∀ x : Setting, x.value s = x.value t) : s = t := by
  obtain ⟨⟨rulesPath, configurationPath, mapping⟩, ⟨enabled, clusters⟩, ⟨level, json⟩⟩ := s
  obtain ⟨⟨rulesPath', configurationPath', mapping'⟩, ⟨enabled', clusters'⟩, ⟨level', json'⟩⟩ := t
  have hrulesPath : rulesPath = rulesPath' := h .rulesPath
  have hconfigurationPath : configurationPath = configurationPath' := h .remoteConfigurationPath
  have hmapping : mapping = mapping' := h .clusterMapping
  have henabled : enabled = enabled' := h .canaryEnabled
  have hclusters : clusters = clusters' := h .canaryClusters
  have hlevel : level = level' := h .logLevel
  have hjson : json = json' := h .jsonLogs
  subst hrulesPath hconfigurationPath hmapping henabled hclusters hlevel hjson
  rfl

variable {s : Settings} {lower upper : String → Option String}

/-- Environments that agree on the variables of all settings are the same to them. -/
theorem withVariables_congr
    (h : ∀ x : Setting, upper x.variableName = lower x.variableName) :
    s.withVariables upper = s.withVariables lower :=
  eq_of_values fun x => by rw [x.value_withVariables, x.value_withVariables, h x]

theorem withVariables_withVariables (s : Settings) (lower upper : String → Option String) :
    (s.withVariables lower).withVariables upper =
      s.withVariables fun name => (upper name).or (lower name) := by
  refine eq_of_values fun x => ?_
  rw [x.value_withVariables, x.value_withVariables, x.value_withVariables]
  cases upper x.variableName with
  | none => rfl
  | some text => rfl

/-- **Environments are layers**: applied one after the other they are one environment, in which the
upper one goes before the lower one. So to apply one twice is to apply it once; a setting whose variable
is set takes the value of the last layer that sets it, and nothing of those below; and a setting whose
variable is not set keeps its value, whatever other variables there are. -/
theorem layers_compose (s : Settings) (lower upper : String → Option String) :
    (s.withVariables lower).withVariables upper =
        s.withVariables (fun name => (upper name).or (lower name)) ∧
      (s.withVariables lower).withVariables lower = s.withVariables lower ∧
      (∀ (x : Setting) (text : String), upper x.variableName = some text →
        x.value ((s.withVariables lower).withVariables upper) = x.ofText text) ∧
      (∀ x : Setting, lower x.variableName = none →
        x.value (s.withVariables lower) = x.value s) ∧
      ((∀ x : Setting, upper x.variableName = lower x.variableName) →
        s.withVariables upper = s.withVariables lower) := by
  refine ⟨withVariables_withVariables s lower upper, ?idempotent, ?upperWins, ?kept,
    withVariables_congr⟩
  case idempotent =>
    rw [withVariables_withVariables]
    exact withVariables_congr fun x => Option.or_self
  case upperWins =>
    intro x text htext
    rw [x.value_withVariables, htext]
    rfl
  case kept =>
    intro x hnone
    rw [x.value_withVariables, hnone]
    rfl

/-- Settings with a list of clusters. -/
def listedSettings : Settings where
  canary := { enabled := true, canaryClusters := ["a"] }

/-- An environment with another list, and with a variable that is nobody's. -/
def fileVariables (name : String) : Option String :=
  [("GATHERING_CONDITIONS_CANARY_CLUSTERS", "b, c"), ("LOG_LEVEL", "debug")].lookup name

/-- The same list without the other variable. -/
def shellVariables (name : String) : Option String :=
  [("GATHERING_CONDITIONS_CANARY_CLUSTERS", "b, c")].lookup name

/-- The list of the upper layer replaces that of the lower one, the switch beside it is kept, and the
variable that is nobody's does not count. -/
theorem layers_compose_listedSettings :
    shellVariables Setting.canaryClusters.variableName = some "b, c" ∧
      Setting.canaryClusters.value
        ((listedSettings.withVariables fileVariables).withVariables shellVariables) = ["b", "c"] ∧
      fileVariables Setting.canaryEnabled.variableName = none ∧
      Setting.canaryEnabled.value (listedSettings.withVariables fileVariables) = true ∧
      (∀ x : Setting, shellVariables x.variableName = fileVariables x.variableName) ∧
      listedSettings.withVariables shellVariables = listedSettings.withVariables fileVariables := by
  obtain ⟨-, -, hupper, hkept, hcongr⟩ :=
    layers_compose listedSettings fileVariables shellVariables
  have hset : shellVariables Setting.canaryClusters.variableName = some "b, c" := by decide
  have hunset : fileVariables Setting.canaryEnabled.variableName = none := by decide
  have hagree : ∀ x : Setting, shellVariables x.variableName = fileVariables x.variableName := by
    intro x
    cases x <;> decide
  have hitems : Setting.canaryClusters.ofText "b, c" = ["b", "c"] := by decide +kernel
  exact ⟨hset, (hupper _ _ hset).trans hitems, hunset, hkept _ hunset, hagree, hcongr hagree⟩

end RemoteRollout.Settings
