import RemoteRollout.Proofs.CommandLine.Preflight
import RemoteRollout.Proofs.Metrics.Recordings
import RemoteRollout.Proofs.Service.Isolation
import RemoteRollout.Proofs.Storage.Trees

/-!
# Replays

A replay asks for many remote configurations, one after the other, of one service. On a tree of files
no request of it bears on another (`Service.Settled.result_eq`): the files of both maps exist, so what
is read of them is always the same, and the selector chooses one cohort for the whole replay. So the
counter in the end holds what was served (`Service.Settled.metrics_replay`), and neither the requests
that fail nor the order of the others show in it.
-/

namespace RemoteRollout

open Metrics (recordingsOf recorded Apart sampleLine sampleLines)

/-- Both states show the same of each file. -/
def ServiceState.ShowSame (store : FileStore) (state state' : ServiceState) : Prop :=
  ∀ p, store.isFile p = true → (state.cache.get store p).1 = (state'.cache.get store p).1

theorem ServiceState.ShowSame.refl (store : FileStore) (state : ServiceState) :
    state.ShowSame store state := fun _ _ => rfl

namespace Service

/-! ## Requests -/

/-- Nothing that is asked can change what will be answered. -/
structure Settled (s : Service) (store : FileStore) : Prop where
  tree : store.IsTree
  existing : ∀ cohort, ∀ entry ∈ (s.clusterMap cohort).entries,
    store.isFile ((s.clusterMap cohort).artifactPath entry.artifact) = true
  steady : s.selector.Steady

/-- The labels under which a request for this version is counted: the artifact of its entry, and the
version that the artifact states. A request that fails has none. -/
def labels? (s : Service) (store : FileStore) (state : ServiceState) (r : Request) (text : String) :
    Option (String × String) :=
  match Version.parse text with
  | .error _ => none
  | .ok v =>
    match s.entryFor state.asked r v with
    | .error _ => none
    | .ok entry =>
      (s.remoteConfiguration store state r text).result.toOption.map fun configuration =>
        (entry.artifact, configuration.version)

/-- A request for this version succeeds. -/
def succeeds (s : Service) (store : FileStore) (state : ServiceState) (r : Request)
    (text : String) : Bool :=
  (s.remoteConfiguration store state r text).result.isOk

variable {s : Service} {store : FileStore} {start state : ServiceState} {r : Request} {text : String}

theorem labels?_of_badVersion {fault : Version.Fault} (h : Version.parse text = .error fault) :
    s.labels? store state r text = none := by
  simp only [labels?, h]

theorem labels?_of_noEntry {v : Version} {e : ServiceError} (h : Version.parse text = .ok v)
    (he : s.entryFor state.asked r v = .error e) : s.labels? store state r text = none := by
  simp only [labels?, h, he]

theorem labels?_of_entry {v : Version} {entry : MapEntry} (h : Version.parse text = .ok v)
    (he : s.entryFor state.asked r v = .ok entry) :
    s.labels? store state r text =
      (s.remoteConfiguration store state r text).result.toOption.map fun configuration =>
        (entry.artifact, configuration.version) := by
  simp only [labels?, h, he]

/-- Exactly the requests that succeed are counted. -/
theorem isSome_labels? (s : Service) (store : FileStore) (state : ServiceState) (r : Request)
    (text : String) : (s.labels? store state r text).isSome = s.succeeds store state r text := by
  unfold succeeds
  cases hv : Version.parse text with
  | error fault =>
    rw [labels?_of_badVersion hv, (remoteConfiguration_of_badVersion hv).1]
    rfl
  | ok v =>
    cases he : s.entryFor state.asked r v with
    | error e =>
      rw [labels?_of_noEntry hv he, (remoteConfiguration_of_noEntry hv he).1]
      rfl
    | ok entry =>
      rw [labels?_of_entry hv he]
      cases (s.remoteConfiguration store state r text).result with
      | error e => rfl
      | ok configuration => rfl

namespace Settled

theorem cohort_eq (h : s.Settled store) (start state : ServiceState) (r : Request) :
    (s.selector.select state.asked r).cohort = (s.selector.select start.asked r).cohort :=
  h.steady.cohort_eq state.asked start.asked r

theorem entryFor_eq (h : s.Settled store) (start state : ServiceState) (r : Request) (v : Version) :
    s.entryFor state.asked r v = s.entryFor start.asked r v := by
  rw [entryFor, entryFor, h.cohort_eq start state]

theorem resourceFor_eq (h : s.Settled store) (start state : ServiceState) (r : Request)
    (entry : MapEntry) : s.resourceFor state.asked r entry = s.resourceFor start.asked r entry := by
  rw [resourceFor, resourceFor, h.cohort_eq start state]

theorem isFile_resourceFor (h : s.Settled store) {v : Version} {entry : MapEntry}
    (he : s.entryFor state.asked r v = .ok entry) :
    store.isFile (s.resourceFor state.asked r entry) = true := by
  obtain ⟨i, hi, -⟩ := ClusterMap.floor?_eq_some_iff.1 (ClusterMap.resolve_eq_ok_iff.1 he)
  exact h.existing _ entry (List.mem_of_getElem? hi)

/-- A request is answered as it would have been at the start. -/
theorem result_eq (h : s.Settled store) (hsame : start.ShowSame store state) (r : Request)
    (text : String) :
    (s.remoteConfiguration store state r text).result =
      (s.remoteConfiguration store start r text).result := by
  cases hv : Version.parse text with
  | error fault =>
    rw [(remoteConfiguration_of_badVersion hv).1, (remoteConfiguration_of_badVersion hv).1]
  | ok v =>
    have hentry := h.entryFor_eq start state r v
    cases he : s.entryFor start.asked r v with
    | error e =>
      rw [(remoteConfiguration_of_noEntry hv he).1,
        (remoteConfiguration_of_noEntry hv (hentry.trans he)).1]
    | ok entry =>
      rw [(remoteConfiguration_of_entry hv he).1,
        (remoteConfiguration_of_entry hv (hentry.trans he)).1, h.resourceFor_eq start state,
        hsame _ (h.isFile_resourceFor he)]

/-- A request changes nothing of what is shown. -/
theorem showSame_remoteConfiguration (h : s.Settled store) (hsame : start.ShowSame store state)
    (r : Request) (text : String) :
    start.ShowSame store (s.remoteConfiguration store state r text).state := by
  cases hv : Version.parse text with
  | error fault =>
    rw [(remoteConfiguration_of_badVersion hv).2]
    exact hsame
  | ok v =>
    cases he : s.entryFor state.asked r v with
    | error e =>
      rw [(remoteConfiguration_of_noEntry hv he).2]
      exact hsame
    | ok entry =>
      intro p hp
      rw [(remoteConfiguration_of_entry hv he).2,
        h.tree.get_after_get state.cache (h.isFile_resourceFor he) hp]
      exact hsame p hp

/-- A request is counted under its labels. -/
theorem metrics_remoteConfiguration (h : s.Settled store) (hsame : start.ShowSame store state)
    (r : Request) (text : String) :
    (s.remoteConfiguration store state r text).state.metrics =
      state.metrics.after (recordingsOf (s.labels? store start r text).toList) := by
  cases hv : Version.parse text with
  | error fault =>
    rw [labels?_of_badVersion hv, (remoteConfiguration_of_badVersion hv).2]
    rfl
  | ok v =>
    have hentry := h.entryFor_eq start state r v
    cases he : s.entryFor start.asked r v with
    | error e =>
      rw [labels?_of_noEntry hv he, (remoteConfiguration_of_noEntry hv (hentry.trans he)).2]
      rfl
    | ok entry =>
      rw [labels?_of_entry hv he, (remoteConfiguration_of_entry hv (hentry.trans he)).2,
        h.result_eq hsame]
      cases (s.remoteConfiguration store start r text).result with
      | error e => rfl
      | ok configuration => rfl

theorem replayOne_state (s : Service) (store : FileStore) (r : Request) (state : ServiceState)
    (text : String) :
    (Command.replayOne s store r state text).1 = (s.remoteConfiguration store state r text).state := by
  simp only [Command.replayOne]
  split <;> rfl

theorem replay_cons (s : Service) (store : FileStore) (r : Request) (state : ServiceState)
    (text : String) (rest : List String) :
    (Command.replay s store r state (text :: rest)).1 =
      (Command.replay s store r (s.remoteConfiguration store state r text).state rest).1 := by
  rw [← replayOne_state]
  rfl

/-- A replay changes nothing of what is shown. -/
theorem showSame_replay (h : s.Settled store) (hsame : start.ShowSame store state) (r : Request)
    (versions : List String) :
    start.ShowSame store (Command.replay s store r state versions).1 := by
  induction versions generalizing state with
  | nil => exact hsame
  | cons text rest ih =>
    rw [replay_cons]
    exact ih (h.showSame_remoteConfiguration hsame r text)

/-- After a replay, what has been served is counted, in its order. -/
theorem metrics_replay (h : s.Settled store) (hsame : start.ShowSame store state) (r : Request)
    (versions : List String) :
    (Command.replay s store r state versions).1.metrics =
      state.metrics.after (recordingsOf (versions.filterMap (s.labels? store start r))) := by
  induction versions generalizing state with
  | nil => rfl
  | cons text rest ih =>
    rw [replay_cons, ih (h.showSame_remoteConfiguration hsame r text),
      h.metrics_remoteConfiguration hsame r text]
    cases hlabels : s.labels? store start r text with
    | none =>
      rw [List.filterMap_cons_none hlabels]
      rfl
    | some p =>
      rw [List.filterMap_cons_some hlabels]
      rfl

end Settled

/-- On a tree of files a service that has started is settled. -/
theorem settled_of_start {settings : Settings} (htree : store.IsTree)
    (h : (Startup.start settings none store).result = .ok (s, state)) : s.Settled store := by
  have hselector := (Startup.parts_of_start h).2.1
  constructor
  case tree => exact htree
  case existing =>
    dsimp only [Startup.start] at h
    split at h
    · cases h
    · next stable canary hmaps =>
      cases h
      obtain ⟨hstable, hcanary, -⟩ := Startup.loads_of_loadMaps hmaps
      intro cohort entry hentry
      cases cohort with
      | stable =>
        obtain ⟨rows, hbuild⟩ := ClusterMap.exists_rows_of_load hstable
        exact ClusterMap.isFile_artifact hbuild hentry
      | canary =>
        obtain ⟨rows, hbuild⟩ := ClusterMap.exists_rows_of_load hcanary
        exact ClusterMap.isFile_artifact hbuild hentry
  case steady =>
    rw [hselector]
    intro e he
    -- Without an evaluator of its own, a service goes by the list of its settings.
    simp only [Startup.selector, Startup.evaluator, Option.none_or] at he
    split at he
    · cases he
    · cases he
      exact Evaluator.ofList_steady _

end Service

/-! ## Runs -/

namespace Invocation

variable {store : FileStore} {lookup : String → Option String} {file : Option Path} {i : Invocation}
  {service : Service} {state : ServiceState} {versions : List String} {userAgent : Option String}

/-- The configuration in this file and these variables is valid: a service starts with it, in this
state, and a run does not break off before that. -/
def Starts (store : FileStore) (lookup : String → Option String) (file : Option Path)
    (service : Service) (state : ServiceState) : Prop :=
  ∃ s, Settings.load store file lookup = .ok s ∧
    (LogFilter.choose (lookup filterVariable) s.logging.level).isSome = true ∧
    (Startup.start s none store).result = .ok (service, state)

/-- A configuration is valid exactly if its check succeeds. -/
theorem code_check_eq_zero_iff (hi : i.command = .check) :
    (i.run store lookup).code = 0 ↔ ∃ service state, Starts store lookup i.file service state := by
  unfold run Starts
  rw [hi]
  cases hload : Settings.load store i.file lookup with
  | error e =>
    have hkind := Settings.kind_load hload
    simp [Outcome.failed, hkind, ServiceError.Kind.exitCode]
  | ok s =>
    have hlevel : (i.settings s).logging.level = s.logging.level := rfl
    have hstart : (Startup.start (i.settings s) none store).result =
        (Startup.start s none store).result := rfl
    cases hchoice : LogFilter.choose (lookup filterVariable) s.logging.level with
    | none => simp [hlevel, hchoice, brokenOffCode]
    | some filter =>
      cases hresult : (Startup.start s none store).result with
      | error e =>
        have hkind := Startup.kind_start hresult
        simp [hlevel, hchoice, Command.perform_of_refused (.inl rfl) (hstart.trans hresult),
          Outcome.failed, hkind, ServiceError.Kind.exitCode, hresult]
      | ok started =>
        obtain ⟨service, state⟩ := started
        have hcode := Command.code_perform_of_started (c := .check) (.inl rfl)
          (hstart.trans hresult)
        simp [hlevel, hchoice, hresult, List.mem_singleton.1 hcode]

/-- What a replay shows. -/
theorem run_metrics (hi : i.command = .metrics versions userAgent)
    (h : Starts store lookup i.file service state) (htree : store.IsTree) :
    (i.run store lookup).code = 0 ∧
      (i.run store lookup).output =
        (recorded (versions.filterMap
          (service.labels? store state ⟨userAgent⟩))).text.toList := by
  obtain ⟨s, hload, hfilter, hstart⟩ := h
  obtain ⟨filter, hchoice⟩ := Option.isSome_iff_exists.1 hfilter
  have hlevel : (i.settings s).logging.level = s.logging.level := rfl
  -- A start-up does not look at the switch for JSON logs.
  have hstart' : (Startup.start (i.settings s) none store).result = .ok (service, state) := hstart
  have hsettled := Service.settled_of_start htree hstart
  have hreplay := hsettled.metrics_replay (.refl store state) ⟨userAgent⟩ versions
  rw [Startup.metrics_of_start hstart] at hreplay
  simp only [run, hload, hlevel, hchoice, hi, Command.perform, Command.onService, hstart',
    Outcome.after, Command.replayed, Outcome.shown, hreplay, recorded, true_and]

end Invocation

namespace CommandLine

/-- The command line replays requests of clusters of these versions. -/
def Replays (arguments : List String) (lookup : String → Option String) (file : Option Path)
    (versions : List String) (userAgent : Option String) : Prop :=
  ∃ jsonLogs, parse arguments lookup = .ok ⟨file, jsonLogs, .metrics versions userAgent⟩

/-- What a replay shows is told by the requests that succeed; a service that starts in this state
answers them. -/
structure ToldByServed (store : FileStore) (lookup : String → Option String) (file : Option Path)
    (service : Service) (state : ServiceState) (userAgent : Option String) (arguments : List String)
    (versions : List String) : Prop where
  code : (run arguments store lookup).code = 0
  /-- Whatever came before a request, it is answered as it would have been at the start. -/
  answered : ∀ earlier text,
    (service.remoteConfiguration store (Command.replay service store ⟨userAgent⟩ state earlier).1
      ⟨userAgent⟩ text).result =
        (service.remoteConfiguration store state ⟨userAgent⟩ text).result
  /-- A replay with other requests that fail, or without some of these, shows the same. -/
  failing : ∀ arguments' versions', Replays arguments' lookup file versions' userAgent →
    versions'.filter (service.succeeds store state ⟨userAgent⟩) =
        versions.filter (service.succeeds store state ⟨userAgent⟩) →
      (run arguments' store lookup).code = 0 ∧
        (run arguments' store lookup).output = (run arguments store lookup).output
  /-- So does a replay in another order, if all that is served has series of its own. -/
  reordered : Apart (versions.filterMap (service.labels? store state ⟨userAgent⟩)) →
    ∀ arguments' versions', Replays arguments' lookup file versions' userAgent →
      versions'.Perm versions →
        (run arguments' store lookup).code = 0 ∧
          (run arguments' store lookup).output = (run arguments store lookup).output
  /-- There is then one sample for each pair of labels that is served, with the number of requests
  that are served it. -/
  samples : Apart (versions.filterMap (service.labels? store state ⟨userAgent⟩)) →
    ∃ listed : List (String × String), listed.Nodup ∧
      (∀ p, p ∈ listed ↔
        ∃ text ∈ versions, service.labels? store state ⟨userAgent⟩ text = some p) ∧
      sampleLines (String.ofList (run arguments store lookup).output) =
        listed.map fun p => sampleLine p
          (versions.countP fun text => service.labels? store state ⟨userAgent⟩ text == some p)

variable {store : FileStore} {lookup : String → Option String} {file : Option Path}
  {service : Service} {state : ServiceState} {userAgent : Option String} {arguments : List String}
  {versions : List String}

theorem run_replays (hruns : Replays arguments lookup file versions userAgent)
    (hstarts : Invocation.Starts store lookup file service state) (htree : store.IsTree) :
    (run arguments store lookup).code = 0 ∧
      (run arguments store lookup).output =
        (recorded (versions.filterMap
          (service.labels? store state ⟨userAgent⟩))).text.toList := by
  obtain ⟨jsonLogs, hparse⟩ := hruns
  simp only [run, hparse]
  exact Invocation.run_metrics rfl hstarts htree

/-- What is served is what the requests that succeed are served. -/
theorem filterMap_labels?_filter (versions : List String) (r : Request) :
    (versions.filter (service.succeeds store state r)).filterMap (service.labels? store state r) =
      versions.filterMap (service.labels? store state r) := by
  rw [List.filterMap_filter]
  refine List.filterMap_congr fun text _ => ?_
  rw [← Service.isSome_labels?]
  cases service.labels? store state r text <;> rfl

/-- **A replay depends only on the requests that succeed**: on a tree of files and with a valid
configuration it ends with code 0, requests that fail do not show, and, if all that is served has
series of its own, neither does the order of the others: each pair of labels served has one sample,
with the number of requests that are served it. -/
theorem replay_told_by_served (hruns : Replays arguments lookup file versions userAgent)
    (hstarts : Invocation.Starts store lookup file service state) (htree : store.IsTree)
    (hlength : versions.length < 2 ^ 53) :
    ToldByServed store lookup file service state userAgent arguments versions := by
  obtain ⟨hcode, houtput⟩ := run_replays hruns hstarts htree
  have hserved := (List.length_filterMap_le (service.labels? store state ⟨userAgent⟩)
    versions).trans_lt hlength
  constructor
  case code => exact hcode
  case answered =>
    intro earlier text
    obtain ⟨s, -, -, hstart⟩ := hstarts
    have hsettled := Service.settled_of_start htree hstart
    exact hsettled.result_eq
      (hsettled.showSame_replay (.refl store state) ⟨userAgent⟩ earlier)
      ⟨userAgent⟩ text
  case failing =>
    intro arguments' versions' hruns' hfilter
    obtain ⟨hcode', houtput'⟩ := run_replays hruns' hstarts htree
    refine ⟨hcode', ?_⟩
    rw [houtput', houtput, ← filterMap_labels?_filter versions', hfilter, filterMap_labels?_filter]
  case reordered =>
    intro hapart arguments' versions' hruns' hperm
    obtain ⟨hcode', houtput'⟩ := run_replays hruns' hstarts htree
    refine ⟨hcode', ?_⟩
    rw [houtput', houtput,
      Metrics.text_recorded_of_perm (hperm.symm.filterMap _) hapart (by omega)]
  case samples =>
    intro hapart
    obtain ⟨listed, hnodup, hlisted, hlines⟩ := Metrics.sampleLines_recorded hapart hserved
    refine ⟨listed, hnodup, fun p => ?_, ?_⟩
    · rw [hlisted, List.mem_filterMap]
    · rw [houtput, String.ofList_toList, hlines]
      simp only [List.count_filterMap]

/-- A replay of requests that fail in three ways between two that are served the same. -/
def mixedReplay : List String :=
  ["metrics", "--ocp-version", "1.5.0", "--ocp-version", "0.9.0", "--ocp-version", "x",
    "--ocp-version", "2.0.0", "--ocp-version", "1.6.0"]

theorem mixedReplay_told_by_served :
    ∃ service state,
      Replays mixedReplay slashedVariables none ["1.5.0", "0.9.0", "x", "2.0.0", "1.6.0"] none ∧
      Invocation.Starts Startup.slashedFiles.fileStore slashedVariables none service state ∧
      Startup.slashedFiles.fileStore.IsTree ∧
      ToldByServed Startup.slashedFiles.fileStore slashedVariables none service state none
        mixedReplay ["1.5.0", "0.9.0", "x", "2.0.0", "1.6.0"] := by
  have hruns : Replays mixedReplay slashedVariables none
      ["1.5.0", "0.9.0", "x", "2.0.0", "1.6.0"] none := ⟨false, by decide +kernel⟩
  obtain ⟨service, state, hstart⟩ := Startup.start_slashedFiles
  have hstarts : Invocation.Starts Startup.slashedFiles.fileStore slashedVariables none service
      state := ⟨Startup.slashedSettings, rfl, by decide +kernel, hstart⟩
  have htree := Startup.slashedFiles.isTree
  exact ⟨service, state, hruns, hstarts, htree,
    replay_told_by_served hruns hstarts htree (by decide)⟩

end CommandLine

end RemoteRollout
