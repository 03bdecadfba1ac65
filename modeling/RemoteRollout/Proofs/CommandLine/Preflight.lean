import RemoteRollout.CommandLine.Outcome
import RemoteRollout.Proofs.ClusterMap.Floor
import RemoteRollout.Proofs.Service.Requests
import RemoteRollout.Proofs.Startup

/-!
# Checking before serving

A check starts the service and stops there; every command that serves starts it in the same way, from
the same settings and files. So a check that fails tells of each of them how it will fail, and one
that succeeds leaves only the errors of requests (`Service.kind_remoteConfiguration` and its like),
which have exit codes of their own. What neither can tell apart from a failure is a log filter that
breaks the run off before its command begins.
-/

namespace RemoteRollout

open ServiceError (Kind)

/-! ## Errors of requests -/

namespace Service

variable {s : Service} {store : FileStore} {state : ServiceState} {e : ServiceError}

theorem kind_valueOf {α : Type} {read : Json.Reader α} {p : Path} {shown : Option Bytes}
    (h : valueOf read p shown = .error e) : e.kind = .notFound ∨ e.kind = .internal := by
  cases shown with
  | none =>
    cases h
    exact .inl rfl
  | some bytes =>
    have hfails : FailsWith (decodeResource read p bytes) e.kind := ⟨e, h, rfl⟩
    exact .inr (failsWith_decodeResource.1 hfails).1

theorem kind_rules {r : Request} (h : (s.rules store state r).result = .error e) :
    e.kind = .notFound ∨ e.kind = .internal := by
  rw [rules_result] at h
  exact kind_valueOf h

theorem kind_resolve {m : ClusterMap} {v : Version} (h : m.resolve v = .error e) :
    e.kind = .notFound := by
  rw [(ClusterMap.resolve_eq_error_iff.1 h).2]
  rfl

theorem kind_remoteConfiguration {r : Request} {text : String}
    (h : (s.remoteConfiguration store state r text).result = .error e) :
    e.kind ≠ .configInvalid := by
  have hcourse := remoteConfiguration_course s store state r text
  rw [h] at hcourse
  generalize hresult : (Except.error e : Except ServiceError RemoteConfiguration) = result at hcourse
  cases hcourse with
  | badVersion hv =>
    cases hresult
    exact Kind.noConfusion
  | noEntry hv he =>
    cases hresult
    rw [kind_resolve he]
    exact Kind.noConfusion
  | entry hv he =>
    rcases kind_valueOf hresult.symm with hkind | hkind
    · rw [hkind]
      exact Kind.noConfusion
    · rw [hkind]
      exact Kind.noConfusion

theorem kind_resolveArtifact {cohort : Cohort} {text : String}
    (h : (s.resolveArtifact cohort text).1 = .error e) :
    e.kind = .invalidArgument ∨ e.kind = .notFound := by
  unfold resolveArtifact at h
  cases hv : Version.parse text with
  | error fault =>
    rw [hv] at h
    cases h
    exact .inl rfl
  | ok v =>
    rw [hv] at h
    cases he : (s.clusterMap cohort).resolve v with
    | error e' =>
      simp only [he] at h
      cases h
      exact .inr (kind_resolve he)
    | ok entry =>
      simp only [he] at h
      cases h

end Service

/-! ## Errors of start-ups -/

/-- A service that does not start is badly configured. -/
theorem Startup.kind_start {s : Settings} {given : Option Evaluator} {store : FileStore}
    {e : ServiceError} (h : (start s given store).result = .error e) : e.kind = .configInvalid := by
  dsimp only [start] at h
  split at h
  · cases h
    rfl
  · cases h

theorem Settings.kind_base {store : FileStore} {file : Option Path} {e : ServiceError}
    (h : base store file = .error e) : e.kind = .configInvalid := by
  cases file with
  | none => cases h
  | some p =>
    simp only [base, ofFile] at h
    split at h
    · cases h
      rfl
    · split at h
      · cases h
        rfl
      · unfold ofText at h
        cases hdecode : Yaml.decode readText (String.ofList _) with
        | error fault =>
          rw [hdecode] at h
          cases h
          rfl
        | ok s =>
          rw [hdecode] at h
          cases h

/-- Settings that cannot be loaded are a bad configuration. -/
theorem Settings.kind_load {store : FileStore} {file : Option Path}
    {lookup : String → Option String} {e : ServiceError} (h : load store file lookup = .error e) :
    e.kind = .configInvalid := by
  unfold load at h
  cases hbase : base store file with
  | error e' =>
    rw [hbase] at h
    cases h
    exact kind_base hbase
  | ok s =>
    rw [hbase] at h
    cases h

/-! ## Commands -/

namespace Command

/-- The command answers requests, or replays them. -/
def serves : Command → Bool
  | rules _ | remoteConfiguration .. | resolve .. | metrics .. => true
  | check | showSettings | version => false

/-- The codes that a command may end with if the service starts. -/
def requestCodes : Command → List Nat
  | check | metrics .. => [0]
  | rules _ | remoteConfiguration .. => [0, 1, 3]
  | resolve .. => [0, 1]
  | showSettings | version => []

variable {s : Settings} {store : FileStore} {c : Command} {e : ServiceError}

/-- A service that does not start fails every command in the same way. -/
theorem perform_of_refused (hc : c = .check ∨ c.serves = true)
    (h : (Startup.start s none store).result = .error e) :
    c.perform s store = .failed e (Startup.start s none store).events := by
  have hservice : ∀ act, onService s store act = .failed e (Startup.start s none store).events := by
    intro act
    simp only [onService, h]
  cases c with
  | showSettings | version => simp [serves] at hc
  | check | rules | remoteConfiguration | resolve | metrics => exact hservice _

theorem code_onService {service : Service} {state : ServiceState}
    {act : Service → ServiceState → Outcome}
    (h : (Startup.start s none store).result = .ok (service, state)) :
    (onService s store act).code = (act service state).code := by
  simp only [onService, h, Outcome.after]

/-- A command that shows a result ends with code 0 or with that of the error. -/
theorem code_ofResult_mem {α : Type} (result : Except ServiceError α) {f : α → Json.Tree}
    {events : List Event} {codes : List Nat} (hzero : 0 ∈ codes)
    (herror : ∀ e, result = .error e → e.kind.exitCode ∈ codes) :
    (Outcome.ofResult (result.map f) events).code ∈ codes := by
  cases result with
  | ok value => exact hzero
  | error e => exact herror e rfl

/-- Once the service has started, only requests can fail. -/
theorem code_perform_of_started {service : Service} {state : ServiceState}
    (hc : c = .check ∨ c.serves = true)
    (h : (Startup.start s none store).result = .ok (service, state)) :
    (c.perform s store).code ∈ c.requestCodes := by
  cases c with
  | showSettings | version => simp [serves] at hc
  | check | metrics versions userAgent =>
    rw [perform, code_onService h]
    exact List.mem_singleton.2 rfl
  | rules userAgent =>
    rw [perform, code_onService h]
    refine code_ofResult_mem _ List.mem_cons_self fun e he => ?_
    rcases Service.kind_rules he with hkind | hkind
    all_goals simp [hkind, Kind.exitCode, requestCodes]
  | remoteConfiguration version userAgent =>
    rw [perform, code_onService h]
    refine code_ofResult_mem _ List.mem_cons_self fun e he => ?_
    have hkind := Service.kind_remoteConfiguration he
    cases hk : e.kind with
    | configInvalid => exact absurd hk hkind
    | invalidArgument | notFound | internal => simp [Kind.exitCode, requestCodes]
  | resolve version cohort =>
    rw [perform, code_onService h]
    refine code_ofResult_mem (service.resolveArtifact cohort version).1
      List.mem_cons_self fun e he => ?_
    rcases Service.kind_resolveArtifact he with hkind | hkind
    all_goals simp [hkind, Kind.exitCode, requestCodes]

end Command

/-! ## Runs -/

/-- What a check that ended like this says of another run with the same file, variables and
resources. -/
structure Preflight (checked other : Outcome) (c : Command) : Prop where
  /-- If the check succeeds, the other run ends with a code of requests. -/
  sound : checked.code = 0 → other.code ∈ c.requestCodes
  /-- If the check fails, both are refused, with one and the same error. -/
  complete : checked.code ≠ 0 →
    checked.code = Kind.configInvalid.exitCode ∧ other.code = Kind.configInvalid.exitCode ∧
      other.output = [] ∧ ∃ body, checked.bodies = [body] ∧ other.bodies = [body]

theorem Preflight.of_failed {e : ServiceError} (h : e.kind = .configInvalid) {checked other : Outcome}
    (hchecked : checked.code = e.kind.exitCode ∧ checked.bodies = [Outcome.errorBody e])
    (hother : other.code = e.kind.exitCode ∧ other.output = [] ∧
      other.bodies = [Outcome.errorBody e]) (c : Command) : Preflight checked other c := by
  rw [h] at hchecked hother
  constructor
  case sound =>
    intro hzero
    exact absurd (hzero.symm.trans hchecked.1) (by decide)
  case complete =>
    intro _
    exact ⟨hchecked.1, hother.1, hother.2.1, Outcome.errorBody e, hchecked.2, hother.2.2⟩

namespace Invocation

variable {store : FileStore} {lookup : String → Option String} {i j : Invocation}

/-- The settings can be loaded, but the log filter of these variables and settings breaks the run
off. -/
def BreaksOff (store : FileStore) (lookup : String → Option String) (file : Option Path) : Prop :=
  ∃ s, Settings.load store file lookup = .ok s ∧
    LogFilter.choose (lookup filterVariable) s.logging.level = none

theorem run_of_breaksOff (h : BreaksOff store lookup i.file) :
    i.run store lookup = { code := brokenOffCode } := by
  obtain ⟨s, hload, hfilter⟩ := h
  have hlevel : (i.settings s).logging.level = s.logging.level := rfl
  simp only [run, hload, hlevel, hfilter]

/-- The check of a file says of every command that serves how it will end, unless the log filter
breaks both off. -/
theorem preflight (hi : i.command = .check) (hfile : j.file = i.file)
    (hj : j.command.serves = true) (hfilter : ¬ BreaksOff store lookup i.file) :
    Preflight (i.run store lookup) (j.run store lookup) j.command := by
  unfold run
  rw [hfile, hi]
  cases hload : Settings.load store i.file lookup with
  | error e =>
    exact .of_failed (Settings.kind_load hload) ⟨rfl, rfl⟩ ⟨rfl, rfl, rfl⟩ j.command
  | ok s =>
    have hilevel : (i.settings s).logging.level = s.logging.level := rfl
    have hjlevel : (j.settings s).logging.level = s.logging.level := rfl
    cases hchoice : LogFilter.choose (lookup filterVariable) s.logging.level with
    | none => exact absurd ⟨s, hload, hchoice⟩ hfilter
    | some filter =>
      simp only [hilevel, hjlevel, hchoice]
      -- The switch for JSON logs is all that may differ, and a start-up does not look at it.
      have hstart : (Startup.start (j.settings s) none store).result =
          (Startup.start (i.settings s) none store).result := rfl
      cases hresult : (Startup.start (i.settings s) none store).result with
      | error e =>
        rw [Command.perform_of_refused (.inl rfl) hresult,
          Command.perform_of_refused (.inr hj) (hstart.trans hresult)]
        exact .of_failed (Startup.kind_start hresult) ⟨rfl, rfl⟩ ⟨rfl, rfl, rfl⟩ j.command
      | ok started =>
        constructor
        case sound =>
          intro _
          exact Command.code_perform_of_started (.inr hj) (hstart.trans hresult)
        case complete =>
          intro hcode
          have hzero := Command.code_perform_of_started (.inl rfl) hresult
          exact absurd (List.mem_singleton.1 hzero) hcode

end Invocation

namespace CommandLine

/-- **A check tells how the service will do**: of two command lines over the same variables and
files, one that checks and one that serves, the check says how the other will end; unless the log
filter breaks off every run with this configuration file, and then both show nothing at all. -/
theorem check_foretells {checkArguments arguments : List String} {store : FileStore}
    {lookup : String → Option String} {i j : Invocation} (hi : parse checkArguments lookup = .ok i)
    (hj : parse arguments lookup = .ok j) (hcheck : i.command = .check)
    (hserves : j.command.serves = true) (hfile : j.file = i.file) :
    (¬ Invocation.BreaksOff store lookup i.file →
        Preflight (run checkArguments store lookup) (run arguments store lookup) j.command) ∧
      (Invocation.BreaksOff store lookup i.file →
        run checkArguments store lookup = { code := Invocation.brokenOffCode } ∧
          run arguments store lookup = { code := Invocation.brokenOffCode }) := by
  have hrunCheck : run checkArguments store lookup = i.run store lookup := by
    simp only [run, hi]
  have hrun : run arguments store lookup = j.run store lookup := by
    simp only [run, hj]
  rw [hrunCheck, hrun]
  constructor
  · intro hfilter
    exact Invocation.preflight hcheck hfile hserves hfilter
  · intro hbreaks
    have hbreaks' : Invocation.BreaksOff store lookup j.file := by
      rw [hfile]
      exact hbreaks
    exact ⟨Invocation.run_of_breaksOff hbreaks, Invocation.run_of_breaksOff hbreaks'⟩

/-- The variables of a run on the files under other spellings. -/
def slashedVariables (name : String) : Option String :=
  [("GATHERING_CONDITIONS_RULES_PATH", "/rules/"),
    ("GATHERING_CONDITIONS_REMOTE_CONFIGURATION_PATH", "/remote//"),
    ("GATHERING_CONDITIONS_CLUSTER_MAPPING", "./map.json"),
    ("GATHERING_CONDITIONS_CANARY_ENABLED", "True"),
    ("GATHERING_CONDITIONS_CANARY_CLUSTERS", " ,c1")].lookup name

theorem not_breaksOff_slashedVariables :
    ¬ Invocation.BreaksOff Startup.slashedFiles.fileStore slashedVariables none := by
  rintro ⟨s, hload, hfilter⟩
  have hlevel : s.logging.level = "info" := by
    cases hload
    rfl
  have hsome : (LogFilter.choose (slashedVariables filterVariable) "info").isSome = true := by
    decide +kernel
  rw [hlevel] at hfilter
  rw [hfilter] at hsome
  cases hsome

/-- The check of these files foretells how a request of a canary cluster ends whose version is below
the first one of its map. -/
theorem check_foretells_slashedFiles :
    parse ["--log-json", "check"] slashedVariables = .ok ⟨none, true, .check⟩ ∧
      parse ["remote-config", "--ocp-version", "0.9.0", "--user-agent=cluster/c1"]
        slashedVariables = .ok ⟨none, false, .remoteConfiguration "0.9.0" (some "cluster/c1")⟩ ∧
      Preflight (run ["--log-json", "check"] Startup.slashedFiles.fileStore slashedVariables)
        (run ["remote-config", "--ocp-version", "0.9.0", "--user-agent=cluster/c1"]
          Startup.slashedFiles.fileStore slashedVariables)
        (.remoteConfiguration "0.9.0" (some "cluster/c1")) := by
  have hi : parse ["--log-json", "check"] slashedVariables = .ok ⟨none, true, .check⟩ := by
    decide +kernel
  have hj : parse ["remote-config", "--ocp-version", "0.9.0", "--user-agent=cluster/c1"]
      slashedVariables = .ok ⟨none, false, .remoteConfiguration "0.9.0" (some "cluster/c1")⟩ := by
    decide +kernel
  exact ⟨hi, hj, (check_foretells hi hj rfl rfl rfl).1 not_breaksOff_slashedVariables⟩

/-- The variables of a run whose log filter would have to be cut inside of its first letter. -/
def cutFilter (name : String) : Option String :=
  if name = filterVariable then some " é=info" else none

/-- A check can fail and yet not be refused: with such a filter it breaks off, even where there are
no files at all. -/
theorem not_foretold_of_cutFilter :
    ¬ ∀ (checkArguments arguments : List String) (store : FileStore)
      (lookup : String → Option String) (i j : Invocation),
      parse checkArguments lookup = .ok i → parse arguments lookup = .ok j →
      i.command = .check → j.command.serves = true → j.file = i.file →
        Preflight (run checkArguments store lookup) (run arguments store lookup) j.command := by
  intro h
  have hpreflight := h ["check"] ["rules"] (MemoryStore.fileStore {}) cutFilter
    ⟨none, false, .check⟩ ⟨none, false, .rules none⟩ (by decide +kernel) (by decide +kernel)
    rfl rfl rfl
  have hcode : (run ["check"] (MemoryStore.fileStore {}) cutFilter).code =
      Invocation.brokenOffCode := by
    decide +kernel
  have hrefused := (hpreflight.complete (by rw [hcode]; decide)).1
  rw [hcode] at hrefused
  exact absurd hrefused (by decide)

end CommandLine

end RemoteRollout
