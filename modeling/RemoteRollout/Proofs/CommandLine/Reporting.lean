import RemoteRollout.Proofs.CommandLine.Preflight
import RemoteRollout.Proofs.Documents.RoundTrip

/-!
# What a command shows

The commands that answer one request ask the service for one value (`Command.request?`). The way to it
leads through the settings and the start-up, and the first error on this way is the result
(`Invocation.result`). `Reports` says what the user gets to see of a result: the value on the standard
output, or the error as a single line, which is an object whatever the text of the error holds
(`errorLine_errorBody`). Only a log filter that breaks the run off comes before all this.
-/

namespace RemoteRollout

open Json (Tree Source)
open Text.Utf8 (encode)

/-! ## Error lines -/

/-- The line is an object that holds this text as its only member, under the name `error`. -/
structure ErrorLine (text : String) (line : List Char) : Prop where
  /-- No character of it ends a line. -/
  single : ∀ c ∈ line, 0x20 ≤ c.toNat
  document : (Source.object [(some "error", .string (some text))]).Document line
  /-- Readers find the text. -/
  read : Json.decode ErrorResponse.read (encode line) = .ok ⟨text⟩

theorem errorLine_errorBody (e : ServiceError) : ErrorLine e.text (Outcome.errorBody e) := by
  have hfit : (ErrorResponse.ofError e).tree.NumbersFit := by simp [ErrorResponse.tree]
  constructor
  case single =>
    -- Two literals stand between single characters; what is special in them has been escaped.
    have hmembers : Outcome.errorBody e =
        '{' :: Json.stringText "error" ++ ':' :: Json.stringText e.text ++ ['}'] := rfl
    intro c hc
    rw [hmembers] at hc
    simp only [List.mem_append, List.mem_cons, List.not_mem_nil, or_false] at hc
    rcases hc with ((rfl | hc) | rfl | hc) | rfl
    · decide
    · exact Json.le_toNat_of_mem_stringText hc
    · decide
    · exact Json.le_toNat_of_mem_stringText hc
    · decide
  case document => exact Json.document_compact hfit
  case read => exact (ComesBack.of_recovers ((ErrorResponse.ofError e).recovers _) hfit).1

/-! ## Results -/

/-- What the user sees of a result. -/
inductive Reports : Except ServiceError Tree → Outcome → Prop where
  | shown {t : Tree} {o : Outcome} (hcode : o.code = 0) (houtput : o.output = t.pretty ++ ['\n'])
      (hbodies : o.bodies = []) : Reports (.ok t) o
  | failed {e : ServiceError} {o : Outcome} {line : List Char} (houtput : o.output = [])
      (hbodies : o.bodies = [line]) (hline : ErrorLine e.text line)
      (hrequest : e.kind = .invalidArgument ∨ e.kind = .notFound → o.code = 1)
      (hconfiguration : e.kind = .configInvalid → o.code = 2)
      (hinternal : e.kind = .internal → o.code = 3) : Reports (.error e) o

theorem reports_failed (e : ServiceError) (o : Outcome) (hcode : o.code = e.kind.exitCode)
    (houtput : o.output = []) (hbodies : o.bodies = [Outcome.errorBody e]) :
    Reports (.error e) o := by
  refine .failed houtput hbodies (errorLine_errorBody e) ?_ ?_ ?_
  · rintro (hkind | hkind)
    all_goals rw [hcode, hkind]; rfl
  · intro hkind
    rw [hcode, hkind]
    rfl
  · intro hkind
    rw [hcode, hkind]
    rfl

/-- Log records apart, the outcome of a result reports it. -/
theorem reports_ofResult (result : Except ServiceError Tree) (events shown : List Event)
    (jsonLogs : Bool) :
    Reports result { Outcome.ofResult result events with events := shown, jsonLogs } := by
  cases result with
  | ok t => exact .shown rfl rfl rfl
  | error e => exact reports_failed e _ rfl rfl rfl

/-! ## Commands -/

/-- Events before an operation come before those of its outcome. -/
theorem Outcome.after_ofResult (result : Except ServiceError Tree) (events earlier : List Event) :
    (ofResult result events).after earlier = ofResult result (earlier ++ events) := by
  cases result with
  | ok t => rfl
  | error e => simp only [ofResult, failed, after, List.append_assoc]

namespace Command

/-- The value that a command asks a service for, if it is a command that shows one. -/
def request? : Command →
    Option (FileStore → Service → ServiceState → Except ServiceError Tree)
  | rules userAgent => some fun store service state =>
    (service.rules store state ⟨userAgent⟩).result.map Rules.tree
  | remoteConfiguration ocpVersion userAgent => some fun store service state =>
    (service.remoteConfiguration store state ⟨userAgent⟩ ocpVersion).result.map
      RemoteConfiguration.tree
  | resolve ocpVersion cohort => some fun _ service _ =>
    (service.resolveArtifact cohort ocpVersion).1.map fun p => .string p.text
  | check | metrics .. | showSettings | version => none

/-- The result of a request to a service that is started for it. -/
def resultOf (request : FileStore → Service → ServiceState → Except ServiceError Tree)
    (s : Settings) (store : FileStore) : Except ServiceError Tree := do
  let (service, state) ← (Startup.start s none store).result
  request store service state

variable {c : Command} {request : FileStore → Service → ServiceState → Except ServiceError Tree}

theorem onService_ofResult (s : Settings) (store : FileStore)
    {act : Service → ServiceState → Outcome}
    (h : ∀ service state, ∃ events, act service state =
      .ofResult (request store service state) events) :
    ∃ events, onService s store act = .ofResult (resultOf request s store) events := by
  cases hstart : (Startup.start s none store).result with
  | error e =>
    refine ⟨(Startup.start s none store).events, ?_⟩
    simp only [onService, resultOf, hstart]
    rfl
  | ok started =>
    obtain ⟨service, state⟩ := started
    obtain ⟨events, hact⟩ := h service state
    refine ⟨(Startup.start s none store).events ++ events, ?_⟩
    simp only [onService, resultOf, hstart, hact, Outcome.after_ofResult]
    rfl

/-- A command that shows a value starts a service and asks it for the value. -/
theorem perform_ofResult (h : c.request? = some request) (s : Settings) (store : FileStore) :
    ∃ events, c.perform s store = .ofResult (resultOf request s store) events := by
  cases c with
  | check | metrics | showSettings | version => cases h
  | rules | remoteConfiguration | resolve =>
    cases h
    exact onService_ofResult s store fun _ _ => ⟨_, rfl⟩

end Command

/-! ## Runs -/

namespace Invocation

variable {store : FileStore} {lookup : String → Option String} {i : Invocation}
  {request : FileStore → Service → ServiceState → Except ServiceError Tree}

/-- The result of an invocation that asks for a value: the settings come first, then the start-up,
then the request. -/
def resultOf (request : FileStore → Service → ServiceState → Except ServiceError Tree)
    (i : Invocation) (store : FileStore) (lookup : String → Option String) :
    Except ServiceError Tree := do
  let s ← Settings.load store i.file lookup
  Command.resultOf request s store

/-- A run that does not break off reports the result. -/
theorem run_reports (h : i.command.request? = some request)
    (hfilter : ¬ BreaksOff store lookup i.file) :
    Reports (i.resultOf request store lookup) (i.run store lookup) := by
  unfold run resultOf
  cases hload : Settings.load store i.file lookup with
  | error e => exact reports_failed e _ rfl rfl rfl
  | ok s =>
    have hlevel : (i.settings s).logging.level = s.logging.level := rfl
    cases hchoice : LogFilter.choose (lookup filterVariable) s.logging.level with
    | none => exact absurd ⟨s, hload, hchoice⟩ hfilter
    | some filter =>
      obtain ⟨events, hperform⟩ := Command.perform_ofResult h (i.settings s) store
      -- A start-up does not look at the switch for JSON logs.
      have hresult : Command.resultOf request (i.settings s) store =
          Command.resultOf request s store := rfl
      simp only [hlevel, hchoice, hperform, hresult]
      exact reports_ofResult ..

end Invocation

namespace CommandLine

/-- **What a command line for a value shows**: exactly the value, or else nothing but one line with
the error; the code says which of the two it is, and the kind of the error. A log filter that
breaks the run off leaves no trace but the code of that. -/
theorem outcome_reports {arguments : List String} {store : FileStore}
    {lookup : String → Option String} {i : Invocation}
    {request : FileStore → Service → ServiceState → Except ServiceError Tree}
    (hi : parse arguments lookup = .ok i) (hrequest : i.command.request? = some request) :
    (¬ Invocation.BreaksOff store lookup i.file →
        Reports (i.resultOf request store lookup) (run arguments store lookup)) ∧
      (Invocation.BreaksOff store lookup i.file →
        run arguments store lookup = { code := Invocation.brokenOffCode }) := by
  have hrun : run arguments store lookup = i.run store lookup := by
    simp only [run, hi]
  rw [hrun]
  exact ⟨Invocation.run_reports hrequest, Invocation.run_of_breaksOff⟩

/-- A version that no version is, over several lines and not all of it in letters. -/
def oddVersion : String := "1.0\"\n\x01é"

/-- A request with such a version is told so, on one line. -/
theorem outcome_reports_oddVersion :
    ∃ request, parse ["remote-config", "--ocp-version", oddVersion, "--user-agent", "cluster/c1"]
        slashedVariables = .ok ⟨none, false, .remoteConfiguration oddVersion (some "cluster/c1")⟩ ∧
      (Command.remoteConfiguration oddVersion (some "cluster/c1")).request? = some request ∧
      Reports (Invocation.resultOf request
          ⟨none, false, .remoteConfiguration oddVersion (some "cluster/c1")⟩
          Startup.slashedFiles.fileStore slashedVariables)
        (run ["remote-config", "--ocp-version", oddVersion, "--user-agent", "cluster/c1"]
          Startup.slashedFiles.fileStore slashedVariables) := by
  have hi : parse ["remote-config", "--ocp-version", oddVersion, "--user-agent", "cluster/c1"]
      slashedVariables = .ok ⟨none, false, .remoteConfiguration oddVersion (some "cluster/c1")⟩ := by
    decide +kernel
  exact ⟨_, hi, rfl, (outcome_reports hi rfl).1 not_breaksOff_slashedVariables⟩

/-- With a log filter that would have to be cut inside of a letter, an error is not reported: that
there are no files leads to a code of its own, but the run ends with that of one broken off. -/
theorem not_reported_of_cutFilter :
    ¬ ∀ (arguments : List String) (store : FileStore) (lookup : String → Option String)
      (i : Invocation) (request : FileStore → Service → ServiceState → Except ServiceError Tree),
      parse arguments lookup = .ok i → i.command.request? = some request →
        Reports (i.resultOf request store lookup) (run arguments store lookup) := by
  intro h
  have hreports := h ["resolve", "--ocp-version", "1.0.0"] (MemoryStore.fileStore {}) cutFilter
    ⟨none, false, .resolve "1.0.0" .stable⟩ _ (by decide +kernel) rfl
  have hbodies : (run ["resolve", "--ocp-version", "1.0.0"] (MemoryStore.fileStore {})
      cutFilter).bodies = [] := by
    decide +kernel
  have hcode : (run ["resolve", "--ocp-version", "1.0.0"] (MemoryStore.fileStore {})
      cutFilter).code = Invocation.brokenOffCode := by
    decide +kernel
  generalize Invocation.resultOf _ _ _ _ = result at hreports
  cases hreports with
  | shown hzero => exact absurd (hzero.symm.trans hcode) (by decide)
  | failed _ hline => exact absurd (hline.symm.trans hbodies) (List.cons_ne_nil _ _)

end CommandLine

end RemoteRollout
