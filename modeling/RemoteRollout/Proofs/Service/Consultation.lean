import RemoteRollout.Proofs.Selection.Consultation
import RemoteRollout.Proofs.Service.History
import RemoteRollout.Proofs.Startup

/-!
# Whom a service asks

A service asks its evaluator only to choose a cohort: for rules, and for remote configurations once
the version has been read (`Query.selects?`). Over a run its log grows as that of the selector does
over these requests alone (`Service.asked_outcome`), whatever becomes of the requests afterwards.
-/

namespace RemoteRollout

/-- The request that a cohort is chosen for to answer the query. -/
def Query.selects? : Query → Option Request
  | .rules r => some r
  | .remoteConfiguration r text =>
    match Version.parse text with
    | .ok _ => some r
    | .error _ => none
  | .artifact .. => none

/-- The request that a cohort is chosen for when this happens. -/
def Happening.selects? : Happening → Option Request
  | .ask q => q.selects?
  | .count .. | .change _ => none

namespace Selector

/-- The selections for these requests are safe, and no more is asked than they take. -/
structure FailsSafe (s : Selector) (rs : List Request) : Prop where
  /-- A request is served from the canary cohort on a clear yes about its id, and whatever else
  happens from the stable one. -/
  cohort_iff : ∀ i r, rs[i]? = some r → ∃ selected, (s.selections [] rs)[i]? = some selected ∧
    (selected.cohort = .canary ↔ s.Admits (s.consulted (rs.take i)).reverse r) ∧
    (selected.cohort = .stable ↔ ¬ s.Admits (s.consulted (rs.take i)).reverse r)
  /-- The evaluator has been asked for the ids of the requests that have one, in order. -/
  asked_eq : s.askedAfter [] rs = (s.consulted rs).reverse
  /-- It has been asked for nothing else: an evaluator that agrees with it there leads to the same
  selections. -/
  only_asked : ∀ e e', s.evaluator = some e →
    (∀ past id, (id :: past) <:+ s.askedAfter [] rs → e.isCanary past id = e'.isCanary past id) →
    { s with evaluator := some e' }.selections [] rs = s.selections [] rs

theorem failsSafe (s : Selector) (rs : List Request) : s.FailsSafe rs := by
  constructor
  case cohort_iff =>
    intro i r hr
    refine ⟨_, by rw [getElem?_selections, hr, Option.map_some, List.append_nil], ?_, ?_⟩
    · exact cohort_eq_canary_iff
    · exact cohort_eq_stable_iff
  case asked_eq => rw [askedAfter_eq, List.append_nil]
  case only_asked =>
    obtain ⟨enabled, evaluator⟩ := s
    rintro e e' rfl h
    exact (selections_congr h).symm

end Selector

namespace Service

variable {s : Service} {store : FileStore} {state : ServiceState}

theorem asked_answer (s : Service) (store : FileStore) (state : ServiceState) (q : Query) :
    (s.answer store state q).2.asked =
      s.selector.askedAfter state.asked q.selects?.toList := by
  cases q with
  | artifact cohort text => rfl
  | rules r =>
    show (s.rules store state r).state.asked = _
    rw [rules_state]
    rfl
  | remoteConfiguration r text =>
    show (s.remoteConfiguration store state r text).state.asked = _
    cases hv : Version.parse text with
    | error fault =>
      rw [(remoteConfiguration_of_badVersion hv).2]
      simp only [Query.selects?, hv]
      rfl
    | ok v =>
      simp only [Query.selects?, hv]
      cases he : s.entryFor state.asked r v with
      | error e =>
        rw [(remoteConfiguration_of_noEntry hv he).2]
        rfl
      | ok entry =>
        rw [(remoteConfiguration_of_entry hv he).2]
        rfl

theorem asked_happen (s : Service) (x : Scene) (h : Happening) :
    (s.happen x h).2.state.asked = s.selector.askedAfter x.state.asked h.selects?.toList := by
  cases h with
  | ask q => exact asked_answer s x.store x.state q
  | count file version => rfl
  | change store => rfl

/-- The log of a run is that of its selections. -/
theorem asked_outcome (s : Service) (x : Scene) (hs : List Happening) :
    (s.outcome x hs).state.asked =
      s.selector.askedAfter x.state.asked (hs.filterMap Happening.selects?) := by
  induction hs generalizing x with
  | nil => rfl
  | cons h hs ih =>
    have hrest : (s.outcome x (h :: hs)).state.asked = _ := ih (s.happen x h).2
    rw [hrest, asked_happen, List.filterMap_cons]
    cases h.selects? with
    | none => rfl
    | some r => rfl

/-- Without a version nothing is left to the selector. -/
theorem remoteConfiguration_withSelector {text : String} {fault : Version.Fault}
    (h : Version.parse text = .error fault) (selector : Selector) (r : Request) :
    { s with selector }.remoteConfiguration store state r text =
      s.remoteConfiguration store state r text := by
  unfold remoteConfiguration
  rw [h]

/-- **Selection fails safe, and asks for no more than it takes.** Over any requests the canary
cohort is chosen on a clear yes of the evaluator about the id of the request, which was asked for
just then; over any run the service has asked for these ids, in order and once each. A request whose
version is none is answered without the selector, and so is a question for an artifact. -/
theorem selection_fails_safe :
    (∀ (s : Selector) (rs : List Request), s.FailsSafe rs) ∧
    (∀ (s : Service) (x : Scene) (hs : List Happening),
      (s.outcome x hs).state.asked =
        (s.selector.consulted (hs.filterMap Happening.selects?)).reverse ++ x.state.asked) ∧
    (∀ (s : Service) (store : FileStore) (state : ServiceState) (r : Request) (text : String)
      (fault : Version.Fault) (selector : Selector), Version.parse text = .error fault →
      (s.remoteConfiguration store state r text).state.asked = state.asked ∧
        { s with selector }.remoteConfiguration store state r text =
          s.remoteConfiguration store state r text) ∧
    ∀ (s : Service) (selector : Selector) (cohort : Cohort) (text : String),
      { s with selector }.resolveArtifact cohort text = s.resolveArtifact cohort text := by
  refine ⟨Selector.failsSafe, ?run, ?badVersion, fun s selector cohort text => rfl⟩
  case run =>
    intro s x hs
    rw [asked_outcome, Selector.askedAfter_eq]
  case badVersion =>
    intro s store state r text fault selector h
    exact ⟨by rw [(remoteConfiguration_of_badVersion h).2],
      remoteConfiguration_withSelector h selector r⟩

/-- An evaluator that takes a cluster in when it is first asked for it, and is soon gone. -/
def fickle : Evaluator where
  isCanary past id := if past.length < 2 then .ok (id ∉ past) else .error ⟨"gone"⟩

/-- Requests of a cluster that comes again, of none, and of one that comes too late. -/
def recurring : List Request :=
  [⟨some "cluster/a"⟩, ⟨none⟩, ⟨some "io cluster/a, x"⟩, ⟨some "cluster/b"⟩]

/-- With a fickle evaluator selection is safe as well, and a service that is given it in place of
its own refuses a text without a patch number as before. -/
theorem fickle_fails_safe :
    (Selector.mk true (some fickle)).FailsSafe recurring ∧
    (Selector.selections ⟨true, some fickle⟩ [] recurring).map Selected.cohort =
      [.canary, .stable, .stable, .stable] ∧
    Version.parse "1.0" = .error (.unexpectedEnd .minor) ∧
    ∃ s state, (Startup.start Startup.slashedSettings none Startup.slashedFiles.fileStore).result =
        .ok (s, state) ∧
      (s.remoteConfiguration Startup.slashedFiles.fileStore state ⟨some "cluster/c1"⟩
        "1.0").state.asked = state.asked := by
  obtain ⟨s, state, hstart⟩ := Startup.start_slashedFiles
  have hfault : Version.parse "1.0" = .error (.unexpectedEnd .minor) := rfl
  exact ⟨selection_fails_safe.1 _ _, by decide +kernel, hfault, s, state, hstart,
    (selection_fails_safe.2.2.1 s _ state _ _ _ ⟨true, some fickle⟩ hfault).1⟩

end Service

end RemoteRollout
