import RemoteRollout.Selection

/-!
# Asking the evaluator

A request is served from the canary cohort only on a clear yes (`Selector.cohort_eq_canary_iff`),
and the evaluator is asked for as little as that takes: over a run of requests, once for each id that
is not empty and in the order of the requests (`Selector.askedAfter_eq`), and not at all if the
rollout is off or nobody is there to ask. Nothing else is asked behind the log: two evaluators that
agree about the consultations in it lead to the same selections (`Selector.selections_congr`).
-/

namespace RemoteRollout.Selector

variable {s : Selector} {asked : List String} {r : Request} {rs : List Request}

/-! ## One request -/

theorem select_of_not_isEnabled (h : s.isEnabled = false) (asked : List String) (r : Request) :
    s.select asked r = { cohort := .stable, asked, events := [] } := by
  obtain ⟨enabled, evaluator⟩ := s
  cases enabled with
  | false => rfl
  | true =>
    cases evaluator with
    | none => rfl
    | some e => cases h

/-- What a selection leads to once the rollout is on and there is someone to ask. -/
theorem select_of_evaluator {e : Evaluator} (henabled : s.enabled = true)
    (he : s.evaluator = some e) :
    (s.select asked r).cohort =
        (if r.clusterId = "" then .stable
          else (ofAnswer r.clusterId (e.isCanary asked r.clusterId)).1) ∧
      (s.select asked r).asked = if r.clusterId = "" then asked else r.clusterId :: asked := by
  obtain ⟨enabled, evaluator⟩ := s
  cases henabled
  cases he
  by_cases hid : r.clusterId = ""
  · simp [select, hid]
  · simp [select, hid]

theorem ofAnswer_eq_canary_iff {id : String} {answer : Except FlagFault Bool} :
    (ofAnswer id answer).1 = .canary ↔ answer = .ok true := by
  cases answer with
  | error fault => simp [ofAnswer]
  | ok listed => cases listed <;> simp [ofAnswer]

/-- The rollout is on, and the evaluator says of the id in the request that it takes part, after it
was asked for these ids. -/
def Admits (s : Selector) (asked : List String) (r : Request) : Prop :=
  s.enabled = true ∧ r.clusterId ≠ "" ∧
    ∃ e, s.evaluator = some e ∧ e.isCanary asked r.clusterId = .ok true

theorem cohort_eq_canary_iff : (s.select asked r).cohort = .canary ↔ s.Admits asked r := by
  unfold Admits
  cases henabled : s.enabled with
  | false =>
    rw [select_of_not_isEnabled (by simp [isEnabled, henabled])]
    simp
  | true =>
    cases he : s.evaluator with
    | none =>
      rw [select_of_not_isEnabled (by simp [isEnabled, he])]
      simp
    | some e =>
      rw [(select_of_evaluator henabled he).1]
      by_cases hid : r.clusterId = ""
      · simp [hid]
      · simp [hid, ofAnswer_eq_canary_iff]

theorem cohort_eq_stable_iff : (s.select asked r).cohort = .stable ↔ ¬ s.Admits asked r := by
  rw [← cohort_eq_canary_iff]
  cases (s.select asked r).cohort <;> simp

/-! ## Many requests -/

/-- The selections for some requests, one after the other. -/
def selections (s : Selector) : List String → List Request → List Selected
  | _, [] => []
  | asked, r :: rs => s.select asked r :: s.selections (s.select asked r).asked rs

/-- The ids that the evaluator has been asked for after some requests, the latest first. -/
def askedAfter (s : Selector) (asked : List String) (rs : List Request) : List String :=
  rs.foldl (fun asked r => (s.select asked r).asked) asked

/-- The ids that there is a reason to ask for: those of the requests that have one, if the rollout
is on and there is someone to ask. -/
def consulted (s : Selector) (rs : List Request) : List String :=
  if s.isEnabled then (rs.map Request.clusterId).filter (· ≠ "") else []

theorem consulted_cons (s : Selector) (r : Request) (rs : List Request) :
    s.consulted (r :: rs) = s.consulted [r] ++ s.consulted rs := by
  unfold consulted
  cases s.isEnabled with
  | false => rfl
  | true =>
    by_cases hid : r.clusterId = ""
    · simp [hid]
    · simp [hid]

/-- A selection asks for the id of its request if there is a reason to. -/
theorem asked_select (s : Selector) (asked : List String) (r : Request) :
    (s.select asked r).asked = (s.consulted [r]).reverse ++ asked := by
  unfold consulted
  cases henabled : s.isEnabled with
  | false =>
    rw [select_of_not_isEnabled henabled]
    rfl
  | true =>
    rw [isEnabled, Bool.and_eq_true] at henabled
    obtain ⟨e, he⟩ := Option.isSome_iff_exists.1 henabled.2
    rw [(select_of_evaluator henabled.1 he).2]
    by_cases hid : r.clusterId = ""
    · simp [hid]
    · simp [hid]

/-- The log holds the ids that there was a reason to ask for, in order and once each. -/
theorem askedAfter_eq (s : Selector) (asked : List String) (rs : List Request) :
    s.askedAfter asked rs = (s.consulted rs).reverse ++ asked := by
  induction rs generalizing asked with
  | nil =>
    unfold consulted
    cases s.isEnabled <;> rfl
  | cons r rs ih =>
    rw [askedAfter, List.foldl_cons, ← askedAfter, ih, asked_select, s.consulted_cons r rs,
      List.reverse_append, List.append_assoc]

/-- Each request is decided after the evaluator was asked for the ids of those before it. -/
theorem getElem?_selections (s : Selector) (asked : List String) (rs : List Request) (i : Nat) :
    (s.selections asked rs)[i]? =
      rs[i]?.map (s.select ((s.consulted (rs.take i)).reverse ++ asked)) := by
  induction rs generalizing asked i with
  | nil => rfl
  | cons r rs ih =>
    cases i with
    | zero =>
      rw [← askedAfter_eq]
      rfl
    | succ i =>
      rw [selections, List.getElem?_cons_succ, ih, List.getElem?_cons_succ, List.take_succ_cons,
        s.consulted_cons r, List.reverse_append, List.append_assoc, asked_select]

/-! ## What an evaluator is asked -/

/-- One selection depends on the evaluator by the one answer that it asks for, if it asks at all. -/
theorem select_congr {enabled : Bool} {e e' : Evaluator}
    (h : ∀ id, (select ⟨enabled, some e⟩ asked r).asked = id :: asked →
      e.isCanary asked id = e'.isCanary asked id) :
    select ⟨enabled, some e⟩ asked r = select ⟨enabled, some e'⟩ asked r := by
  cases enabled with
  | false => rfl
  | true =>
    by_cases hid : r.clusterId = ""
    · simp [select, hid]
    · have hanswer := h r.clusterId (by simp [select, hid])
      simp only [select, if_neg hid, hanswer]

theorem suffix_askedAfter (s : Selector) (asked : List String) (rs : List Request) :
    asked <:+ s.askedAfter asked rs := by
  rw [askedAfter_eq]
  exact List.suffix_append ..

/-- Evaluators that agree about all that is asked lead to the same selections. -/
theorem selections_congr {enabled : Bool} {e e' : Evaluator}
    (h : ∀ past id, (id :: past) <:+ askedAfter ⟨enabled, some e⟩ asked rs →
      e.isCanary past id = e'.isCanary past id) :
    selections ⟨enabled, some e⟩ asked rs = selections ⟨enabled, some e'⟩ asked rs := by
  induction rs generalizing asked with
  | nil => rfl
  | cons r rs ih =>
    have hfirst : select ⟨enabled, some e⟩ asked r = select ⟨enabled, some e'⟩ asked r := by
      refine select_congr fun id hid => h asked id ?_
      rw [← hid]
      exact suffix_askedAfter ..
    rw [selections, selections, ← hfirst, ih h]

end RemoteRollout.Selector
