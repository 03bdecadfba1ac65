import RemoteRollout.Proofs.Service.History

/-!
# Served content never changes

Over any history a resource settles once (`Settles`): as long as nobody has read it with success,
all requests for it find nothing, and from then on they are all answered from the bytes that were
read then, whatever becomes of the file. Two facts about a moment carry this: bytes that are read
are kept (`Moment.kept_of_read`), and bytes that are kept stay (`Moment.kept_after`).
-/

namespace RemoteRollout

namespace Service

/-- The moments before the path is first read with success. -/
def untilRead (s : Service) (p : Path) (ms : List Moment) : List Moment :=
  ms.takeWhile fun m => (m.read? s p).isNone

/-- The moments from the first successful read of the path on. -/
def sinceRead (s : Service) (p : Path) (ms : List Moment) : List Moment :=
  ms.dropWhile fun m => (m.read? s p).isNone

/-- The resource settles: the requests that want it find nothing until it is first read, and from
then on they are answered alike for good. -/
structure Settles {α : Type} (s : Service) (read : Json.Reader α) (p : Path)
    (reply : Except ServiceError α → Answer) (Wants : Moment → Prop) (ms : List Moment) :
    Prop where
  /-- Before, the store has no such file, and the resource is missing. -/
  missing : ∀ m ∈ s.untilRead p ms, Wants m →
    (∃ failure, m.scene.store.read p = .error failure) ∧ m.answer s = reply (.error (missing p))
  /-- Afterwards there is one result, a value or an internal error: that of the bytes which the
  first successful read found. -/
  same : ∃ result,
    ((∃ value, result = .ok value) ∨ FailsWith result .internal) ∧
    (∀ first ∈ (s.sinceRead p ms).head?,
      ∃ bytes, first.read? s p = some bytes ∧ result = decodeResource read p bytes) ∧
    ∀ m ∈ s.sinceRead p ms, Wants m → m.answer s = reply result

/-! ## How a resource settles -/

variable {α : Type} {s : Service} {read : Json.Reader α} {p : Path}
  {reply : Except ServiceError α → Answer} {Wants : Moment → Prop} {m : Moment} {ms : List Moment}
  {x : Scene} {bytes : Bytes}

/-- Bytes are a value, or else an internal error. -/
theorem decodeResource_ok_or_internal (read : Json.Reader α) (p : Path) (bytes : Bytes) :
    (∃ value, decodeResource read p bytes = .ok value) ∨
      FailsWith (decodeResource read p bytes) .internal := by
  by_cases h : ∃ value, Json.decode read bytes = .ok value
  · obtain ⟨value, hvalue⟩ := h
    exact .inl ⟨value, decodeResource_eq_ok_iff.2 hvalue⟩
  · exact .inr (failsWith_decodeResource.2 ⟨rfl, h⟩)

theorem Settles.nil : Settles s read p reply Wants [] := by
  constructor
  case missing => exact fun m hm => absurd hm List.not_mem_nil
  case same =>
    refine ⟨_, decodeResource_ok_or_internal read p [], ?_, ?_⟩
    · exact fun first hfirst => by cases hfirst
    · exact fun m hm => absurd hm List.not_mem_nil

/-- A moment that reads nothing of the path puts off when it settles. -/
theorem Settles.cons (h : Settles s read p reply Wants ms) (hread : m.read? s p = none)
    (hmissing : Wants m →
      (∃ failure, m.scene.store.read p = .error failure) ∧
        m.answer s = reply (.error (Service.missing p))) :
    Settles s read p reply Wants (m :: ms) := by
  have huntil : s.untilRead p (m :: ms) = m :: s.untilRead p ms := by
    simp [untilRead, hread]
  have hsince : s.sinceRead p (m :: ms) = s.sinceRead p ms := by
    simp [sinceRead, hread]
  constructor
  case missing =>
    rw [huntil]
    intro k hk hwants
    rcases List.mem_cons.1 hk with rfl | hk
    · exact hmissing hwants
    · exact h.missing k hk hwants
  case same =>
    rw [hsince]
    exact h.same

/-- The path settles at a moment that reads it, if its bytes answer every later request. -/
theorem Settles.of_read (hread : m.read? s p = some bytes)
    (hall : ∀ k ∈ m :: ms, Wants k → k.answer s = reply (decodeResource read p bytes)) :
    Settles s read p reply Wants (m :: ms) := by
  have huntil : s.untilRead p (m :: ms) = [] := by
    simp [untilRead, hread]
  have hsince : s.sinceRead p (m :: ms) = m :: ms := by
    simp [sinceRead, hread]
  constructor
  case missing =>
    rw [huntil]
    exact fun k hk => absurd hk List.not_mem_nil
  case same =>
    rw [hsince]
    refine ⟨_, decodeResource_ok_or_internal read p bytes, ?_, hall⟩
    intro first hfirst
    cases hfirst
    exact ⟨bytes, hread, rfl⟩

/-! ## Kept bytes -/

/-- The moments that want a resource read it, and are answered with what is shown of it. -/
structure Wanting (s : Service) (read : Json.Reader α) (p : Path)
    (reply : Except ServiceError α → Answer) (Wants : Moment → Prop) : Prop where
  reads : ∀ m, Wants m → m.resource? s = some p
  answer : ∀ m, Wants m → m.answer s = reply (valueOf read p (m.shown p))

theorem Wanting.read?_eq (h : Wanting s read p reply Wants) (hm : Wants m) :
    m.read? s p = m.shown p := by
  simp [Moment.read?, h.reads m hm]

theorem Wanting.answer_eq (h : Wanting s read p reply Wants) (hm : Wants m) :
    m.answer s = reply (valueOf read p (m.read? s p)) := by
  rw [h.answer m hm, h.read?_eq hm]

/-- Once bytes are kept, they answer every request that wants them. -/
theorem Wanting.answer_of_kept (h : Wanting s read p reply Wants)
    (hkept : x.state.cache.entries.get? p = some bytes) (hs : List Happening) :
    ∀ m ∈ s.history x hs, Wants m → m.answer s = reply (decodeResource read p bytes) := by
  induction hs generalizing x with
  | nil => exact fun m hm => absurd hm List.not_mem_nil
  | cons a as ih =>
    intro m hm hwants
    rcases List.mem_cons.1 hm with rfl | hm
    · have hshown : Moment.shown ⟨x, a⟩ p = some bytes := Cache.get_of_kept hkept
      rw [h.answer _ hwants, hshown, valueOf]
    · have hafter := Moment.kept_after s ⟨x, a⟩ p
      rw [hkept, Option.some_or] at hafter
      exact ih hafter m hm hwants

/-! ## Histories -/

/-- Over any history, a resource that is read by those who want it settles. -/
theorem Wanting.settles (h : Wanting s read p reply Wants) (x : Scene) (hs : List Happening) :
    Settles s read p reply Wants (s.history x hs) := by
  induction hs generalizing x with
  | nil => exact .nil
  | cons a as ih =>
    cases hread : Moment.read? s ⟨x, a⟩ p with
    | none =>
      -- Nothing was read: if this moment wanted the resource, it was not found.
      refine (ih (s.happen x a).2).cons hread fun hwants => ⟨?_, ?_⟩
      · exact Cache.exists_failure_of_get ((h.read?_eq hwants).symm.trans hread)
      · rw [h.answer_eq hwants, hread, valueOf]
    | some bytes =>
      -- The bytes that were read are kept from here on.
      refine .of_read hread fun m hm hwants => ?_
      rcases List.mem_cons.1 hm with rfl | hm
      · rw [h.answer_eq hwants, hread, valueOf]
      · exact h.answer_of_kept (Moment.kept_of_read hread) as m hm hwants

theorem wanting_entry (s : Service) (cohort : Cohort) (entry : MapEntry) :
    Wanting s RemoteConfiguration.read ((s.clusterMap cohort).artifactPath entry.artifact)
      .remoteConfiguration (Moment.ResolvesTo s · cohort entry) where
  reads _ h := h.resource?_eq
  answer _ h := h.answer_eq

theorem wanting_rules (s : Service) (cohort : Cohort) :
    Wanting s Rules.read (s.rulesResource cohort) .rules (Moment.AsksForRules s · cohort) where
  reads _ h := h.resource?_eq
  answer _ h := h.answer_eq

/-- **Served content never changes**: whatever is done to the files, the artifact of every entry
and the rules of every cohort settle. -/
theorem served_content_settles (s : Service) (x : Scene) (hs : List Happening) (cohort : Cohort) :
    (∀ entry : MapEntry,
      Settles s RemoteConfiguration.read ((s.clusterMap cohort).artifactPath entry.artifact)
        .remoteConfiguration (Moment.ResolvesTo s · cohort entry) (s.history x hs)) ∧
    Settles s Rules.read (s.rulesResource cohort) .rules (Moment.AsksForRules s · cohort)
      (s.history x hs) :=
  ⟨fun entry => (wanting_entry s cohort entry).settles x hs, (wanting_rules s cohort).settles x hs⟩

end Service

end RemoteRollout
