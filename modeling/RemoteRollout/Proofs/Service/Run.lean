import RemoteRollout.Proofs.Service.Queries

/-!
# Runs of a service

A running service as a step function: clients ask it, and meanwhile the files behind it and the
resources it keeps may change. `Service.run_induction` turns what every step keeps into what every
run keeps.
-/

namespace RemoteRollout

/-! ## Steps -/

/-- What can happen while a service runs. -/
inductive Step where
  | ask (q : Query)
  /-- The counter is looked at. -/
  | count (file version : String)
  /-- The cache is given a resource. -/
  | keep (p : Path) (bytes : Bytes)
  /-- A file is written. -/
  | write (p : Path) (bytes : Bytes)
  /-- A file is removed. -/
  | remove (p : Path)
deriving DecidableEq, Repr

/-- A service at work: the files behind it, and what it remembers. -/
structure World where
  files : MemoryStore
  state : ServiceState

/-- The bytes that the service would be shown of a path: those it keeps, or else those of the
file. -/
def World.bytes? (w : World) (p : Path) : Option Bytes := w.state.cache.bytes? w.files p

namespace Service

/-- What a request for a remote configuration leads to in this world. -/
def served (s : Service) (w : World) (r : Request) (version : String) :
    Except ServiceError RemoteConfiguration :=
  (s.remoteConfiguration w.files.fileStore w.state r version).result

/-- The answer to a step, and the world afterwards. -/
def step (s : Service) (w : World) : Step → Answer × World
  | .ask q =>
    let answered := s.answer w.files.fileStore w.state q
    (answered.1, { w with state := answered.2 })
  | .count file version =>
    (.count (w.state.metrics.count file version),
      { w with state := { w.state with metrics := w.state.metrics.touch file version } })
  | .keep p bytes =>
    (.done, { w with state := { w.state with cache := w.state.cache.set p bytes } })
  | .write p bytes => (.done, { w with files := w.files.set p bytes })
  | .remove p => (.done, { w with files := w.files.erase p })

/-- The answers along a run, and the world after it. -/
def run (s : Service) : World → List Step → List Answer × World
  | w, [] => ([], w)
  | w, a :: as =>
    let first := s.step w a
    let rest := s.run first.2 as
    (first.1 :: rest.1, rest.2)

/-- What every step of a run keeps holds after the run. -/
theorem run_induction {s : Service} {P : World → Prop} {steps : List Step}
    (hstep : ∀ w, ∀ a ∈ steps, P w → P (s.step w a).2) {w : World} (h : P w) :
    P (s.run w steps).2 := by
  induction steps generalizing w with
  | nil => exact h
  | cons a as ih =>
    have hfirst := hstep w a List.mem_cons_self h
    exact ih (fun w b hb => hstep w b (List.mem_cons_of_mem a hb)) hfirst

/-- Queries and reads of the counter leave the files alone, and all that is shown of them. -/
theorem bytes?_step_ask (s : Service) (w : World) (q : Query) (p : Path) :
    (s.step w (.ask q)).2.bytes? p = w.bytes? p := by
  show (s.answer w.files.fileStore w.state q).2.cache.bytes? w.files p = _
  rcases s.answer_cache w.files.fileStore w.state q with h | ⟨p', h⟩
  · rw [h]
    rfl
  · rw [h, Cache.bytes?_get]
    rfl

/-- Bytes that are shown of a path go on being shown as long as no file is removed. -/
theorem isSome_bytes?_step {s : Service} {w : World} {a : Step} (hkeeps : ∀ q, a ≠ .remove q)
    {p : Path} (h : (w.bytes? p).isSome = true) : ((s.step w a).2.bytes? p).isSome = true := by
  cases a with
  | ask q => rwa [bytes?_step_ask]
  | count file version => exact h
  | keep q bytes =>
    show (((w.state.cache.entries.set q bytes).get? p).or (w.files.get? p)).isSome = true
    rw [PathTable.get?_set]
    by_cases hqp : q.components = p.components
    · rw [if_pos hqp]
      rfl
    · rwa [if_neg hqp]
  | write q bytes =>
    show ((w.state.cache.entries.get? p).or ((w.files.set q bytes).get? p)).isSome = true
    rw [PathTable.get?_set]
    by_cases hqp : q.components = p.components
    · rw [if_pos hqp]
      simp
    · rwa [if_neg hqp]
  | remove q => exact absurd rfl (hkeeps q)

end Service

end RemoteRollout
