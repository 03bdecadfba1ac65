import Mathlib.Data.Finset.Card
import RemoteRollout.Proofs.Storage.ReadThrough

/-!
# Sessions with a cache

A cache in front of files in memory, and all that has been done with both, the latest first. What
the cache answers, holds and has read can be told from the deeds alone (`Session.Told`):
`Deed.known?` is what they say of a path, `Deed.keys` are the paths they made known, and
`Deed.misses` counts the reads that they took. Paths are one if their components are.
-/

namespace RemoteRollout

/-! ## Operations -/

/-- What can be done with a cache and the files behind it. -/
inductive Operation where
  | get (p : Path)
  | set (p : Path) (bytes : Bytes)
  | contains (p : Path)
  /-- Ask the store whether there is such a file. -/
  | isFile (p : Path)
  | write (p : Path) (bytes : Bytes)
  | remove (p : Path)
deriving DecidableEq, Repr

/-- What is answered to an operation. -/
inductive Response where
  | bytes (shown : Option Bytes)
  | truth (value : Bool)
  | done
deriving DecidableEq, Repr

/-- The response to an operation, and the cache and the files afterwards. -/
def Operation.apply (c : Cache) (files : MemoryStore) :
    Operation → Response × Cache × MemoryStore
  | .get p =>
    let got := c.get files.fileStore p
    (.bytes got.1, got.2.1, files)
  | .set p bytes => (.done, c.set p bytes, files)
  | .contains p => (.truth (c.contains p), c, files)
  | .isFile p => (.truth (files.fileStore.isFile p), c, files)
  | .write p bytes => (.done, c, files.set p bytes)
  | .remove p => (.done, c, files.erase p)

/-- The files after an operation, if only writing and removing changes them. -/
def Operation.change (files : MemoryStore) : Operation → MemoryStore
  | .write p bytes => files.set p bytes
  | .remove p => files.erase p
  | .get _ | .set .. | .contains _ | .isFile _ => files

/-- An operation that was done, how it was answered, and whether the store was read for it. -/
structure Deed where
  operation : Operation
  response : Response
  hasRead : Bool
deriving DecidableEq, Repr

/-- A cache in front of files, and what has been done with them, the latest first. -/
structure Session where
  cache : Cache := {}
  files : MemoryStore
  deeds : List Deed := []

namespace Session

/-- The response to an operation. -/
def respond (x : Session) (a : Operation) : Response := (a.apply x.cache x.files).1

/-- What doing an operation amounts to. -/
def deed (x : Session) (a : Operation) : Deed where
  operation := a
  response := x.respond a
  hasRead := x.cache.reads < (a.apply x.cache x.files).2.1.reads

/-- The session after an operation. -/
def perform (x : Session) (a : Operation) : Session where
  cache := (a.apply x.cache x.files).2.1
  files := (a.apply x.cache x.files).2.2
  deeds := x.deed a :: x.deeds

/-- The session after some operations on a new cache in front of these files. -/
def run (files : MemoryStore) (ops : List Operation) : Session :=
  ops.foldl perform { files }

end Session

/-! ## What the deeds say -/

namespace Deed

/-- The bytes that the cache was given for the path. -/
def set? (p : Path) (d : Deed) : Option Bytes :=
  match d.operation with
  | .set q bytes => if q.components = p.components then some bytes else none
  | _ => none

/-- The bytes that were got for the path. -/
def got? (p : Path) (d : Deed) : Option Bytes :=
  match d.operation, d.response with
  | .get q, .bytes shown => if q.components = p.components then shown else none
  | _, _ => none

/-- The path that became known, by a set or by a get that was answered with bytes. -/
def key? (d : Deed) : Option PathKey :=
  match d.operation, d.response with
  | .set p _, _ => some p.components
  | .get p, .bytes (some _) => some p.components
  | _, _ => none

/-- The file at the path was read with success. -/
def readsFile (p : Path) (d : Deed) : Bool := d.hasRead && (d.got? p).isSome

/-- The bytes of the most recent set of the path. -/
def lastSet? (p : Path) (deeds : List Deed) : Option Bytes := deeds.findSome? (·.set? p)

/-- The bytes of the earliest get of the path that was answered with any. -/
def firstGot? (p : Path) (deeds : List Deed) : Option Bytes := deeds.reverse.findSome? (·.got? p)

/-- The bytes that the deeds made known of the path: sets go before gets. -/
def known? (p : Path) (deeds : List Deed) : Option Bytes :=
  (lastSet? p deeds).or (firstGot? p deeds)

/-- The paths that the deeds made known, as often as they did so. -/
def keys (deeds : List Deed) : List PathKey := deeds.filterMap key?

/-- How many gets came before their path was known. -/
def misses : List Deed → Nat
  | [] => 0
  | d :: past =>
    match d.operation with
    | .get p => if p.components ∈ keys past then misses past else misses past + 1
    | _ => misses past

variable {p : Path} {d : Deed} {past : List Deed}

theorem known?_cons (p : Path) (d : Deed) (past : List Deed) :
    known? p (d :: past) = (d.set? p).or ((known? p past).or (d.got? p)) := by
  have hset : lastSet? p (d :: past) = (d.set? p).or (lastSet? p past) := by
    rw [lastSet?, lastSet?, List.findSome?_cons]
    cases d.set? p <;> rfl
  have hgot : firstGot? p (d :: past) = (firstGot? p past).or (d.got? p) := by
    rw [firstGot?, firstGot?, List.reverse_cons, List.findSome?_append]
    congr 1
    rw [List.findSome?_cons]
    cases d.got? p <;> rfl
  rw [known?, known?, hset, hgot]
  simp only [Option.or_assoc]

theorem key?_eq_some_iff :
    d.key? = some p.components ↔ (d.set? p).isSome ∨ (d.got? p).isSome := by
  obtain ⟨a, response, hasRead⟩ := d
  cases a with
  | get q =>
    cases response with
    | bytes shown => cases shown <;> simp [key?, set?, got?, apply_ite Option.isSome]
    | truth value => simp [key?, set?, got?]
    | done => simp [key?, set?, got?]
  | set q bytes => simp [key?, set?, got?, apply_ite Option.isSome]
  | _ => simp [key?, set?, got?]

theorem mem_keys_cons {k : PathKey} : k ∈ keys (d :: past) ↔ d.key? = some k ∨ k ∈ keys past := by
  cases h : d.key? <;> simp [keys, h, eq_comm]

/-- The known paths are those of which bytes are known. -/
theorem isSome_known?_iff {deeds : List Deed} :
    (known? p deeds).isSome ↔ p.components ∈ keys deeds := by
  induction deeds with
  | nil => simp [known?, lastSet?, firstGot?, keys]
  | cons d past ih =>
    rw [mem_keys_cons, key?_eq_some_iff, known?_cons, ← ih]
    simp only [Option.isSome_or, Bool.or_eq_true]
    tauto

end Deed

/-! ## What an operation does -/

namespace Session

open Deed

variable {x : Session} {a : Operation} {p : Path}

/-- The operation is a get of a path that is not kept. -/
def Misses (x : Session) : Operation → Prop
  | .get p => x.cache.entries.get? p = none
  | _ => False

instance (x : Session) (a : Operation) : Decidable (x.Misses a) := by
  cases a <;> unfold Misses <;> infer_instance

/-- What is kept after an operation is told by the operation and by what was kept before. -/
theorem kept_perform (x : Session) (a : Operation) (p : Path) :
    (x.perform a).cache.entries.get? p =
      ((x.deed a).set? p).or ((x.cache.entries.get? p).or ((x.deed a).got? p)) := by
  cases a with
  | get q => exact (Cache.get?_entries_get_eq_or ..).trans Option.none_or.symm
  | set q bytes =>
    show (x.cache.entries.set q bytes).get? p = Option.or
      (if q.components = p.components then some bytes else none) (Option.or _ none)
    rw [PathTable.get?_set, Option.or_none]
    by_cases hsame : q.components = p.components
    · rw [if_pos hsame, if_pos hsame, Option.some_or]
    · rw [if_neg hsame, if_neg hsame, Option.none_or]
  | contains q => exact Option.or_none.symm
  | isFile q => exact Option.or_none.symm
  | write q bytes => exact Option.or_none.symm
  | remove q => exact Option.or_none.symm

/-- The store is read for gets of paths that are not kept, once for each. -/
theorem reads_perform (x : Session) (a : Operation) :
    (x.perform a).cache.reads = if x.Misses a then x.cache.reads + 1 else x.cache.reads := by
  cases a with
  | get q =>
    show (x.cache.get x.files.fileStore q).2.1.reads = _
    rw [Cache.reads_get]
    by_cases h : x.Misses (.get q)
    · have hnone : x.cache.entries.get? q = none := h
      rw [if_pos h, hnone, if_neg (by simp)]
    · have hsome : (x.cache.entries.get? q).isSome = true := Option.isSome_iff_ne_none.2 h
      rw [if_neg h, if_pos hsome]
  | _ => rfl

theorem hasRead_deed : (x.deed a).hasRead = true ↔ x.Misses a := by
  show decide (x.cache.reads < (x.perform a).cache.reads) = true ↔ _
  rw [decide_eq_true_iff, reads_perform]
  by_cases h : x.Misses a
  · rw [if_pos h]
    exact iff_of_true (Nat.lt_succ_self _) h
  · rw [if_neg h]
    exact iff_of_false (Nat.lt_irrefl _) h

/-- The paths that are kept after an operation: those that were, and the one that it made known. -/
theorem mem_kept_perform (x : Session) (a : Operation) (k : PathKey) :
    k ∈ (x.perform a).cache.entries.entries.map Prod.fst ↔
      (x.deed a).key? = some k ∨ k ∈ x.cache.entries.entries.map Prod.fst := by
  cases a with
  | get q =>
    show k ∈ (x.cache.get x.files.fileStore q).2.1.entries.entries.map Prod.fst ↔
      Deed.key? ⟨.get q, .bytes (x.cache.get x.files.fileStore q).1, _⟩ = some k ∨ _
    have h := Cache.get_outcome x.files.fileStore x.cache q
    generalize (x.cache.get x.files.fileStore q).1 = shown at h ⊢
    generalize (x.cache.get x.files.fileStore q).2.1 = after at h ⊢
    cases h with
    | kept h =>
      -- The path was kept already.
      have hkept := PathTable.isSome_lookup_iff.1 (Option.isSome_of_eq_some h)
      refine ⟨.inr, ?_⟩
      rintro (hk | hk)
      · cases hk
        exact hkept
      · exact hk
    | read h hread =>
      refine PathTable.mem_keys_replace.trans ?_
      simp [Deed.key?, eq_comm]
    | failed h hread => simp [Deed.key?]
  | set q bytes =>
    refine PathTable.mem_keys_replace.trans ?_
    simp [deed, Deed.key?, eq_comm]
  | _ => exact ⟨.inr, fun h => h.resolve_left (by simp [deed, Deed.key?])⟩

/-! ## The deeds tell it all -/

/-- What the cache holds and has read is what the deeds say. -/
structure Told (x : Session) : Prop where
  kept : ∀ p, x.cache.entries.get? p = known? p x.deeds
  mem_kept : ∀ k, k ∈ x.cache.entries.entries.map Prod.fst ↔ k ∈ keys x.deeds
  reads : x.cache.reads = misses x.deeds
  /-- A file that was read with success is known. -/
  once : ∀ p, (x.deeds.filter (·.readsFile p)).length ≤ if p.components ∈ keys x.deeds then 1 else 0

theorem Told.kept_eq_none_iff (h : x.Told) :
    x.cache.entries.get? p = none ↔ p.components ∉ keys x.deeds := by
  rw [h.kept, ← isSome_known?_iff, Option.not_isSome_iff_eq_none]

theorem Told.misses_perform (h : x.Told) (a : Operation) :
    misses (x.deed a :: x.deeds) = if x.Misses a then misses x.deeds + 1 else misses x.deeds := by
  cases a with
  | get q =>
    have hiff : x.Misses (.get q) ↔ q.components ∉ keys x.deeds := h.kept_eq_none_iff
    simp only [misses, deed, hiff]
    split <;> simp_all
  | _ => rfl

/-- A file is read for a path that is not known, which then becomes known. -/
theorem Told.once_perform (h : x.Told) (a : Operation) (p : Path) :
    ((x.deed a :: x.deeds).filter (·.readsFile p)).length ≤
      if p.components ∈ keys (x.deed a :: x.deeds) then 1 else 0 := by
  have hpast := h.once p
  rw [List.filter_cons]
  by_cases hreads : (x.deed a).readsFile p
  · rw [if_pos hreads]
    simp only [Deed.readsFile, Bool.and_eq_true] at hreads
    obtain ⟨hread, hgot⟩ := hreads
    have hnew : p.components ∉ keys x.deeds := by
      cases a with
      | get q =>
        have hmiss : q.components ∉ keys x.deeds := h.kept_eq_none_iff.1 (hasRead_deed.1 hread)
        by_cases hsame : q.components = p.components
        · rwa [← hsame]
        · simp [Deed.got?, deed, respond, Operation.apply, hsame] at hgot
      | _ => exact (hasRead_deed.1 hread).elim
    have hknown : p.components ∈ keys (x.deed a :: x.deeds) :=
      mem_keys_cons.2 (.inl (key?_eq_some_iff.2 (.inr hgot)))
    rw [if_neg hnew] at hpast
    rw [if_pos hknown, List.length_cons]
    omega
  · rw [if_neg hreads]
    refine hpast.trans ?_
    by_cases hknown : p.components ∈ keys x.deeds
    · rw [if_pos hknown, if_pos (mem_keys_cons.2 (.inr hknown))]
    · rw [if_neg hknown]
      exact Nat.zero_le _

theorem Told.perform (h : x.Told) (a : Operation) : (x.perform a).Told where
  kept p := by
    rw [kept_perform, h.kept]
    exact (known?_cons ..).symm
  mem_kept k := by
    rw [mem_kept_perform, h.mem_kept]
    exact mem_keys_cons.symm
  reads := by
    rw [reads_perform, h.reads]
    exact (h.misses_perform a).symm
  once := h.once_perform a

variable {files : MemoryStore} {ops : List Operation}

theorem run_append (files : MemoryStore) (ops : List Operation) (a : Operation) :
    run files (ops ++ [a]) = (run files ops).perform a := by
  rw [run, List.foldl_append]
  rfl

theorem told_run (files : MemoryStore) (ops : List Operation) : (run files ops).Told := by
  induction ops using List.reverseRecOn with
  | nil =>
    constructor
    case kept => exact fun p => rfl
    case mem_kept => exact fun k => Iff.rfl
    case reads => rfl
    case once => exact fun p => Nat.zero_le _
  | append_singleton ops a ih =>
    rw [run_append]
    exact ih.perform a

theorem Told.respond_get (h : x.Told) (p : Path) :
    x.respond (.get p) = .bytes ((known? p x.deeds).or (x.files.get? p)) := by
  show Response.bytes (x.cache.get x.files.fileStore p).1 = _
  rw [Cache.get_answers, Cache.bytes?, h.kept]

theorem Told.respond_contains (h : x.Told) (p : Path) :
    x.respond (.contains p) = .truth (p.components ∈ keys x.deeds) := by
  have hcontains : x.cache.contains p = true ↔ p.components ∈ keys x.deeds := by
    show (x.cache.entries.get? p).isSome = true ↔ _
    rw [h.kept, isSome_known?_iff]
  show Response.truth (x.cache.contains p) = _
  rw [Bool.eq_iff_iff.2 (hcontains.trans decide_eq_true_iff.symm)]

theorem Told.size_eq (h : x.Told) : x.cache.size = (keys x.deeds).toFinset.card := by
  have hkeys : (x.cache.entries.entries.map Prod.fst).toFinset = (keys x.deeds).toFinset := by
    ext k
    rw [List.mem_toFinset, List.mem_toFinset, h.mem_kept]
  rw [← hkeys, List.toFinset_card_of_nodup x.cache.entries.nodup, List.length_map]
  rfl

theorem Told.size_le_perform (h : x.Told) (a : Operation) :
    x.cache.size ≤ (x.perform a).cache.size := by
  rw [h.size_eq, (h.perform a).size_eq]
  refine Finset.card_le_card fun k hk => ?_
  rw [List.mem_toFinset] at hk ⊢
  exact mem_keys_cons.2 (.inr hk)

theorem files_perform (x : Session) (a : Operation) : (x.perform a).files = a.change x.files := by
  cases a <;> rfl

theorem recorded_run (files : MemoryStore) (ops : List Operation) :
    (run files ops).deeds.map Deed.operation = ops.reverse := by
  induction ops using List.reverseRecOn with
  | nil => rfl
  | append_singleton ops a ih =>
    rw [run_append, List.reverse_append, ← ih]
    rfl

theorem files_run (files : MemoryStore) (ops : List Operation) :
    (run files ops).files = ops.foldl Operation.change files := by
  induction ops using List.reverseRecOn with
  | nil => rfl
  | append_singleton ops a ih =>
    rw [run_append, files_perform, ih, List.foldl_append]
    rfl

/-! ## The law -/

/-- What these operations on a new cache in front of these files lead to. -/
structure Lawful (files : MemoryStore) (ops : List Operation) (x : Session) : Prop where
  recorded : x.deeds.map Deed.operation = ops.reverse
  /-- A get answers with what was set last, or else with what was got first, or else with what the
  file holds now. -/
  get : ∀ p, x.respond (.get p) =
    .bytes (((lastSet? p x.deeds).or (firstGot? p x.deeds)).or (x.files.get? p))
  /-- The paths that were set, or got with success, are contained. -/
  contains : ∀ p, x.respond (.contains p) = .truth (p.components ∈ keys x.deeds)
  isFile : ∀ p, x.respond (.isFile p) = .truth (x.files.get? p).isSome
  /-- They are counted once each. -/
  size : x.cache.size = (keys x.deeds).toFinset.card
  size_le : ∀ a, x.cache.size ≤ (x.perform a).cache.size
  reads : x.cache.reads = misses x.deeds
  once : ∀ p, (x.deeds.filter (·.readsFile p)).length ≤ 1
  /-- Only writing and removing changes the files. -/
  files : x.files = ops.foldl Operation.change files

/-- **The law of sessions**: whatever is done with a new cache and the files behind it, in any
order, the deeds tell what it answers, holds and has read. -/
theorem run_lawful (files : MemoryStore) (ops : List Operation) :
    (run files ops).Lawful files ops where
  recorded := recorded_run files ops
  get := (told_run files ops).respond_get
  contains := (told_run files ops).respond_contains
  isFile _ := rfl
  size := (told_run files ops).size_eq
  size_le := (told_run files ops).size_le_perform
  reads := (told_run files ops).reads
  once p := by
    have h := (told_run files ops).once p
    split at h <;> omega
  files := files_run files ops

end Session

end RemoteRollout
