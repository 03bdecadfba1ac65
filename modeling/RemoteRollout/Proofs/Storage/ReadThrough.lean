import RemoteRollout.Storage.Cache

/-!
# Reading through a cache

What a cache in front of files in memory shows of a path: the bytes it keeps, or else those of the
file. `get_answers` says that a read answers what is shown, and `bytes?_get` that it never changes
what is shown, under any spelling of any path; only `Cache.set` and changes to the files do. While
neither happens, a new cache stays `Transparent`: it shows just the files.
-/

namespace RemoteRollout

namespace PathTable

variable {α : Type}

/-- Spellings of one path are one key. -/
theorem get?_congr (t : PathTable α) {p q : Path} (h : p.components = q.components) :
    t.get? p = t.get? q := by
  rw [get?, get?, h]

theorem isSome_lookup_iff {key : PathKey} {es : List (PathKey × α)} :
    (lookup key es).isSome ↔ key ∈ es.map Prod.fst := by
  induction es with
  | nil => simp [lookup]
  | cons e rest ih =>
    obtain ⟨k, v⟩ := e
    rw [lookup]
    by_cases h : k = key
    · simp [h]
    · simp [h, ih, Ne.symm h]

/-- A value under a path without one comes after those that there are. -/
theorem entries_set_of_none {t : PathTable α} {p : Path} {value : α} (h : t.get? p = none) :
    (t.set p value).entries = t.entries ++ [(p.components, value)] := by
  rw [get?] at h
  show replace p.components value t.entries = _
  generalize t.entries = es at h ⊢
  induction es with
  | nil => rfl
  | cons e rest ih =>
    obtain ⟨k, v⟩ := e
    by_cases hk : k = p.components
    · rw [lookup, if_pos hk] at h
      cases h
    · rw [lookup, if_neg hk] at h
      rw [replace, if_neg hk, ih h, List.cons_append]

end PathTable

theorem MemoryStore.read_eq_ok_iff {files : MemoryStore} {p : Path} {bytes : Bytes} :
    files.fileStore.read p = .ok bytes ↔ files.get? p = some bytes := by
  simp only [fileStore]
  cases files.get? p <;> simp

theorem MemoryStore.isFile_iff {files : MemoryStore} {p : Path} :
    files.fileStore.isFile p = true ↔ (files.get? p).isSome = true := Iff.rfl

namespace Cache

/-- The three ways in which reading a path can go. -/
inductive Outcome (store : FileStore) (c : Cache) (p : Path) : Option Bytes → Cache → Prop where
  | kept {bytes : Bytes} (h : c.entries.get? p = some bytes) : Outcome store c p (some bytes) c
  | read {bytes : Bytes} (h : c.entries.get? p = none) (hread : store.read p = .ok bytes) :
      Outcome store c p (some bytes) { entries := c.entries.set p bytes, reads := c.reads + 1 }
  | failed {failure : ReadFailure} (h : c.entries.get? p = none)
      (hread : store.read p = .error failure) :
      Outcome store c p none { c with reads := c.reads + 1 }

theorem get_outcome (store : FileStore) (c : Cache) (p : Path) :
    Outcome store c p (c.get store p).1 (c.get store p).2.1 := by
  unfold get
  cases h : c.entries.get? p with
  | some bytes => exact .kept h
  | none =>
    cases hread : store.read p with
    | ok bytes => exact .read h hread
    | error failure => exact .failed h hread

/-- Bytes that are kept are answered. -/
theorem get_of_kept {store : FileStore} {c : Cache} {p : Path} {bytes : Bytes}
    (h : c.entries.get? p = some bytes) : (c.get store p).1 = some bytes := by
  rw [get, h]

/-- A read answers nothing only if nothing is kept and the store has nothing either. -/
theorem exists_failure_of_get {store : FileStore} {c : Cache} {p : Path}
    (h : (c.get store p).1 = none) : ∃ failure, store.read p = .error failure := by
  have houtcome := get_outcome store c p
  rw [h] at houtcome
  generalize (c.get store p).2.1 = after at houtcome
  cases houtcome with
  | failed hkept hread => exact ⟨_, hread⟩

/-- A read that answers nothing has asked the store, and that is all. -/
theorem get_of_none {store : FileStore} {c : Cache} {p : Path} (h : (c.get store p).1 = none) :
    (c.get store p).2.1 = { c with reads := c.reads + 1 } := by
  have houtcome := get_outcome store c p
  rw [h] at houtcome
  generalize (c.get store p).2.1 = after at houtcome ⊢
  cases houtcome with
  | failed hkept hread => rfl

/-- What is kept after a read: what it answered, under every spelling of the path, and elsewhere
what was kept before. -/
theorem get?_entries_get (store : FileStore) (c : Cache) (p q : Path) :
    (c.get store p).2.1.entries.get? q =
      if p.components = q.components then (c.get store p).1 else c.entries.get? q := by
  have h := get_outcome store c p
  generalize (c.get store p).1 = answer at h ⊢
  generalize (c.get store p).2.1 = after at h ⊢
  cases h with
  | kept h =>
    by_cases hpq : p.components = q.components
    · rw [if_pos hpq, ← PathTable.get?_congr c.entries hpq, h]
    · rw [if_neg hpq]
  | read h hread => exact PathTable.get?_set ..
  | failed h hread =>
    by_cases hpq : p.components = q.components
    · rw [if_pos hpq, ← PathTable.get?_congr c.entries hpq, h]
    · rw [if_neg hpq]

/-- What is kept after a read: what was kept before, or else what the read answered. -/
theorem get?_entries_get_eq_or (store : FileStore) (c : Cache) (p q : Path) :
    (c.get store p).2.1.entries.get? q =
      (c.entries.get? q).or (if p.components = q.components then (c.get store p).1 else none) := by
  rw [get?_entries_get]
  by_cases hpq : p.components = q.components
  · rw [if_pos hpq, if_pos hpq, ← PathTable.get?_congr c.entries hpq]
    cases h : c.entries.get? p with
    | none => rw [Option.none_or]
    | some bytes => rw [get_of_kept h, Option.some_or]
  · rw [if_neg hpq, if_neg hpq, Option.or_none]

/-- The store is read unless the path is kept. -/
theorem reads_get (store : FileStore) (c : Cache) (p : Path) :
    (c.get store p).2.1.reads =
      if (c.entries.get? p).isSome then c.reads else c.reads + 1 := by
  have h := get_outcome store c p
  generalize (c.get store p).1 = answer at h
  generalize (c.get store p).2.1 = after at h ⊢
  cases h with
  | kept h => rw [h, if_pos Option.isSome_some]
  | read h hread => rw [h, if_neg (by simp)]
  | failed h hread => rw [h, if_neg (by simp)]

/-- A read leaves what is kept as it is, and keeps at most one resource more. -/
theorem entries_get (store : FileStore) (c : Cache) (p : Path) :
    c.entries.entries <+: (c.get store p).2.1.entries.entries ∧
      (c.get store p).2.1.size ≤ c.size + 1 := by
  have h := get_outcome store c p
  generalize (c.get store p).1 = answer at h
  generalize (c.get store p).2.1 = after at h ⊢
  cases h with
  | kept h => exact ⟨List.prefix_rfl, Nat.le_succ _⟩
  | failed h hread => exact ⟨List.prefix_rfl, Nat.le_succ _⟩
  | read h hread =>
    rw [size, PathTable.size, PathTable.entries_set_of_none h]
    exact ⟨List.prefix_append .., by simp [size, PathTable.size]⟩

/-- A read answers what is kept, or else what the store has. -/
theorem get_eq_or (store : FileStore) (c : Cache) (p : Path) :
    (c.get store p).1 = (c.entries.get? p).or (store.read p).toOption := by
  have h := get_outcome store c p
  generalize (c.get store p).1 = answer at h ⊢
  generalize (c.get store p).2.1 = after at h
  cases h with
  | kept h => rw [h, Option.some_or]
  | read h hread =>
    rw [h, hread]
    rfl
  | failed h hread =>
    rw [h, hread]
    rfl

/-- A new cache answers what the store has. -/
theorem get_new (store : FileStore) (p : Path) :
    (({} : Cache).get store p).1 = (store.read p).toOption :=
  get_eq_or store {} p

/-- A read does not bear on the next one, unless both paths are spellings of one path of which the
store has different bytes. -/
theorem get_after_get {store : FileStore} {p q : Path}
    (h : p.components = q.components → (store.read p).toOption = (store.read q).toOption) :
    ((({} : Cache).get store p).2.1.get store q).1 = (({} : Cache).get store q).1 := by
  rw [get_eq_or, get?_entries_get, get_new, get_new]
  by_cases hpq : p.components = q.components
  · rw [if_pos hpq, h hpq, Option.or_self]
  · rw [if_neg hpq]
    rfl

/-- The bytes that the cache shows of a path in front of these files. -/
def bytes? (c : Cache) (files : MemoryStore) (p : Path) : Option Bytes :=
  (c.entries.get? p).or (files.get? p)

variable {files : MemoryStore} {c : Cache}

/-- A read answers what is shown. -/
theorem get_answers (p : Path) : (c.get files.fileStore p).1 = c.bytes? files p := by
  have h := get_outcome files.fileStore c p
  generalize (c.get files.fileStore p).1 = answer at h
  generalize (c.get files.fileStore p).2.1 = after at h
  cases h with
  | kept h => rw [bytes?, h, Option.some_or]
  | read h hread => rw [bytes?, h, Option.none_or, MemoryStore.read_eq_ok_iff.1 hread]
  | failed h hread =>
    rw [bytes?, h, Option.none_or]
    cases hget : files.get? p with
    | none => rfl
    | some bytes => cases hread.symm.trans (MemoryStore.read_eq_ok_iff.2 hget)

/-- A read changes nothing of what is shown: what it keeps was shown before, also under every
other spelling of the path. -/
theorem bytes?_get (p q : Path) :
    (c.get files.fileStore p).2.1.bytes? files q = c.bytes? files q := by
  have h := get_outcome files.fileStore c p
  generalize (c.get files.fileStore p).1 = answer at h
  generalize (c.get files.fileStore p).2.1 = after at h
  cases h with
  | kept h => rfl
  | failed h hread => rfl
  | read h hread =>
    rw [bytes?, bytes?, PathTable.get?_set]
    by_cases hpq : p.components = q.components
    · -- `q` may be another spelling of `p`: the cache knew neither, and both name the file read.
      rw [if_pos hpq, ← PathTable.get?_congr c.entries hpq, h, ← PathTable.get?_congr files hpq,
        MemoryStore.read_eq_ok_iff.1 hread]
      rfl
    · rw [if_neg hpq]

/-- The cache shows exactly the files. -/
def Transparent (c : Cache) (files : MemoryStore) : Prop :=
  ∀ p, c.bytes? files p = files.get? p

theorem Transparent.new (files : MemoryStore) : Transparent {} files := fun _ => rfl

theorem Transparent.get (h : c.Transparent files) (p : Path) :
    (c.get files.fileStore p).2.1.Transparent files := by
  intro q
  rw [bytes?_get, h q]

end Cache

end RemoteRollout
