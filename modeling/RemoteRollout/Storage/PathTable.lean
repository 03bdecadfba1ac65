import RemoteRollout.Storage.Path

/-!
# Tables keyed by paths

Values under paths, where all spellings of a path are one key. `get?_set` says what a lookup
answers after a change; `size` counts keys, since none occurs twice.
-/

namespace RemoteRollout

/-- The steps of a path, as a key. -/
abbrev PathKey := List Path.Component

theorem PathTable.nodup_nil {α : Type} : (([] : List (PathKey × α)).map Prod.fst).Nodup :=
  List.nodup_nil

/-- Values under paths, in the order in which the paths were first used. -/
structure PathTable (α : Type) where
  entries : List (PathKey × α) := []
  nodup : (entries.map Prod.fst).Nodup := by first | exact PathTable.nodup_nil | simp

namespace PathTable

variable {α : Type}

instance : Inhabited (PathTable α) := ⟨{}⟩

/-- The value that goes with the key. -/
def lookup (key : PathKey) : List (PathKey × α) → Option α
  | [] => none
  | (k, v) :: rest => if k = key then some v else lookup key rest

/-- The entries with the value under the key, in place of one already there or else at the end. -/
def replace (key : PathKey) (value : α) : List (PathKey × α) → List (PathKey × α)
  | [] => [(key, value)]
  | (k, v) :: rest => if k = key then (key, value) :: rest else (k, v) :: replace key value rest

theorem mem_keys_replace {key k : PathKey} {value : α} {es : List (PathKey × α)} :
    k ∈ (replace key value es).map Prod.fst ↔ k = key ∨ k ∈ es.map Prod.fst := by
  induction es with
  | nil => simp [replace]
  | cons e rest ih =>
    obtain ⟨k', v⟩ := e
    rw [replace]
    split
    · next h => subst h; simp
    · simp only [List.map_cons, List.mem_cons, ih]
      constructor
      · rintro (h | h | h) <;> simp [h]
      · rintro (h | h | h) <;> simp [h]

theorem nodup_replace {key : PathKey} {value : α} {es : List (PathKey × α)}
    (h : (es.map Prod.fst).Nodup) : ((replace key value es).map Prod.fst).Nodup := by
  induction es with
  | nil => simp [replace]
  | cons e rest ih =>
    obtain ⟨k', v⟩ := e
    simp only [List.map_cons, List.nodup_cons] at h
    rw [replace]
    split
    · next hk => subst hk; simpa using h
    · next hk =>
      simp only [List.map_cons, List.nodup_cons, mem_keys_replace, not_or]
      exact ⟨⟨hk, h.1⟩, ih h.2⟩

/-- The value under a path. -/
def get? (t : PathTable α) (p : Path) : Option α := lookup p.components t.entries

/-- Some value is under the path. -/
def contains (t : PathTable α) (p : Path) : Bool := (t.get? p).isSome

/-- The table with this value under the path. -/
def set (t : PathTable α) (p : Path) (value : α) : PathTable α where
  entries := replace p.components value t.entries
  nodup := nodup_replace t.nodup

/-- The table without the path. -/
def erase (t : PathTable α) (p : Path) : PathTable α where
  entries := t.entries.filter (·.1 ≠ p.components)
  nodup := t.nodup.sublist (List.filter_sublist.map _)

/-- How many paths have a value. -/
def size (t : PathTable α) : Nat := t.entries.length

/-- The values under these paths; of repeated paths the last counts. -/
def ofList (es : List (Path × α)) : PathTable α := es.foldl (fun t e => t.set e.1 e.2) {}

theorem lookup_replace (key k : PathKey) (value : α) (es : List (PathKey × α)) :
    lookup k (replace key value es) = if key = k then some value else lookup k es := by
  induction es with
  | nil => simp [replace, lookup]
  | cons e rest ih =>
    obtain ⟨k', v⟩ := e
    rw [replace]
    split
    · next h => subst h; simp only [lookup]; split <;> rfl
    · next h =>
      simp only [lookup, ih]
      split
      · next hk =>
        subst hk
        rw [if_neg fun e => h e.symm]
      · rfl

/-- A lookup after a change: the new value at the changed path, and elsewhere what was there. -/
theorem get?_set (t : PathTable α) (p q : Path) (value : α) :
    (t.set p value).get? q = if p.components = q.components then some value else t.get? q :=
  lookup_replace ..

theorem lookup_filter (key k : PathKey) (es : List (PathKey × α)) :
    lookup k (es.filter (·.1 ≠ key)) = if key = k then none else lookup k es := by
  induction es with
  | nil => simp [lookup]
  | cons e rest ih =>
    obtain ⟨k', v⟩ := e
    by_cases h : k' = key
    · subst h
      simp only [ne_eq, decide_not, List.filter_cons, decide_true, Bool.not_true,
        Bool.false_eq_true, ↓reduceIte, lookup]
      simp only [ne_eq, decide_not] at ih
      rw [ih]
      split
      · rfl
      · rfl
    · simp only [ne_eq, decide_not, List.filter_cons, h, decide_false, Bool.not_false,
        ↓reduceIte, lookup]
      simp only [ne_eq, decide_not] at ih
      rw [ih]
      split
      · next hk =>
        subst hk
        rw [if_neg fun e => h e.symm]
      · rfl

/-- A lookup after a removal. -/
theorem get?_erase (t : PathTable α) (p q : Path) :
    (t.erase p).get? q = if p.components = q.components then none else t.get? q :=
  lookup_filter ..

end PathTable

end RemoteRollout
