import RemoteRollout.Proofs.Reading
import RemoteRollout.Proofs.Storage.Below
import RemoteRollout.Proofs.Storage.ReadThrough
import RemoteRollout.Storage.Disk

/-!
# Trees of files

In a tree of files a path leads to the same file under all its spellings, so reading one file does
not change what a cache shows of another (`FileStore.IsTree.get_after_get`). Files in memory are such
a tree, and so is a disk: what lies between the steps of a path only asks that there is a directory,
so where two spellings lead anywhere they lead to the place where their steps do
(`Disk.followed_of_resolve`).
-/

namespace RemoteRollout

/-- The store shows a tree of files: what is read of a file does not depend on the spelling of its
path. -/
def FileStore.IsTree (store : FileStore) : Prop :=
  ∀ p q : Path, p.components = q.components → store.isFile p = true → store.isFile q = true →
    (store.read p).toOption = (store.read q).toOption

/-- Reading a file does not change what is shown of any file. -/
theorem FileStore.IsTree.get_after_get {store : FileStore} (h : store.IsTree) (c : Cache) {p q : Path}
    (hp : store.isFile p = true) (hq : store.isFile q = true) :
    ((c.get store p).2.1.get store q).1 = (c.get store q).1 := by
  rw [Cache.get_eq_or, Cache.get?_entries_get, Cache.get_eq_or store c q]
  by_cases hpq : p.components = q.components
  · -- The path that was read is another spelling of the one that is shown.
    rw [if_pos hpq, Cache.get_eq_or store c p, PathTable.get?_congr c.entries hpq, h p q hpq hp hq,
      Option.or_assoc, Option.or_self]
  · rw [if_neg hpq]

theorem MemoryStore.isTree (files : MemoryStore) : files.fileStore.IsTree := by
  intro p q hpq _ _
  simp only [fileStore, PathTable.get?_congr files hpq]

namespace Disk

open RemoteRollout.Path (Component)

/-- The piece of a path that is the step. -/
def pieceOf : Component → List Char
  | .root => []
  | .here => ['.']
  | .parent => ['.', '.']
  | .name text => text

/-- Where paths with these steps begin. -/
def startOf (cs : List Component) : Location :=
  if cs.head? = some .root then .outside [] else .inside []

/-- Where these steps lead. -/
def follow (d : Disk) (cs : List Component) : Except ReadFailure Location :=
  (cs.map pieceOf).foldlM d.step (startOf cs)

theorem pieceOf_of_ofPiece? {piece : List Char} {c : Component}
    (h : Component.ofPiece? piece = some c) : pieceOf c = piece := by
  unfold Component.ofPiece? at h
  split at h
  · cases h
  · cases h
  · cases h
    rfl
  · cases h
    rfl

variable {d : Disk} {l l' : Location}

/-- A piece that is no step leads nowhere else. -/
theorem step_of_ofPiece?_none {piece : List Char} (h : Component.ofPiece? piece = none)
    (hstep : d.step l piece = .ok l') : l' = l := by
  have hpiece : piece = [] ∨ piece = ['.'] := by
    unfold Component.ofPiece? at h
    split at h
    · exact .inl rfl
    · exact .inr rfl
    · cases h
    · cases h
  unfold step at hstep
  split at hstep
  · cases hstep
  · rcases hpiece with rfl | rfl
    all_goals
      cases hstep
      rfl

/-- Pieces that lead anywhere lead to where their steps do. -/
theorem foldlM_steps {ps : List (List Char)} (h : ps.foldlM d.step l = .ok l') :
    ((ps.filterMap Component.ofPiece?).map pieceOf).foldlM d.step l = .ok l' := by
  induction ps generalizing l with
  | nil => exact h
  | cons p ps ih =>
    rw [List.foldlM_cons] at h
    obtain ⟨m, hm, hrest⟩ := bind_eq_ok_iff.1 h
    cases hp : Component.ofPiece? p with
    | none =>
      rw [List.filterMap_cons_none hp]
      rw [step_of_ofPiece?_none hp hm] at hrest
      exact ih hrest
    | some c =>
      rw [List.filterMap_cons_some hp, List.map_cons, List.foldlM_cons, pieceOf_of_ofPiece? hp]
      exact bind_eq_ok_iff.2 ⟨m, hm, ih hrest⟩

/-- Where a path leads is told by its steps. -/
theorem followed_of_resolve {p : Path} (h : d.resolve p = .ok l) : d.follow p.components = .ok l := by
  obtain ⟨text⟩ := p
  simp only [resolve] at h
  split at h
  · cases h
  split at h
  · cases h
  split at h
  · cases h
  by_cases hslash : text.toList.head? = some '/'
  · obtain ⟨rest, hrest⟩ : ∃ rest, text.toList = '/' :: rest := List.head?_eq_some_iff.1 hslash
    rw [if_pos hslash, hrest, Text.pieces, if_pos rfl] at h
    rw [Path.components, hrest]
    -- The empty piece before the first slash is the step to the root.
    obtain ⟨m, hm, hsteps⟩ := bind_eq_ok_iff.1 h
    exact bind_eq_ok_iff.2 ⟨m, hm, foldlM_steps hsteps⟩
  · rw [if_neg hslash] at h
    have hstart : startOf (Path.mk text).components = .inside [] :=
      if_neg fun hroot => Path.root_not_mem_components hslash (List.mem_of_mem_head? hroot)
    rw [follow, hstart]
    rcases Path.components_of_relative hslash with hcomponents | hcomponents
    · rw [hcomponents]
      exact foldlM_steps h
    · rw [hcomponents]
      exact bind_eq_ok_iff.2 ⟨.inside [], rfl, foldlM_steps h⟩

theorem resolve_of_isFile {p : Path} (h : d.fileStore.isFile p = true) :
    ∃ names bytes, d.resolve p = .ok (.inside names) ∧ d.fileStore.read p = .ok bytes ∧
      d.file? names = some bytes := by
  simp only [fileStore] at h ⊢
  cases hresolve : d.resolve p with
  | error failure =>
    rw [hresolve] at h
    cases h
  | ok place =>
    rw [hresolve] at h
    cases place with
    | outside names => cases h
    | inside names =>
      obtain ⟨bytes, hbytes⟩ := Option.isSome_iff_exists.1 h
      refine ⟨names, bytes, rfl, ?_, hbytes⟩
      simp only [bind, Except.bind, hbytes]
      rfl

/-- A disk shows a tree of files. -/
theorem isTree (d : Disk) : d.fileStore.IsTree := by
  intro p q hpq hp hq
  obtain ⟨names, bytes, hresolve, hread, hfile⟩ := resolve_of_isFile hp
  obtain ⟨names', bytes', hresolve', hread', hfile'⟩ := resolve_of_isFile hq
  have hfollow := followed_of_resolve hresolve
  rw [hpq, followed_of_resolve hresolve'] at hfollow
  cases hfollow
  cases hfile.symm.trans hfile'
  rw [hread, hread']

end Disk

end RemoteRollout
