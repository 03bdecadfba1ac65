import RemoteRollout.Storage.FileStore

/-!
# Snapshots

What reading some paths has led to, as a store. A path is known under the text it was read with;
one that has not been read counts as missing.
-/

namespace RemoteRollout

/-- The paths that have been read, with what that has led to; the latest first. -/
structure Snapshot where
  results : List (Path × Except ReadFailure Bytes) := []
deriving Inhabited

namespace Snapshot

/-- What reading the path has led to, if it has been read. -/
def result? (s : Snapshot) (p : Path) : Option (Except ReadFailure Bytes) := s.results.lookup p

/-- The path has been read. -/
def contains (s : Snapshot) (p : Path) : Bool := (s.result? p).isSome

/-- The snapshot with what reading one more path has led to. -/
def insert (s : Snapshot) (p : Path) (result : Except ReadFailure Bytes) : Snapshot :=
  ⟨(p, result) :: s.results⟩

/-- The snapshot as a store. What could be read is a regular file. -/
def fileStore (s : Snapshot) : FileStore where
  read p := (s.result? p).getD (.error .noSuchFile)
  isFile p := ((s.result? p).map Except.toBool).getD false

end Snapshot

end RemoteRollout
