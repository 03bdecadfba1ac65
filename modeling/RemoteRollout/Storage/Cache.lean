import RemoteRollout.Storage.FileStore
import RemoteRollout.Event

/-!
# The resource cache

Resources are read from the store on first use and then kept for good. A failed read is not kept:
the next request tries again.
-/

namespace RemoteRollout

/-- The resources read so far, and how often the store has been asked. -/
structure Cache where
  entries : PathTable Bytes := {}
  reads : Nat := 0
deriving Inhabited

namespace Cache

/-- A debug event of the cache. -/
def event (level : Level) (p : Path) (message : String)
    (more : List (String × FieldValue) := []) : Event where
  level := level
  origin := .cache
  message := message
  fields := ("path", .text p.text) :: more

/-- The bytes of a resource, the cache afterwards and what is reported: a kept resource is answered
as it is, any other is read from the store. -/
def get (c : Cache) (store : FileStore) (p : Path) : Option Bytes × Cache × Event :=
  match c.entries.get? p with
  | some bytes => (some bytes, c, event .debug p "cache hit")
  | none =>
    match store.read p with
    | .ok bytes =>
      (some bytes, { entries := c.entries.set p bytes, reads := c.reads + 1 },
        event .debug p "resource file has been read" [("bytes", .count bytes.length)])
    | .error failure =>
      (none, { c with reads := c.reads + 1 },
        event .warn p "resource not found" [("error", .text failure.text)])

/-- The cache with these bytes for a resource. -/
def set (c : Cache) (p : Path) (bytes : Bytes) : Cache := { c with entries := c.entries.set p bytes }

/-- The resource is kept. -/
def contains (c : Cache) (p : Path) : Bool := c.entries.contains p

/-- How many resources are kept. -/
def size (c : Cache) : Nat := c.entries.size

/-- No resource is kept. -/
def isEmpty (c : Cache) : Bool := c.size == 0

/-- The cache as log records show it. -/
def detail (c : Cache) : String := "ResourceCache \x7b entries: " ++ toString c.size ++ ", .. \x7d"

end Cache

end RemoteRollout
